/-
JSON values.

Numbers are whole numbers or doubles: `1` and `1.0` are different values, though they compare as
equal numbers. The fields of an object are a `Table`, so they are listed by name.
-/
import Switchboard.Table
import Switchboard.Number.Binary64

namespace Switchboard

/-- A number as it is written: whole, or with a fraction or an exponent. -/
inductive Number
  | int (n : Int)
  | double (x : Binary64)
deriving DecidableEq, Repr

namespace Number

/-- The nearest double. -/
def toBinary64 : Number → Binary64
  | int n => Binary64.ofInt n
  | double x => x

/-- Equality of written numbers; among doubles it is numeric. -/
def same : Number → Number → Bool
  | int a, int b => a == b
  | double a, double b => a.same b
  | _, _ => false

end Number

/-- A JSON document or a part of one. -/
inductive Json
  | null
  | bool (b : Bool)
  | number (n : Number)
  | string (s : String)
  | array (items : List Json)
  | object (fields : List (String × Json))
deriving Repr, Inhabited

namespace Json

instance : Coe String Json := ⟨.string⟩
instance : Coe Bool Json := ⟨.bool⟩

/-- A count as a JSON number. -/
def nat (n : Nat) : Json := .number (.int n)

/-- The object with the given fields, the last of a name counting. -/
def ofFields (fields : List (String × Json)) : Json := .object (Table.ofList fields)

/-- A field of an object; other values have none. -/
def field? : Json → String → Option Json
  | .object fields, name => Table.find? fields name
  | _, _ => none

def string? : Json → Option String
  | .string s => some s
  | _ => none

def bool? : Json → Option Bool
  | .bool b => some b
  | _ => none

def number? : Json → Option Number
  | .number n => some n
  | _ => none

def array? : Json → Option (List Json)
  | .array items => some items
  | _ => none

def isObject : Json → Bool
  | .object _ => true
  | _ => false

mutual

/-- Equality of values. Whole numbers and doubles differ, and the two zeros among the doubles are
equal. -/
def same : Json → Json → Bool
  | .null, .null => true
  | .bool a, .bool b => a == b
  | .number a, .number b => a.same b
  | .string a, .string b => a == b
  | .array a, .array b => sameItems a b
  | .object a, .object b => sameFields a b
  | _, _ => false

def sameItems : List Json → List Json → Bool
  | [], [] => true
  | a :: as, b :: bs => same a b && sameItems as bs
  | _, _ => false

def sameFields : List (String × Json) → List (String × Json) → Bool
  | [], [] => true
  | (k, a) :: as, (l, b) :: bs => k == l && same a b && sameFields as bs
  | _, _ => false

end

end Json

end Switchboard

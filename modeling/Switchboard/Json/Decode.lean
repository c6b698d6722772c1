/-
Reading values of other types out of JSON.

A record has two written forms: an object, whose fields are read in the order in which it lists them,
and an array, whose items are the fields in the order of the record's type. Fields that the type does
not know are passed over in an object and are too many in an array. Of several faults the one that is
read first counts.

* `Decode.string`, `natural`, `list`, `optional`, …: the simple decoders;
* `Decode.record`, `Record.field`, `Record.settle`: decoders of records;
* `Decode.Fault.message`: the account of a fault.
-/
import Switchboard.Json.Basic
import Switchboard.Number.Numeral
import Switchboard.Number.Shortest
import Switchboard.SessionId
import Switchboard.Text.Quoted

namespace Switchboard

namespace Decode

/-! ### Faults -/

/-- Why a value is not of the wanted type. -/
inductive Fault
  | wrongType (found : Json) (expected : String)
  | wrongValue (found : Json) (expected : String)
  | wrongLength (length : Nat) (expected : String)
  | missingField (name : String)
  | repeatedField (name : String)
  | unknownField (name : String) (known : List String)
  | unknownVariant (name : String) (known : List String)
  /-- None of the forms that a type may take fits. -/
  | noVariant (type : String)
  | badAddress (reason : String)
  | badSessionId (reason : SessionId.Fault)
deriving Repr

/-- A value in the account of a fault: its kind, and the value itself where it is short. -/
def describe : Json → String
  | .null => "null"
  | .bool b => "boolean `" ++ (if b then "true" else "false") ++ "`"
  | .number (.int n) => "integer `" ++ toString n ++ "`"
  | .number (.double x) => "floating point `" ++ x.render ++ "`"
  | .string s => "string " ++ Text.quoted s
  | .array _ => "sequence"
  | .object _ => "map"

/-- The choice between names. -/
def oneOf (names : List String) : String :=
  match names.map fun name => "`" ++ name ++ "`" with
  | [a] => a
  | [a, b] => a ++ " or " ++ b
  | all => "one of " ++ ", ".intercalate all

def Fault.message : Fault → String
  | wrongType found expected => "invalid type: " ++ describe found ++ ", expected " ++ expected
  | wrongValue found expected => "invalid value: " ++ describe found ++ ", expected " ++ expected
  | wrongLength length expected =>
    "invalid length " ++ toString length ++ ", expected " ++ expected
  | missingField name => "missing field `" ++ name ++ "`"
  | repeatedField name => "duplicate field `" ++ name ++ "`"
  | unknownField name known => "unknown field `" ++ name ++ "`, expected " ++ oneOf known
  | unknownVariant name known => "unknown variant `" ++ name ++ "`, expected " ++ oneOf known
  | noVariant type => "data did not match any variant of untagged enum " ++ type
  | badAddress reason => reason
  | badSessionId reason => reason.message

end Decode

/-- A reader of values of one type. -/
abbrev Decoder (α : Type) := Json → Except Decode.Fault α

namespace Decode

/-! ### Simple values -/

def string : Decoder String
  | .string s => .ok s
  | v => .error (.wrongType v "a string")

def boolean : Decoder Bool
  | .bool b => .ok b
  | v => .error (.wrongType v "a boolean")

/-- A whole number from zero to `limit`. -/
def natural (limit : Nat) (type : String) : Decoder Nat
  | .number (.int n) =>
    if 0 ≤ n ∧ n ≤ limit then .ok n.toNat else .error (.wrongValue (.number (.int n)) type)
  | v => .error (.wrongType v type)

/-- Counts of 32 bits. -/
def natural32 : Decoder Nat := natural 0xffffffff "u32"

/-- Counts of 64 bits. -/
def natural64 : Decoder Nat := natural Numeral.word64 "u64"

/-- Sizes, which have 64 bits too. -/
def size : Decoder Nat := natural Numeral.word64 "usize"

/-- An object of any fields. -/
def fields : Decoder (List (String × Json))
  | .object fields => .ok fields
  | v => .error (.wrongType v "a map")

/-- Reads the items from the left up to the first fault. -/
def items {α : Type} (item : Decoder α) : List Json → Except Fault (List α)
  | [] => .ok []
  | v :: rest => do
    let a ← item v
    let as ← items item rest
    return a :: as

def list {α : Type} (item : Decoder α) : Decoder (List α)
  | .array vs => items item vs
  | v => .error (.wrongType v "a sequence")

/-- A value that may be null. -/
def optional {α : Type} (decode : Decoder α) : Decoder (Option α)
  | .null => .ok none
  | v => (decode v).map some

/-! ### Records -/

/-- What is said of a record type: its title and its fields in order. -/
structure RecordType where
  title : String
  fields : List String
  /-- What is expected of an array that has too many items. -/
  surplus : String := "fewer elements in array"

/-- A record in one of its written forms. -/
inductive Record
  | named (fields : List (String × Json))
  | listed (items : List Json)

/-- The record that a value is. -/
def record (type : RecordType) : Decoder Record
  | .object fields => .ok (.named fields)
  | .array items => .ok (.listed items)
  | v => .error (.wrongType v type.title)

/-- The fault of a result. -/
def fault? {α : Type} : Except Fault α → Option Fault
  | .ok _ => none
  | .error f => some f

namespace Record

/-- The value of a field. -/
def find? (r : Record) (type : RecordType) (name : String) : Option Json :=
  match r with
  | named fields => Table.find? fields name
  | listed items => items[type.fields.idxOf name]?

/-- The fault of a record that lacks a field. -/
def absent (r : Record) (type : RecordType) (name : String) : Fault :=
  match r with
  | named _ => .missingField name
  | listed _ =>
    .wrongLength (type.fields.idxOf name)
      (type.title ++ " with " ++ toString type.fields.length ++ " elements")

/-- Reads a field that may have a default. -/
def field {α : Type} (r : Record) (type : RecordType) (name : String) (decode : Decoder α)
    (default : Option α) : Except Fault α :=
  match r.find? type name with
  | some v => decode v
  | none =>
    match default with
    | some a => .ok a
    | none => .error (r.absent type name)

/-- The names in the order in which they are read: an object's own fields first, then the missing
ones. -/
def order (r : Record) (type : RecordType) : List String :=
  match r with
  | named fields => Table.names fields ++ type.fields
  | listed _ => type.fields

/-- Reports the fault that is read first, given the faults of the fields. -/
def settle (r : Record) (type : RecordType) (faults : List (String × Option Fault)) :
    Except Fault Unit :=
  match (r.order type).findSome? fun name => (Table.find? faults name).join with
  | some f => .error f
  | none =>
    match r with
    | named _ => .ok ()
    | listed items =>
      if type.fields.length < items.length then .error (.wrongLength items.length type.surplus)
      else .ok ()

end Record

end Decode

end Switchboard

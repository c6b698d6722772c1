/-
Session ids: 128-bit numbers whose upper 48 bits are a time of creation.

An id is written `ses_` and 26 digits in base 32, the most significant first. The digits are the
decimal digits and the upper-case letters except I, L, O and U; either case is read. 26 digits have
two bits more than an id, so the upper two bits of the first digit are dropped in reading.
-/

namespace Switchboard

/-- The identity of a session. -/
structure SessionId where
  value : BitVec 128
deriving DecidableEq, Repr

namespace SessionId

/-- What stands in front of the underscore. -/
def label : String := "ses"

/-- Why a text is no session id. -/
inductive Fault
  | empty
  | noSeparator
  | wrongLabel (actual : String)
  | wrongLength
  | wrongDigit
deriving DecidableEq, Repr

def Fault.message : Fault → String
  | .empty => "ID cannot be empty"
  | .noSeparator => "ID missing underscore separator"
  | .wrongLabel actual => "invalid ID prefix: expected '" ++ label ++ "', got '" ++ actual ++ "'"
  | .wrongLength => "invalid ULID: invalid length"
  | .wrongDigit => "invalid ULID: invalid character"

/-- The 32 digits in order of their values. -/
def digits : List Char := "0123456789ABCDEFGHJKMNPQRSTVWXYZ".toList

/-- The upper-case form of an ASCII letter. -/
def upper (c : Char) : Char :=
  if 'a' ≤ c ∧ c ≤ 'z' then Char.ofNat (c.toNat - 32) else c

/-- The value of a digit of either case. -/
def digitValue? (c : Char) : Option Nat := digits.idxOf? (upper c)

/-- The milliseconds at which the id was created. -/
def timestamp (id : SessionId) : Nat := id.value.toNat >>> 80

/-- The digit of `n` at the given place, counted from the right. -/
def digitAt (n place : Nat) : Char := digits.getD (n / Nat.pow 32 place % 32) '0'

/-- The text of an id. -/
def render (id : SessionId) : String :=
  label ++ "_" ++ String.ofList ((List.range 26).map fun i => digitAt id.value.toNat (25 - i))

/-- Reads digits from the left; what exceeds 128 bits is dropped. -/
def readDigits : List Char → BitVec 128 → Except Fault (BitVec 128)
  | [], value => .ok value
  | c :: rest, value =>
    match digitValue? c with
    | some d => readDigits rest (value <<< 5 ||| BitVec.ofNat 128 d)
    | none => .error .wrongDigit

/-- Reads a session id. -/
def parse (s : String) : Except Fault SessionId :=
  if s.isEmpty then .error .empty
  else
    let before := s.toList.takeWhile (· ≠ '_')
    match s.toList.dropWhile (· ≠ '_') with
    | [] => .error .noSeparator
    | _ :: rest =>
      if String.ofList before ≠ label then .error (.wrongLabel (String.ofList before))
      else if (String.ofList rest).utf8ByteSize ≠ 26 then .error .wrongLength
      else (readDigits rest 0).map SessionId.mk

/-- Ids in ascending order. -/
def sort (ids : List SessionId) : List SessionId :=
  ids.mergeSort fun a b => a.value.toNat ≤ b.value.toNat

end SessionId

end Switchboard

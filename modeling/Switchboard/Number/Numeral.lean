/-
Decimal numerals of bounded whole numbers.

A numeral is an optional sign and at least one ASCII digit, and leading zeros are allowed. It is read
from the left, so of two faults the one further left is reported.
-/

namespace Switchboard

namespace Numeral

/-- Why a text is no numeral of the wanted range. -/
inductive Fault
  | empty
  | notADigit
  | tooLarge
  | tooSmall
deriving DecidableEq, Repr

namespace Fault

def message : Fault → String
  | empty => "cannot parse integer from empty string"
  | notADigit => "invalid digit found in string"
  | tooLarge => "number too large to fit in target type"
  | tooSmall => "number too small to fit in target type"

end Fault

/-- The value of an ASCII digit. -/
def digit? (c : Char) : Option Nat :=
  if '0' ≤ c ∧ c ≤ '9' then some (c.toNat - '0'.toNat) else none

/-- Reads digits from the left as long as the value stays at most `limit`. -/
def readDigits (limit : Nat) (excess : Fault) : List Char → Nat → Except Fault Nat
  | [], value => .ok value
  | c :: rest, value =>
    match digit? c with
    | none => .error .notADigit
    | some d =>
      if value * 10 + d ≤ limit then readDigits limit excess rest (value * 10 + d) else .error excess

/-- A whole number that is at most `limit`. -/
def readNat (limit : Nat) (s : String) : Except Fault Nat :=
  match s.toList with
  | [] => .error .empty
  | ['+'] | ['-'] => .error .notADigit
  | '+' :: digits => readDigits limit .tooLarge digits 0
  | digits => readDigits limit .tooLarge digits 0

/-- An integer between `-(limit + 1)` and `limit`. -/
def readInt (limit : Nat) (s : String) : Except Fault Int :=
  match s.toList with
  | [] => .error .empty
  | ['+'] | ['-'] => .error .notADigit
  | '+' :: digits => (readDigits limit .tooLarge digits 0).map Int.ofNat
  | '-' :: digits => (readDigits (limit + 1) .tooSmall digits 0).map fun n => -(n : Int)
  | digits => (readDigits limit .tooLarge digits 0).map Int.ofNat

/-- The largest value of a 64-bit word. -/
def word64 : Nat := 0xffffffffffffffff

/-- The largest value of a signed 64-bit word. -/
def signed64 : Nat := 0x7fffffffffffffff

/-- A 64-bit index. -/
def index? (s : String) : Option Nat := (readNat word64 s).toOption

/-- A signed 64-bit integer. -/
def integer? (s : String) : Option Int := (readInt signed64 s).toOption

end Numeral

end Switchboard

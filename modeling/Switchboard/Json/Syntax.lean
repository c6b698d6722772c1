/-
What JSON texts are made of.

* `SyntaxError`: where and why a text stops being JSON, with its wording;
* `JsonText.skipBlanks`, `spanDigits`, `readWord`, `readHex4`: the smallest parts of a text. Each gives
  the text that is left.
-/
import Switchboard.Number.Numeral

namespace Switchboard

/-- Where and why a text stops being JSON. -/
inductive SyntaxError
  | endInValue
  | endInString
  | endInArray
  | endInObject
  | colonExpected
  | arraySeparatorExpected
  | objectSeparatorExpected
  | wordExpected
  | valueExpected
  | invalidEscape
  | invalidNumber
  | numberOutOfRange
  | controlCharacter
  | keyNotString
  | loneSurrogate
  | unfinishedSurrogate
  | trailingComma
  | trailingCharacters
  | tooDeep
deriving DecidableEq, Repr

namespace SyntaxError

def message : SyntaxError → String
  | endInValue => "EOF while parsing a value"
  | endInString => "EOF while parsing a string"
  | endInArray => "EOF while parsing a list"
  | endInObject => "EOF while parsing an object"
  | colonExpected => "expected `:`"
  | arraySeparatorExpected => "expected `,` or `]`"
  | objectSeparatorExpected => "expected `,` or `\x7d`"
  | wordExpected => "expected ident"
  | valueExpected => "expected value"
  | invalidEscape => "invalid escape"
  | invalidNumber => "invalid number"
  | numberOutOfRange => "number out of range"
  | controlCharacter => "control character (\\u0000-\\u001F) found while parsing a string"
  | keyNotString => "key must be a string"
  | loneSurrogate => "lone leading surrogate in hex escape"
  | unfinishedSurrogate => "unexpected end of hex escape"
  | trailingComma => "trailing comma"
  | trailingCharacters => "trailing characters"
  | tooDeep => "recursion limit exceeded"

end SyntaxError

namespace JsonText

def isBlank (c : Char) : Bool := c == ' ' || c == '\t' || c == '\n' || c == '\r'

def skipBlanks (cs : List Char) : List Char := cs.dropWhile isBlank

/-- Reads the rest of a word such as `null`. -/
def readWord : List Char → List Char → Except SyntaxError (List Char)
  | [], cs => .ok cs
  | _ :: _, [] => .error .endInValue
  | w :: ws, c :: cs => if w = c then readWord ws cs else .error .wordExpected

/-- The longest start of `cs` that consists of digits, and the rest. -/
def spanDigits (cs : List Char) : List Char × List Char :=
  cs.span fun c => (Numeral.digit? c).isSome

/-- The value of a hexadecimal digit. -/
def hexDigit? (c : Char) : Option Nat :=
  if '0' ≤ c ∧ c ≤ '9' then some (c.toNat - '0'.toNat)
  else if 'a' ≤ c ∧ c ≤ 'f' then some (c.toNat - 'a'.toNat + 10)
  else if 'A' ≤ c ∧ c ≤ 'F' then some (c.toNat - 'A'.toNat + 10)
  else none

/-- Reads four hexadecimal digits. -/
def readHex4 (cs : List Char) : Except SyntaxError (Nat × List Char) :=
  let bytes := (cs.take 4).foldl (fun n c => n + c.utf8Size) 0
  let digits := (cs.take 4).filterMap hexDigit?
  if bytes < 4 then .error .endInString
  else if digits.length < 4 then .error .invalidEscape
  else .ok (digits.foldl (fun n d => n * 16 + d) 0, cs.drop 4)

end JsonText

end Switchboard

/-
Percent-encoded bytes in addresses and queries.
-/
import Switchboard.Text.Utf8

namespace Switchboard

namespace Percent

def hexDigit? (b : UInt8) : Option UInt8 :=
  if 0x30 ≤ b ∧ b ≤ 0x39 then some (b - 0x30)
  else if 0x41 ≤ b ∧ b ≤ 0x46 then some (b - 0x41 + 10)
  else if 0x61 ≤ b ∧ b ≤ 0x66 then some (b - 0x61 + 10)
  else none

/-- Puts bytes in place of their escapes. A percent sign that starts no escape stays. -/
def unescape : List UInt8 → List UInt8
  | [] => []
  | [a] => [a]
  | [a, b] => [a, b]
  | a :: b :: c :: rest =>
    match a == 0x25, hexDigit? b, hexDigit? c with
    | true, some h, some l => (h * 16 + l) :: unescape rest
    | _, _, _ => a :: unescape (b :: c :: rest)

/-- The text behind a segment of an address, if its bytes form a text. -/
def decode? (s : String) : Option String := Utf8.decode? (unescape (Utf8.encode s))

/-- The text behind one side of a query's `name=value`, where a plus sign stands for a blank. -/
def decodeForm (s : String) : String :=
  Utf8.decodeLossy (unescape ((Utf8.encode s).map fun b => if b = 0x2B then 0x20 else b))

/-- The pairs of a query; empty parts between ampersands are skipped. -/
def formPairs (query : String) : List (String × String) :=
  ((query.splitOn "&").filter fun part => !part.isEmpty).map fun part =>
    match part.splitOn "=" with
    | [] => ("", "")
    | [name] => (decodeForm name, "")
    | name :: rest => (decodeForm name, decodeForm ("=".intercalate rest))

end Percent

end Switchboard

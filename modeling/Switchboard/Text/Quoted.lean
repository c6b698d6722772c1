/-
Texts in quotes for a human reader: what cannot be seen is written as an escape.
-/
import Switchboard.Unicode.Newest

namespace Switchboard

namespace Text

/-- A number in lower-case hexadecimal digits. -/
def hexLower (n : Nat) : String := String.ofList (Nat.toDigits 16 n)

/-- The two marks that are wide enough to stand by themselves although they extend what is in front of
them. -/
def wideMarks : Unicode.RangeSet := .range 0xff9e 0xff9f

/-- What cannot be seen by itself: controls, formats, private and unassigned code points, every blank
except the space, what is there to be ignored, and what extends the character in front of it. -/
def hidden : Unicode.RangeSet :=
  (Unicode.RangeSet.unions [Unicode.Newest.assigned.complement,
    Unicode.categories ["cc", "cf", "co", "zl", "zp", "zs"], Unicode.defaultIgnorable,
    Unicode.Newest.graphemeExtend]).minus (wideMarks.union (.range 0x20 0x20))

/-- A character as it stands in quotes. -/
def quoteChar (c : Char) : String :=
  match c with
  | '"' => "\\\""
  | '\\' => "\\\\"
  | '\t' => "\\t"
  | '\r' => "\\r"
  | '\n' => "\\n"
  | '\x00' => "\\0"
  | c =>
    if c.toNat < 0x7f ∧ 0x20 ≤ c.toNat then c.toString
    else if hidden.contains c.toNat then "\\u\x7b" ++ hexLower c.toNat ++ "\x7d"
    else c.toString

/-- A text in quotes. -/
def quoted (s : String) : String := "\"" ++ String.join (s.toList.map quoteChar) ++ "\""

end Text

end Switchboard

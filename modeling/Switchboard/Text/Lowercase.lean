/-
Lower case of whole texts.

Two characters need more than a map from character to character: the dotted capital I becomes an `i`
with a combining dot, and a capital sigma becomes a final sigma where it ends a word.
-/
import Switchboard.Unicode.CaseMap
import Switchboard.Unicode.Newest

namespace Switchboard

namespace Text

/-- Whether the first character that has a bearing on case is a cased letter. -/
def startsCased (cs : List Char) : Bool :=
  match cs.dropWhile fun c => Unicode.Newest.caseIgnorable.contains c.toNat with
  | [] => false
  | c :: _ => Unicode.Newest.cased.contains c.toNat

/-- Lower case of `cs`, where `before` is what stands in front of it, the nearest character first. -/
def lowerFrom : List Char → List Char → List Char
  | _, [] => []
  | before, c :: rest =>
    let low :=
      if c = 'İ' then ['i', '\u0307']
      else if c = 'Σ' then if startsCased before && !startsCased rest then ['ς'] else ['σ']
      else [Unicode.lowerCase.apply c]
    low ++ lowerFrom (c :: before) rest

/-- The text in lower case. -/
def lowercase (s : String) : String := String.ofList (lowerFrom [] s.toList)

end Text

end Switchboard

/-
Patterns for texts: regular expressions over characters.

A pattern is kept as it was written, with one exception: every node knows the flags in force where it
stands. Whether case counts may be left open there; it is then settled when the pattern is used, so
reading a pattern does not depend on it.

* `Pattern.CharSet`, `CharSet.members`: sets of characters as they are written, and what they have;
* `Pattern.Look`, `Pattern.Node`: patterns;
* `Node.depth`: how deep a pattern nests.
-/
import Switchboard.Unicode.CaseMap
import Switchboard.Unicode.Property

namespace Switchboard

namespace Pattern

open Unicode (RangeSet)

/-- How two sets between brackets are combined. -/
inductive SetOp
  | intersection
  | difference
  | symmetricDifference
deriving DecidableEq, Repr

/-- A set of characters as it is written. -/
inductive CharSet
  /-- The characters between two code points. -/
  | range (first last : Nat)
  /-- A set with a name, closed under case if case does not count. -/
  | named (set : RangeSet) (negated : Bool)
  /-- Digits, blanks or word characters, which are the same whether case counts or not. -/
  | shorthand (set : RangeSet) (negated : Bool)
  | union (items : List CharSet)
  | combine (op : SetOp) (left right : CharSet)
  | bracket (negated : Bool) (inner : CharSet)

/-- What a position has to satisfy, in terms of the characters around it. Where words matter, `wide`
tells whether they consist of Unicode's word characters or of ASCII's. -/
inductive Look
  | textStart
  | textEnd
  | lineStart (crlf : Bool)
  | lineEnd (crlf : Bool)
  | wordBoundary (wide : Bool)
  | noWordBoundary (wide : Bool)
  | wordStart (wide : Bool)
  | wordEnd (wide : Bool)
  | wordStartHalf (wide : Bool)
  | wordEndHalf (wide : Bool)
deriving DecidableEq, Repr

/-- A pattern. In `literal` and `chars`, `anyCase` is `none` where the pattern leaves open whether
case counts; `wide` tells whether case is Unicode's or ASCII's. -/
inductive Node
  | empty
  | literal (n : Nat) (anyCase : Option Bool) (wide : Bool)
  /-- One character of a set. -/
  | chars (set : CharSet) (anyCase : Option Bool) (wide : Bool)
  /-- Any character, with line ends among them or not. -/
  | any (lineEnds crlf : Bool)
  | look (l : Look)
  | concat (parts : List Node)
  | alternatives (parts : List Node)
  | group (captures : Bool) (inner : Node)
  | repeated (inner : Node) (lazily : Bool) (least : Nat) (most : Option Nat)

/-! ### Sets of characters -/

/-- The word characters. -/
def wordSet : RangeSet :=
  .unions [Unicode.alphabetic, Unicode.categories ["mn", "mc", "me", "nd", "pc"],
    Unicode.listed "joincontrol"]

def wordSetAscii : RangeSet := .parse "30-39 41-5A 5F 61-7A"

/-- Whether a character belongs to a word. -/
def isWord (wide : Bool) (c : Char) : Bool :=
  (if wide then wordSet else wordSetAscii).contains c.toNat

/-- A set with the characters that equal its members if case does not count. -/
def upToCase (anyCase wide : Bool) (s : RangeSet) : RangeSet :=
  if !anyCase then s else if wide then s.closeCase else s.closeCaseAscii

def negatedIf (negated : Bool) (s : RangeSet) : RangeSet := if negated then s.complement else s

namespace SetOp

def apply : SetOp → RangeSet → RangeSet → RangeSet
  | intersection => RangeSet.inter
  | difference => RangeSet.minus
  | symmetricDifference => RangeSet.symmDiff

end SetOp

namespace CharSet

mutual

/-- The members. Where case does not count, a set is closed under case before it is negated or
combined with another. -/
def members (anyCase wide : Bool) : CharSet → RangeSet
  | range first last => RangeSet.all.inter (.range first last)
  | named set negated => negatedIf negated (upToCase anyCase wide set)
  | shorthand set negated => negatedIf negated set
  | union items => .ofRanges (memberRanges anyCase wide items)
  | combine op left right =>
    op.apply (upToCase anyCase wide (members anyCase wide left))
      (upToCase anyCase wide (members anyCase wide right))
  | bracket negated inner =>
    negatedIf negated (upToCase anyCase wide (members anyCase wide inner))

def memberRanges (anyCase wide : Bool) : List CharSet → List (Nat × Nat)
  | [] => []
  | s :: rest => (members anyCase wide s).toList ++ memberRanges anyCase wide rest

/-- How deep brackets and operators stand in one another. -/
def depth : CharSet → Nat
  | union [] => 0
  | union (s :: rest) => max (depth s) (depthAll rest) + 1
  | combine _ left right => max (depth left) (depth right) + 1
  | bracket _ inner => depth inner + 1
  | _ => 0

def depthAll : List CharSet → Nat
  | [] => 0
  | s :: rest => max (depth s) (depthAll rest)

end

end CharSet

namespace Node

mutual

/-- How deep the nodes stand in one another. -/
def depth : Node → Nat
  | chars (.bracket _ inner) _ _ => inner.depth + 1
  | concat parts => depthAll parts + 1
  | alternatives parts => depthAll parts + 1
  | group _ inner => depth inner + 1
  | repeated inner _ _ _ => depth inner + 1
  | _ => 0

def depthAll : List Node → Nat
  | [] => 0
  | n :: rest => max (depth n) (depthAll rest)

end

end Node

end Pattern

end Switchboard

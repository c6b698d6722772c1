/-
Sets of characters, kept as ascending ranges of code points.

A set is written as its ranges in hexadecimal, such as `41-5A 61-7A AA`. The code points from D800 to
DFFF are no characters, so no set has them.

* `RangeSet.contains`: membership;
* `RangeSet.ofRanges`: the set of some ranges in any order;
* `RangeSet.union`, `inter`, `minus`, `symmDiff`, `complement`: sets from sets;
* `RangeSet.parse`: reads a written set.
-/

namespace Switchboard

namespace Unicode

/-- Ranges of code points with both ends included, in ascending order and apart from each other. -/
structure RangeSet where
  ranges : Array (Nat × Nat)
deriving Inhabited, DecidableEq, Repr

namespace RangeSet

/-- The last code point. -/
def lastPoint : Nat := 0x10ffff

/-- Looks for `n` among the ranges from `lo` up to before `hi`. -/
def search (s : RangeSet) (n : Nat) : Nat → Nat → Nat → Bool
  | 0, _, _ => false
  | fuel + 1, lo, hi =>
    if lo < hi then
      let mid := (lo + hi) / 2
      match s.ranges[mid]? with
      | none => false
      | some (a, b) =>
        if n < a then search s n fuel lo mid
        else if b < n then search s n fuel (mid + 1) hi
        else true
    else false

/-- Membership, by halving. -/
def contains (s : RangeSet) (n : Nat) : Bool := s.search n 32 0 s.ranges.size

def toList (s : RangeSet) : List (Nat × Nat) := s.ranges.toList

def isEmpty (s : RangeSet) : Bool := s.ranges.isEmpty

/-! ### Sets from sets -/

/-- Joins ranges that overlap or touch; they come in order of their first members. -/
def join : List (Nat × Nat) → List (Nat × Nat)
  | [] => []
  | [r] => [r]
  | (a, b) :: (c, d) :: rest =>
    if c ≤ b + 1 then join ((a, max b d) :: rest) else (a, b) :: join ((c, d) :: rest)
termination_by rs => rs.length

/-- The set of the members of all the given ranges. -/
def ofRanges (rs : List (Nat × Nat)) : RangeSet :=
  ⟨(join (rs.mergeSort fun r s => r.1 ≤ s.1)).toArray⟩

def empty : RangeSet := ⟨#[]⟩

/-- The members of a range. -/
def range (first last : Nat) : RangeSet := ⟨#[(first, last)]⟩

def union (s t : RangeSet) : RangeSet := ofRanges (s.toList ++ t.toList)

/-- The members of any of the sets. -/
def unions (sets : List RangeSet) : RangeSet := ofRanges (sets.flatMap toList)

/-- What lies from `start` on and in none of the ranges. -/
def gaps : Nat → List (Nat × Nat) → List (Nat × Nat)
  | start, [] => if start ≤ lastPoint then [(start, lastPoint)] else []
  | start, (a, b) :: rest =>
    if start < a then (start, a - 1) :: gaps (b + 1) rest else gaps (b + 1) rest

/-- The characters that are no members. -/
def complement (s : RangeSet) : RangeSet :=
  ⟨(gaps 0 (s.union (range 0xd800 0xdfff)).toList).toArray⟩

/-- The common members of ascending ranges. -/
def interRanges : List (Nat × Nat) → List (Nat × Nat) → List (Nat × Nat)
  | (a, b) :: rs, (c, d) :: ss =>
    let both := (max a c, min b d)
    let rest := if b < d then interRanges rs ((c, d) :: ss) else interRanges ((a, b) :: rs) ss
    if both.1 ≤ both.2 then both :: rest else rest
  | _, _ => []
termination_by rs ss => rs.length + ss.length

def inter (s t : RangeSet) : RangeSet := ⟨(interRanges s.toList t.toList).toArray⟩

/-- The members of `s` that `t` does not have. -/
def minus (s t : RangeSet) : RangeSet := s.inter t.complement

/-- The members of exactly one of the sets. -/
def symmDiff (s t : RangeSet) : RangeSet := (s.minus t).union (t.minus s)

/-- All characters. -/
def all : RangeSet := complement empty

/-- The ASCII characters. -/
def ascii : RangeSet := range 0 0x7f

/-- Whether all members are ASCII. -/
def isAscii (s : RangeSet) : Bool := s.ranges.all fun r => r.2 ≤ 0x7f

/-- The only member, if there is just one. -/
def single? (s : RangeSet) : Option Nat :=
  match s.toList with
  | [(a, b)] => if a = b then some a else none
  | _ => none

/-! ### Reading -/

/-- The value of an upper-case hexadecimal digit. -/
def hexDigit (c : Char) : Nat := if c.isDigit then c.toNat - '0'.toNat else c.toNat - 'A'.toNat + 10

/-- Reads hexadecimal digits from the left. -/
def hex (s : String) : Nat := s.toList.foldl (fun n c => n * 16 + hexDigit c) 0

/-- A written set as far as it was read: the ranges so far, and the first and the second number of the
range at hand. -/
structure Reading where
  done : Array (Nat × Nat) := #[]
  first : Option Nat := none
  number : Option Nat := none

namespace Reading

/-- Ends the range at hand. -/
def close (r : Reading) : Reading :=
  match r.number with
  | some n => { done := r.done.push (r.first.getD n, n) }
  | none => r

/-- Takes up one character. -/
def step (r : Reading) (c : Char) : Reading :=
  if c = '-' then { r with first := r.number, number := none }
  else if c = ' ' || c = '\n' then r.close
  else { r with number := some (r.number.getD 0 * 16 + hexDigit c) }

end Reading

/-- Reads ranges such as `41-5A` and single code points, separated by blanks. -/
def parse (s : String) : RangeSet := ⟨(s.toList.foldl Reading.step {}).close.done⟩

end RangeSet

end Unicode

end Switchboard

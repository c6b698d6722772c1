/-
How much room patterns take.

A form stands for an automaton over the bytes of UTF-8, which is bounded in size, so that a short text
cannot ask for an endless one. What counts are the states of the automaton and the ways on from them.
The states are numbered as they are made, but nothing is kept of them: a counted repetition makes its
operand as often as it counts, and a set makes a state for each of the ways in which the bytes of its
characters can go on.

There are two automata. One reads texts forward and keeps track of groups; the other reads them
backward and does not.

* `Pattern.Part`: what a part of an automaton adds to it;
* `Pattern.Form.part`: the part that a form stands for;
* `Pattern.Form.size`: the bytes of an automaton;
* `Pattern.maxSize`: the bytes that an automaton may take.
-/
import Switchboard.Pattern.Form
import Switchboard.SlotTable
import Switchboard.Text.ByteRanges

namespace Switchboard

namespace Pattern

open Unicode (RangeSet)

/-- An automaton may take this many bytes. -/
def maxSize : Nat := 10 * 1024 * 1024

/-- The bytes of a state. -/
def stateSize : Nat := 32

/-- The bytes of each way on from a state that reads one of several ranges of bytes. -/
def rangeSize : Nat := 8

/-- The bytes of each way on from a state that reads nothing and goes several ways. -/
def branchSize : Nat := 4

/-! ### Parts of automata -/

/-- An automaton in the making: how many states it has, and how many bytes they take. -/
structure Tally where
  states : Nat
  bytes : Nat
deriving DecidableEq, Repr

namespace Tally

def zero : Tally := ⟨0, 0⟩

/-- One state more, which takes so many bytes besides its own. -/
def push (t : Tally) (bytes : Nat) : Tally := ⟨t.states + 1, t.bytes + (stateSize + bytes)⟩

end Tally

/-- A part of an automaton, as what becomes of an automaton when the part is added. -/
structure Part where
  after : Tally → Tally

namespace Part

def nothing : Part := ⟨id⟩

/-- A state that reads nothing or one range of bytes. -/
def state : Part := ⟨fun t => t.push 0⟩

/-- `n` such states. -/
def states (n : Nat) : Part := ⟨fun t => ⟨t.states + n, t.bytes + n * stateSize⟩⟩

/-- A state that reads nothing and goes `n` ways. -/
def fork (n : Nat) : Part := ⟨fun t => t.push (n * branchSize)⟩

/-- A state that reads one of `n` ranges of bytes. -/
def read (n : Nat) : Part := ⟨fun t => t.push (n * rangeSize)⟩

/-- One part after the other. -/
def append (p q : Part) : Part := ⟨fun t => q.after (p.after t)⟩

instance : Append Part := ⟨append⟩

def all (ps : List Part) : Part := ps.foldl append nothing

/-- Adds a part `n` times. It goes no further than the bounds of an automaton. -/
def addTimes (p : Part) : Nat → Tally → Tally
  | 0, t => t
  | n + 1, t => if maxSize < t.bytes then t else addTimes p n (p.after t)

/-- A part `n` times over; a single state if there is nothing else. -/
def times (p : Part) (n : Nat) : Part := if n = 0 then state else ⟨p.addTimes n⟩

/-- A part as often as counts. `nonempty` tells that it takes up some character; if it may take up
none, a loop around it has to see to it that it ends. -/
def counted (p : Part) (nonempty : Bool) (least : Nat) (most : Option Nat) : Part :=
  match least, most with
  | 0, none => if nonempty then fork 2 ++ p else p ++ fork 2 ++ fork 2 ++ state
  | least, none => p.times least ++ fork 2
  | 0, some 1 => fork 2 ++ p ++ state
  | least, some most =>
    if least = most then p.times least
    else p.times least ++ state ++ ⟨(fork 2 ++ p).addTimes (most - least)⟩

end Part

/-! ### Sets -/

/-- The sequences of ranges of bytes of a set, in order. -/
def sequences (s : RangeSet) : List ByteRanges := s.toList.flatMap fun (a, b) => ByteRanges.ofRange a b

/-- The bytes of characters of a set, or what is left of them after the first ones. -/
inductive ByteTree
  /-- Nothing is left. -/
  | done
  /-- A byte of one of several ranges comes next, and then what belongs to the range. -/
  | next (ways : List (ByteRange × ByteTree))

namespace ByteTree

/-- Puts together the sequences that start alike, which stand side by side, without their start. -/
def byFirst : List ByteRanges → List (ByteRange × List ByteRanges)
  | [] => []
  | [] :: rest => byFirst rest
  | (r :: s) :: rest =>
    match byFirst rest with
    | (r', more) :: groups => if r = r' then (r, s :: more) :: groups else (r, [s]) :: (r', more) :: groups
    | [] => [(r, [s])]

/-- The tree of sequences of at most `n` ranges. -/
def ofSequences : Nat → List ByteRanges → ByteTree
  | 0, _ => .done
  | n + 1, seqs =>
    if seqs.all List.isEmpty then .done
    else .next ((byFirst seqs).map fun (r, rests) => (r, ofSequences n rests))

end ByteTree

/-- An automaton that a set is added to. A state that does the same as one that is remembered is not
made again. -/
structure Shared where
  tally : Tally
  made : SlotTable

namespace Shared

/-- The number of the state that a key describes; a new one takes so many bytes besides its own. -/
def intern (a : Shared) (key : List Nat) (bytes : Nat) : Shared × Nat :=
  match a.made.find? key with
  | some n => (a, n)
  | none => (⟨a.tally.push bytes, a.made.insert key a.tally.states⟩, a.tally.states)

mutual

/-- Adds the states that read what a tree has and then go on to `goal`, the first one last. Gives the
first one. -/
def addTree (goal : Nat) (a : Shared) : ByteTree → Shared × Nat
  | .done => (a, goal)
  | .next ways =>
    let (a, key) := addWays goal a ways
    a.intern key (ways.length * rangeSize)

/-- Adds the states behind each way, and gives the ways as numbers in a row. -/
def addWays (goal : Nat) (a : Shared) : List (ByteRange × ByteTree) → Shared × List Nat
  | [] => (a, [])
  | (r, tree) :: ways =>
    let (a, next) := addTree goal a tree
    let (a, key) := addWays goal a ways
    (a, r.1 :: r.2 :: next :: key)

end

/-- Adds the states that read a sequence from its end and then go on to `goal`. -/
def addBackward (goal : Nat) (a : Shared) (seq : ByteRanges) : Shared :=
  (seq.foldl (fun (a, next) r => a.intern [next, r.1, r.2] 0) (a, goal)).1

end Shared

/-- How many states are remembered at most while a set is added. -/
def rememberedForward : Nat := 10000

def rememberedBackward : Nat := 1000

/-- A set in the forward automaton: the state behind it is made first. -/
def forwardSet (s : RangeSet) : Part :=
  let tree := ByteTree.ofSequences 4 (sequences s)
  ⟨fun t =>
    let goal := t.states
    (Shared.addTree goal ⟨t.push 0, .empty rememberedForward⟩ tree).1.tally⟩

/-- A set in the backward automaton: a state with a way to each of the sequences, and the state behind
the set. -/
def backwardSet (s : RangeSet) : Part :=
  let seqs := sequences s
  ⟨fun t =>
    let goal := t.states + 1
    let t := (t.push (seqs.length * branchSize)).push 0
    (seqs.foldl (Shared.addBackward goal) ⟨t, .empty rememberedBackward⟩).tally⟩

/-- The part of a set. A set within ASCII takes one state and another one to end in. -/
def setPart (backward : Bool) (s : RangeSet) : Part :=
  if s.isAscii then .state ++ .read s.ranges.size
  else if backward then backwardSet s
  else forwardSet s

/-! ### Literals -/

/-- The bytes of a literal in the order in which they are read. -/
def literalBytes (backward : Bool) (cs : List Char) : List UInt8 :=
  let bytes := cs.flatMap String.utf8EncodeChar
  if backward then bytes.reverse else bytes

/-- Parts a list of words at the empty ones. -/
def splitAtEmpty : List (List UInt8) → List (List (List UInt8))
  | [] => [[]]
  | word :: rest =>
    if word.isEmpty then [] :: splitAtEmpty rest
    else match splitAtEmpty rest with
      | chunk :: chunks => (word :: chunk) :: chunks
      | [] => [[word]]

/-- The states of a choice between words, in order of preference. An empty word is a match and parts
the words before it from those after it; a state that every word ends in is that of the match. -/
def wordStates : Nat → List (List UInt8) → Part
  | 0, _ => .nothing
  | n + 1, words =>
    let words := match words with
      | [] :: rest => [] :: rest.dropWhile List.isEmpty
      | words => words
    let chunks := splitAtEmpty words
    let full := chunks.filter fun chunk => !chunk.isEmpty
    let inChunk (chunk : List (List UInt8)) :=
      let heads := (chunk.filterMap List.head?).eraseDups
      let next (b : UInt8) :=
        let rests := (chunk.filter fun word => word.head? == some b).map List.tail
        if rests.all List.isEmpty then .nothing else wordStates n rests
      (if heads.length = 1 then Part.state else .read heads.length) ++ .all (heads.map next)
    .fork (chunks.length - 1 + full.length) ++ .all (full.map inChunk)

/-- A choice between literals. -/
def wordsPart (words : List (List UInt8)) : Part :=
  .state ++ wordStates ((words.map List.length).foldl max 0 + 1) words

/-! ### Forms -/

namespace Form

def literal? : Form → Option (List Char)
  | .literal cs => some cs
  | _ => none

/-- A choice between parts: the state with a way to each of them, and the state behind them, are made
after the second one. -/
def choicePart (options : List Part) : Part :=
  .all (options.take 2) ++ .fork options.length ++ .state ++ .all (options.drop 2)

mutual

/-- The part of a form in the forward or the backward automaton. -/
def part (backward : Bool) : Form → Part
  | .empty | .look _ => .state
  | .literal cs => .states (literalBytes backward cs).length
  | .set s _ => setPart backward s
  | .seq parts =>
    let parts := partsOf backward parts
    .all (if backward then parts.reverse else parts)
  | .choice options =>
    match options.mapM literal? with
    | some words => wordsPart (words.map (literalBytes backward))
    | none => choicePart (partsOf backward options)
  | .group inner => if backward then part true inner else .state ++ part false inner ++ .state
  | .repeated inner _ least most =>
    (part backward inner).counted ((minLength? inner).any (0 < ·)) least most

def partsOf (backward : Bool) : List Form → List Part
  | [] => []
  | f :: rest => part backward f :: partsOf backward rest

end

mutual

/-- Whether every match is at the start of the text, or at its end if `backward`. -/
def isAnchored (backward : Bool) : Form → Bool
  | .look l => l = if backward then .textEnd else .textStart
  | .seq parts =>
    if backward then lastAnchored parts else firstAnchored parts
  | .choice options => allAnchored backward options
  | .group inner => isAnchored backward inner
  | .repeated inner _ least _ => 0 < least && isAnchored backward inner
  | .empty | .literal _ | .set _ _ => false

/-- Whether a form is anchored that has nothing in front of it but forms without width. -/
def firstAnchored : List Form → Bool
  | [] => false
  | f :: rest => isAnchored false f || (f.isWidthless && firstAnchored rest)

/-- Whether a form is anchored that has nothing behind it but forms without width. -/
def lastAnchored : List Form → Bool
  | [] => false
  | f :: rest => lastAnchored rest || (areWidthless rest && isAnchored true f)

def allAnchored (backward : Bool) : List Form → Bool
  | [] => true
  | f :: rest => isAnchored backward f && allAnchored backward rest

end

/-- What an automaton starts with: it passes over bytes in front of a match unless none can come. -/
def start (backward : Bool) (f : Form) : Part :=
  if f.isAnchored backward then .state else .fork 2 ++ .state ++ .read 1

/-- All of an automaton. The forward one has the whole match as a group; both end in a match. -/
def automaton (backward : Bool) (f : Form) : Part :=
  f.start backward ++ (if backward then f else .group f).part backward ++ .state

/-- The bytes of an automaton, or some number beyond the bounds. -/
def size (backward : Bool) (f : Form) : Nat := ((f.automaton backward).after .zero).bytes

/-- Whether both automata are within bounds. -/
def fits (f : Form) : Bool := f.size true ≤ maxSize && f.size false ≤ maxSize

end Form

end Pattern

end Switchboard

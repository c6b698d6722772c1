/-
Searching texts for patterns.

A form takes a set of positions of the text to the set of positions where a match that starts at one
of them can end. Only whether there is a match is asked for, so neither greed nor groups matter, and
the work is polynomial in the text.

* `Pattern.compile`: a pattern ready for use, with or without regard to case;
* `Pattern.Form.run`: the ends of the matches of a form;
* `Pattern.Compiled.isMatch`: whether a text has a part that matches.
-/
import Switchboard.Pattern.Parser

namespace Switchboard

namespace Pattern

/-- Positions in ascending order, each once. -/
abbrev Positions := List Nat

namespace Positions

/-- The positions of either set. -/
def merge : Positions → Positions → Positions
  | [], b => b
  | a, [] => a
  | x :: a, y :: b =>
    if x < y then x :: merge a (y :: b)
    else if y < x then y :: merge (x :: a) b
    else x :: merge a b

end Positions

/-- A text as positions see it. -/
structure Subject where
  chars : Array Char

namespace Subject

def before (s : Subject) (i : Nat) : Option Char := if i = 0 then none else s.chars[i - 1]?

def after (s : Subject) (i : Nat) : Option Char := s.chars[i]?

end Subject

/-- Whether a position satisfies a look. -/
def Look.holds (l : Look) (s : Subject) (i : Nat) : Bool :=
  let before := s.before i
  let after := s.after i
  let wordBefore (wide : Bool) := before.any (isWord wide)
  let wordAfter (wide : Bool) := after.any (isWord wide)
  match l with
  | .textStart => before.isNone
  | .textEnd => after.isNone
  | .lineStart false => before.isNone || before == some '\n'
  | .lineEnd false => after.isNone || after == some '\n'
  | .lineStart true =>
    before.isNone || before == some '\n' || (before == some '\r' && after != some '\n')
  | .lineEnd true =>
    after.isNone || after == some '\r' || (after == some '\n' && before != some '\r')
  | .wordBoundary wide => wordBefore wide != wordAfter wide
  | .noWordBoundary wide => wordBefore wide == wordAfter wide
  | .wordStart wide => !wordBefore wide && wordAfter wide
  | .wordEnd wide => wordBefore wide && !wordAfter wide
  | .wordStartHalf wide => !wordBefore wide
  | .wordEndHalf wide => !wordAfter wide

/-- Applies a step `n` times. Positions that a step leaves as they are stay so. -/
def times (step : Positions → Positions) : Nat → Positions → Positions
  | 0, ps => ps
  | n + 1, ps =>
    let next := step ps
    if next = ps then ps else times step n next

/-- The positions reached by at most `n` steps. -/
def upTo (step : Positions → Positions) : Nat → Positions → Positions
  | 0, ps => ps
  | n + 1, ps =>
    let next := Positions.merge ps (step ps)
    if next.length = ps.length then ps else upTo step n next

/-- Whether the text goes on with the given characters at a position. -/
def Subject.reads (s : Subject) : List Char → Nat → Bool
  | [], _ => true
  | c :: rest, i => s.after i == some c && reads s rest (i + 1)

namespace Form

mutual

/-- Where matches that start at the given positions end. -/
def run (s : Subject) : Form → Positions → Positions
  | .empty, ps => ps
  | .literal cs, ps =>
    ps.filterMap fun i => if s.reads cs i then some (i + cs.length) else none
  | .set members _, ps =>
    ps.filterMap fun i =>
      if (s.after i).any fun c => members.contains c.toNat then some (i + 1) else none
  | .look l, ps => ps.filter fun i => l.holds s i
  | .seq parts, ps => runAll s parts ps
  | .choice options, ps => runAny s options ps
  | .group inner, ps => run s inner ps
  | .repeated inner _ least most, ps =>
    let step := run s inner
    let ps := times step least ps
    -- more steps than there are positions reach nothing new
    let more := match most with
      | some m => min (m - least) (s.chars.size + 1)
      | none => s.chars.size + 1
    upTo step more ps

/-- One part after the other. -/
def runAll (s : Subject) : List Form → Positions → Positions
  | [], ps => ps
  | f :: rest, ps => runAll s rest (run s f ps)

/-- Any one of the options. -/
def runAny (s : Subject) : List Form → Positions → Positions
  | [], _ => []
  | f :: rest, ps => Positions.merge (run s f ps) (runAny s rest ps)

end

end Form

/-- A pattern ready for use. -/
structure Compiled where
  form : Form

/-- The pattern of a text. Whether case counts has no part in whether the text can be read, but in how
large the pattern is. -/
def compile (text : String) (anyCase : Bool) : Except Fault Compiled :=
  match parse text with
  | .error f => .error f
  | .ok node =>
    let form := Form.ofNode anyCase node
    if form.fits then .ok ⟨form⟩ else .error .tooLarge

/-- Whether some part of the text matches. -/
def Compiled.isMatch (p : Compiled) (text : String) : Bool :=
  let s : Subject := ⟨text.toList.toArray⟩
  !(p.form.run s (List.range (s.chars.size + 1))).isEmpty

end Pattern

end Switchboard

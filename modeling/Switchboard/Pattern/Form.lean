/-
Normal forms of patterns.

A form says what a pattern means and nothing of how it was written: whether case counts is settled,
single characters that follow each other make up one literal, a choice between characters is one set,
and what all choices start with stands in front of them. Groups are kept if they capture.

* `Pattern.Form.ofNode`: the form of a pattern, with or without regard to case;
* `Form.concat`, `Form.alternatives`, `Form.iterate`: forms from forms;
* `Form.isWidthless`, `Form.minLength?`: how much of a text a form takes up.
-/
import Switchboard.Pattern.Basic

namespace Switchboard

namespace Pattern

open Unicode (RangeSet)

/-- A normal form. -/
inductive Form
  | empty
  /-- At least one character. -/
  | literal (cs : List Char)
  /-- One character of a set, which has none or more than one. A set that was written in terms of
  single bytes, and not of wide characters, is another form. -/
  | set (s : RangeSet) (wide : Bool)
  | look (l : Look)
  /-- At least two forms, none of them empty or a sequence, and no two literals side by side. -/
  | seq (parts : List Form)
  /-- At least two forms, none of them a choice. -/
  | choice (options : List Form)
  | group (inner : Form)
  | repeated (inner : Form) (lazily : Bool) (least : Nat) (most : Option Nat)

namespace Form

/-! ### Measures -/

mutual

/-- Whether every match takes up no character. -/
def isWidthless : Form → Bool
  | .empty | .look _ => true
  | .literal _ | .set _ _ => false
  | .seq parts => areWidthless parts
  | .choice options => areWidthless options
  | .group inner => isWidthless inner
  | .repeated inner _ _ most => most.isSome && isWidthless inner

def areWidthless : List Form → Bool
  | [] => true
  | f :: rest => isWidthless f && areWidthless rest

end

mutual

/-- The least number of characters that a match takes up. There is none where some part, which need
not take part in every match, matches nothing. -/
def minLength? : Form → Option Nat
  | .empty | .look _ => some 0
  | .literal cs => some cs.length
  | .set s _ => if s.isEmpty then none else some 1
  | .seq parts => (minLengths? parts).map List.sum
  | .choice options => (minLengths? options).bind List.min?
  | .group inner => minLength? inner
  | .repeated inner _ least _ => (minLength? inner).map (· * least)

def minLengths? : List Form → Option (List Nat)
  | [] => some []
  | f :: rest =>
    match minLength? f, minLengths? rest with
    | some n, some ns => some (n :: ns)
    | _, _ => none

end

mutual

/-- The number of forms that a form is made of, itself included. -/
def weight : Form → Nat
  | .seq parts => weightAll parts + 1
  | .choice options => weightAll options + 1
  | .group inner => weight inner + 1
  | .repeated inner _ _ _ => weight inner + 1
  | _ => 1

def weightAll : List Form → Nat
  | [] => 0
  | f :: rest => weight f + weightAll rest

end

mutual

/-- Whether two forms are the same. No two groups are, as each has its own number. -/
def same : Form → Form → Bool
  | .empty, .empty => true
  | .literal a, .literal b => a == b
  | .set a w, .set b w' => a == b && w == w'
  | .look a, .look b => a == b
  | .seq a, .seq b => sameAll a b
  | .choice a, .choice b => sameAll a b
  | .repeated a l m n, .repeated b l' m' n' => same a b && l == l' && m == m' && n == n'
  | _, _ => false

def sameAll : List Form → List Form → Bool
  | [], [] => true
  | a :: as, b :: bs => same a b && sameAll as bs
  | _, _ => false

end

/-! ### Forms from forms -/

/-- What matches nothing. -/
def nothing : Form := .set .empty false

/-- One character of a set. -/
def ofSet (s : RangeSet) (wide : Bool) : Form :=
  match s.single? with
  | some n => .literal [Char.ofNat n]
  | none => if s.isEmpty then nothing else .set s wide

/-- The parts of a sequence. -/
def parts : Form → List Form
  | .seq parts => parts
  | _ => []

/-- What a form contributes to a sequence. -/
def inSequence : Form → List Form
  | .empty => []
  | .seq parts => parts
  | f => [f]

/-- What a form contributes to a choice. -/
def inChoice : Form → List Form
  | .choice options => options
  | f => [f]

/-- Makes one literal of literals side by side. -/
def joinLiterals : List Form → List Form
  | [] => []
  | .literal a :: rest =>
    match joinLiterals rest with
    | .literal b :: rest => .literal (a ++ b) :: rest
    | rest => .literal a :: rest
  | f :: rest => f :: joinLiterals rest

/-- One form after the other. -/
def concat (fs : List Form) : Form :=
  match joinLiterals (fs.flatMap inSequence) with
  | [] => .empty
  | [f] => f
  | fs => .seq fs

/-- The code point of a form that is a single character. -/
def character? : Form → Option Nat
  | .literal [c] => some c.toNat
  | _ => none

def set? : Form → Option RangeSet
  | .set s _ => some s
  | _ => none

/-- What two lists start with in common. -/
def commonStart : List Form → List Form → List Form
  | a :: as, b :: bs => if same a b then a :: commonStart as bs else []
  | _, _ => []

/-- The choice between forms as one set, if they are all single characters or all sets. -/
def asSet? (options : List Form) : Option Form :=
  match options.mapM character?, options.mapM set? with
  | some ns, _ => some (ofSet (.ofRanges (ns.map fun n => (n, n))) true)
  | none, some sets => some (ofSet (.unions sets) true)
  | none, none => none

/-- Any one of the forms. What they all start with is taken out in front, and so for what is left as
often as that goes. -/
def choose : Nat → List Form → Form
  | 0, fs => .choice fs
  | fuel + 1, fs =>
    match fs.flatMap inChoice with
    | [] => nothing
    | [f] => f
    | f :: rest =>
      match asSet? (f :: rest), rest.foldl (fun start g => commonStart start g.parts) f.parts with
      | some g, _ => g
      | none, [] => .choice (f :: rest)
      | none, start =>
        let ends := (f :: rest).map fun g => concat (g.parts.drop start.length)
        concat (start ++ [choose fuel ends])

/-- Any one of the forms. Taking out a common start makes them lighter. -/
def alternatives (fs : List Form) : Form := choose (weightAll fs + 1) fs

/-- A form several times over. What takes up no character is there once at most. -/
def iterate (f : Form) (lazily : Bool) (least : Nat) (most : Option Nat) : Form :=
  let (least, most) :=
    if f.isWidthless then (min least 1, some (min (most.getD 1) 1)) else (least, most)
  match least, most with
  | 0, some 0 => .empty
  | 1, some 1 => f
  | _, _ => .repeated f lazily least most

/-! ### Forms of patterns -/

/-- What a dot matches. -/
def anyCharacter (lineEnds crlf : Bool) : RangeSet :=
  if lineEnds then .all
  else if crlf then RangeSet.complement ⟨#[(10, 10), (13, 13)]⟩
  else RangeSet.complement (.range 10 10)

mutual

/-- The form of a pattern; `anyCase` settles what the pattern leaves open. -/
def ofNode (anyCase : Bool) : Node → Form
  | .empty => .empty
  | .literal n mode wide => ofSet (upToCase (mode.getD anyCase) wide (.range n n)) wide
  | .chars s mode wide => ofSet (s.members (mode.getD anyCase) wide) wide
  | .any lineEnds crlf => .set (anyCharacter lineEnds crlf) true
  | .look l => .look l
  | .concat nodes => concat (ofNodes anyCase nodes)
  | .alternatives nodes => alternatives (ofNodes anyCase nodes)
  | .group captures inner =>
    if captures then .group (ofNode anyCase inner) else ofNode anyCase inner
  | .repeated inner lazily least most => (ofNode anyCase inner).iterate lazily least most

def ofNodes (anyCase : Bool) : List Node → List Form
  | [] => []
  | n :: rest => ofNode anyCase n :: ofNodes anyCase rest

end

end Form

end Pattern

end Switchboard

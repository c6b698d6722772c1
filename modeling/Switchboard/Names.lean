/-
Default names.

What is defined without a name is called `Kind_n`, with one counter for each kind. A name that must
be free among others is found by counting on.

* `Names.next`: the next default name;
* `Names.nextFree`: the next default name that is not taken;
* `uniqueName`: a wished name, or the first free one of its twenty numbered variants.
-/

namespace Switchboard

/-- The kinds of things that get default names. -/
inductive NameKind
  | rule
  | ruleList
  | route
  | cluster
  | listener
  | session
deriving DecidableEq, Repr

namespace NameKind

def text : NameKind → String
  | rule => "Rule"
  | ruleList => "RuleList"
  | route => "Route"
  | cluster => "Cluster"
  | listener => "Listener"
  | session => "Session"

end NameKind

/-- `base` with a number behind it. -/
def numbered (base : String) (n : Nat) : String := base ++ "_" ++ toString n

/-- For each kind the number of its next default name. The numbers have no limit, as they never come
to `2 ^ 64`. -/
structure Names where
  counter : NameKind → Nat

namespace Names

instance : Inhabited Names := ⟨⟨fun _ => 0⟩⟩

/-- No name was given out yet. -/
def fresh : Names := ⟨fun _ => 0⟩

/-- Moves the counter of one kind. -/
def setCounter (names : Names) (kind : NameKind) (n : Nat) : Names :=
  ⟨fun k => if k = kind then n else names.counter k⟩

/-- The next default name of a kind. -/
def next (names : Names) (kind : NameKind) : String × Names :=
  let n := names.counter kind
  (numbered kind.text n, names.setCounter kind (n + 1))

/-- The first `n` from `start` on, within `tries` attempts, whose default name is not taken. -/
def firstFree (kind : NameKind) (taken : List String) : Nat → Nat → Nat
  | 0, start => start
  | tries + 1, start =>
    if numbered kind.text start ∈ taken then firstFree kind taken tries (start + 1) else start

/-- The next default name of a kind that is not taken. One of any `taken.length + 1` numbers is
free. -/
def nextFree (names : Names) (kind : NameKind) (taken : List String) : String × Names :=
  let n := firstFree kind taken (taken.length + 1) (names.counter kind)
  (numbered kind.text n, names.setCounter kind (n + 1))

end Names

/-- The highest number that `uniqueName` puts behind a name. -/
def maxNameNumber : Nat := 20

/-- `base`, or the first of its numbered variants that is not taken. -/
def uniqueName (base : String) (taken : String → Bool) : Option String :=
  (base :: (List.range maxNameNumber).map fun i => numbered base (i + 1)).find? fun name =>
    !taken name

end Switchboard

/-
Lists of rules in use.

* `RuleList.firstMatch`: the first rule that matches; a name that no rule has stops the search;
* `RuleList.evaluate`: the same, counted.
-/
import Switchboard.Routing.Fault
import Switchboard.Routing.Rule

namespace Switchboard

/-- A rule of a list: the name of a registered one, or one of the list's own. -/
abbrev RuleEntry := Reference Rule

namespace RuleEntry

def name : RuleEntry → String
  | .named name => name
  | .inline rule => rule.name

/-- The entry as it is shown. Names give way to the rules behind them if `recursive`. -/
def view (rules : String → Option Rule) (counters : Counters) (recursive : Bool) :
    RuleEntry → Json
  | .inline rule => rule.view counters
  | .named name =>
    match if recursive then rules name else none with
    | some rule => rule.view counters
    | none => name

/-- Builds an entry. -/
def build (res : Resources) : RuleReference → RuleEntry × Resources
  | .named name => (.named name, res)
  | .inline d =>
    let (rule, res) := Rule.ofDefinition res d
    (.inline rule, res)

/-- Builds entries from the left. -/
def buildAll (res : Resources) : List RuleReference → List RuleEntry × Resources
  | [] => ([], res)
  | r :: rest =>
    let (entry, res) := build res r
    let (entries, res) := buildAll res rest
    (entry :: entries, res)

end RuleEntry

/-- A list of rules. -/
structure RuleList where
  name : String
  entries : List RuleEntry

namespace RuleList

/-- Builds a list of the given name; the definition's own name does not count. -/
def build (res : Resources) (name : String) (d : RuleListDefinition) : RuleList × Resources :=
  let (entries, res) := RuleEntry.buildAll res d.rules
  (⟨name, entries⟩, res)

/-- The list's own rules. -/
def ownRules (list : RuleList) : List Rule :=
  list.entries.filterMap fun
    | .inline rule => some rule
    | .named _ => none

/-- Whether the list names the rule `rule`. -/
def references (list : RuleList) (rule : String) : Bool :=
  list.entries.any (Reference.isNamed rule)

/-- The first of the entries that matches, or the first name that no rule has if that comes
before. -/
def firstMatch (rules : String → Option Rule) (metadata : Json) :
    List RuleEntry → Except String (Option Rule)
  | [] => .ok none
  | .inline rule :: rest =>
    if rule.condition.holds metadata then .ok (some rule) else firstMatch rules metadata rest
  | .named name :: rest =>
    match rules name with
    | none => .error name
    | some rule =>
      if rule.condition.holds metadata then .ok (some rule) else firstMatch rules metadata rest

/-- Finds the rule for a document and counts that it was applied. -/
def evaluate (rules : String → Option Rule) (list : RuleList) (metadata : Json)
    (counters : Counters) : Except RoutingFault (Option Rule) × Counters :=
  match firstMatch rules metadata list.entries with
  | .error rule => (.error (.ruleNotFound list.name rule), counters)
  | .ok none => (.ok none, counters)
  | .ok (some rule) => (.ok (some rule), counters.increment rule.counter)

/-- The list with an entry in front of the given position, which may be its end. -/
def inserted? (list : RuleList) (position : Nat) (entry : RuleEntry) : Option RuleList :=
  if position ≤ list.entries.length then
    some { list with entries := list.entries.insertIdx position entry }
  else none

/-- The list without the entry at the given position. -/
def removed? (list : RuleList) (position : Nat) : Option RuleList :=
  if position < list.entries.length then
    some { list with entries := list.entries.eraseIdx position }
  else none

/-- The list as it is shown. -/
def view (rules : String → Option Rule) (counters : Counters) (recursive : Bool)
    (list : RuleList) : Json := .ofFields
  [("name", list.name),
    ("rules", .array (list.entries.map (RuleEntry.view rules counters recursive)))]

end RuleList

end Switchboard

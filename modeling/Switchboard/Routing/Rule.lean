/-
Rules in use, and how often each was applied.

The count of a rule is kept apart from the rule, under a number. So all versions of a rule share one
count, whichever version a session has seen.

* `Counters`: the counts;
* `Rule.build`, `Rule.updated`: a new rule, and a new version of a rule.
-/
import Switchboard.Definition.Rule
import Switchboard.Names
import Switchboard.Routing.Route

namespace Switchboard

/-- The number under which a count is kept. -/
abbrev CounterId := Nat

/-- Counts by number. They have no limit, as they never come to `2 ^ 64`. -/
structure Counters where
  counts : Array Nat
deriving DecidableEq, Repr

namespace Counters

def empty : Counters := ⟨#[]⟩

/-- A new count, which starts at zero. -/
def add (cs : Counters) : CounterId × Counters := (cs.counts.size, ⟨cs.counts.push 0⟩)

def get (cs : Counters) (id : CounterId) : Nat := cs.counts[id]?.getD 0

/-- Counts one more. -/
def increment (cs : Counters) (id : CounterId) : Counters :=
  ⟨cs.counts.modify id (· + 1)⟩

end Counters

/-- What is used up as things are created, and is not given back when an edit fails. -/
structure Resources where
  names : Names
  counters : Counters
  clusters : ClusterPool

namespace Resources

def fresh : Resources := ⟨.fresh, .empty, .empty⟩

/-- The next default name. -/
def nextName (res : Resources) (kind : NameKind) : String × Resources :=
  let (name, names) := res.names.next kind
  (name, { res with names })

/-- The next default name that is not taken. -/
def nextFreeName (res : Resources) (kind : NameKind) (taken : List String) : String × Resources :=
  let (name, names) := res.names.nextFree kind taken
  (name, { res with names })

/-- Builds a route. -/
def buildRoute (res : Resources) (name : String) (d : RouteDefinition) : Route × Resources :=
  let (route, clusters) := Route.build res.clusters name d
  (route, { res with clusters })

/-- Builds a route under its own name or a default one. -/
def buildNamedRoute (res : Resources) (d : RouteDefinition) : Route × Resources :=
  match d.name with
  | some name => res.buildRoute name d
  | none =>
    let (name, res) := res.nextName .route
    res.buildRoute name d

end Resources

/-- A rule: a condition and an action, which is looked into only as far as the rule has a route of
its own. -/
structure Rule where
  name : String
  condition : Match
  action : Json
  counter : CounterId
  /-- The route that the action defines. -/
  route : Option Route

namespace Rule

/-- The route that an action defines. Actions that are not objects define none. -/
def ownRoute? (action : Json) : Option RouteDefinition :=
  match action.field? "route" with
  | some (.object fields) => (RouteDefinition.decode (.object fields)).toOption
  | _ => none

/-- Builds the route of an action of the rule `rule`. -/
def buildOwnRoute (res : Resources) (rule : String) (action : Json) : Option Route × Resources :=
  match ownRoute? action with
  | none => (none, res)
  | some d =>
    let (route, res) := res.buildRoute (d.name.getD (rule ++ "_route")) d
    (some route, res)

/-- Builds a rule. -/
def build (res : Resources) (name : String) (condition : Match) (action : Json) :
    Rule × Resources :=
  let (route, res) := buildOwnRoute res name action
  let (counter, counters) := res.counters.add
  (⟨name, condition, action, counter, route⟩, { res with counters })

/-- Builds a rule under its own name or a default one. -/
def ofDefinition (res : Resources) (d : RuleDefinition) : Rule × Resources :=
  match d.name with
  | some name => build res name d.condition d.action
  | none =>
    let (name, res) := res.nextName .rule
    build res name d.condition d.action

/-- A new version of a rule, under the same name and with the same count. -/
def updated (res : Resources) (rule : Rule) (d : RuleDefinition) : Rule × Resources :=
  let (route, res) := buildOwnRoute res rule.name d.action
  (⟨rule.name, d.condition, d.action, rule.counter, route⟩, res)

def toDefinition (rule : Rule) : RuleDefinition := ⟨some rule.name, rule.condition, rule.action⟩

/-- The rule as it is shown. -/
def view (counters : Counters) (rule : Rule) : Json := .ofFields
  [("name", rule.name), ("match", rule.condition.toJson), ("action", rule.action),
    ("stats", .ofFields [("total_applied", .nat (counters.get rule.counter))])]

/-- Whether the rule's own route sends its traffic to the registered cluster `name`. -/
def usesCluster (rule : Rule) (name : String) : Bool := rule.route.any (·.usesCluster name)

/-- Whether the rule's own route runs the registered stage `name`. -/
def usesStage (rule : Rule) (name : String) : Bool := rule.route.any (·.usesStage name)

end Rule

end Switchboard

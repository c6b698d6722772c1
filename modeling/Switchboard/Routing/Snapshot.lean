/-
All that is registered, and the way from a session's metadata to a route and a cluster.

* `Snapshot.lookup`: the action that lists of rules lead to, each list deciding itself or handing on
  to another;
* `Snapshot.routeFor`, `Snapshot.clusterFor`: the route of an action, and the cluster of a route.
-/
import Switchboard.Routing.RuleList
import Switchboard.Routing.Stage

namespace Switchboard

/-- What is registered at one moment, each kind of thing by name. -/
structure Snapshot where
  rules : Table Rule
  ruleLists : Table RuleList
  routes : Table Route
  clusters : Table ClusterId
  stages : Table Stage

namespace Snapshot

def empty : Snapshot := ⟨[], [], [], [], []⟩

def rule? (s : Snapshot) (name : String) : Option Rule := Table.find? s.rules name

def ruleList? (s : Snapshot) (name : String) : Option RuleList := Table.find? s.ruleLists name

def route? (s : Snapshot) (name : String) : Option Route := Table.find? s.routes name

def cluster? (s : Snapshot) (name : String) : Option ClusterId := Table.find? s.clusters name

def stage? (s : Snapshot) (name : String) : Option Stage := Table.find? s.stages name

/-! ### Storing under a thing's own name -/

def putRule (s : Snapshot) (rule : Rule) : Snapshot :=
  { s with rules := Table.insert s.rules rule.name rule }

def putRuleList (s : Snapshot) (list : RuleList) : Snapshot :=
  { s with ruleLists := Table.insert s.ruleLists list.name list }

def putRoute (s : Snapshot) (route : Route) : Snapshot :=
  { s with routes := Table.insert s.routes route.name route }

def putCluster (s : Snapshot) (name : String) (id : ClusterId) : Snapshot :=
  { s with clusters := Table.insert s.clusters name id }

def putStage (s : Snapshot) (stage : Stage) : Snapshot :=
  { s with stages := Table.insert s.stages stage.name stage }

/-! ### Taking out -/

def dropRule (s : Snapshot) (name : String) : Snapshot :=
  { s with rules := Table.erase s.rules name }

def dropRuleList (s : Snapshot) (name : String) : Snapshot :=
  { s with ruleLists := Table.erase s.ruleLists name }

def dropRoute (s : Snapshot) (name : String) : Snapshot :=
  { s with routes := Table.erase s.routes name }

def dropCluster (s : Snapshot) (name : String) : Snapshot :=
  { s with clusters := Table.erase s.clusters name }

def dropStage (s : Snapshot) (name : String) : Snapshot :=
  { s with stages := Table.erase s.stages name }

/-! ### Routing -/

/-- An action that was taken, and the route of the rule that has it, if the rule defines one. -/
structure Decision where
  action : Action
  route : Option Route

/-- What a look-up comes to: its result, the metadata with the annotations of all actions that were
taken, and the counts. -/
structure Lookup where
  result : Except RoutingFault (Option Decision)
  metadata : Json
  counters : Counters

/-- Follows at most `lists` lists of rules from the list `current` on. -/
def follow (s : Snapshot) (start : String) : Nat → String → Json → Counters → Lookup
  | 0, _, metadata, counters => ⟨.error (.ruleListLoop start), metadata, counters⟩
  | lists + 1, current, metadata, counters =>
    match s.ruleList? current with
    | none => ⟨.error (.ruleListNotFound current), metadata, counters⟩
    | some list =>
      match list.evaluate s.rule? metadata counters with
      | (.error f, counters) => ⟨.error f, metadata, counters⟩
      | (.ok none, counters) => ⟨.ok none, metadata, counters⟩
      | (.ok (some rule), counters) =>
        match Action.parse rule.action with
        | .error f => ⟨.error (.invalidAction f), metadata, counters⟩
        | .ok action =>
          match action.route, action.apply with
          | none, some next => follow s start lists next (action.annotate metadata) counters
          | _, _ => ⟨.ok (some ⟨action, rule.route⟩), action.annotate metadata, counters⟩

/-- The action that a list of rules leads to. -/
def lookup (s : Snapshot) (list : String) (metadata : Json) (counters : Counters) : Lookup :=
  s.follow list (maxDelegations + 1) list metadata counters

/-- The route of an action. The route of the rule itself comes first. An action that defines a route
which the rule has not built gets a new one each time. -/
def routeFor (s : Snapshot) (d : Decision) (res : Resources) :
    Except RoutingFault (Option Route) × Resources :=
  match d.route, d.action.route with
  | some route, _ => (.ok (some route), res)
  | none, none => (.ok none, res)
  | none, some (.named name) =>
    match s.route? name with
    | some route => (.ok (some route), res)
    | none => (.error (.routeNotFound name), res)
  | none, some (.inline definition) =>
    let (route, res) := res.buildNamedRoute definition
    (.ok (some route), res)

/-- The cluster of a route. -/
def clusterFor (s : Snapshot) (route : Route) : Except RoutingFault ClusterId :=
  match route.destination with
  | .own _ id => .ok id
  | .registered name =>
    match s.cluster? name with
    | some id => .ok id
    | none => .error (.clusterNotFound name)

end Snapshot

end Switchboard

/-
The registry: what is registered now, and what is used up as things are created.

The operations here check nothing. They are for those who hand in things of their own, and for
looking at how sessions would be routed.

* `Registry.putRule`, `putRuleList`, `putRoute`, `putCluster`: storing;
* `Registry.applyRule`, `evaluate`, `lookup`: routing a document step by step.
-/
import Switchboard.Routing.Snapshot

namespace Switchboard

/-- What is registered now, and what is used up as things are created. -/
structure Registry where
  current : Snapshot
  resources : Resources

namespace Registry

def empty : Registry := ⟨.empty, .fresh⟩

def counters (r : Registry) : Counters := r.resources.counters

def clusters (r : Registry) : ClusterPool := r.resources.clusters

/-- Replaces the counts. -/
def setCounters (r : Registry) (counters : Counters) : Registry :=
  { r with resources := { r.resources with counters } }

/-- Replaces the clusters. -/
def setClusters (r : Registry) (clusters : ClusterPool) : Registry :=
  { r with resources := { r.resources with clusters } }

/-! ### Storing -/

/-- Stores a new rule. -/
def putRule (r : Registry) (name : String) (condition : Match) (action : Json) : Registry :=
  let (rule, resources) := Rule.build r.resources name condition action
  ⟨r.current.putRule rule, resources⟩

/-- Stores a new list under its own name or a default one. -/
def putRuleList (r : Registry) (d : RuleListDefinition) : RuleList × Registry :=
  let (name, res) := match d.name with
    | some name => (name, r.resources)
    | none => r.resources.nextName .ruleList
  let (list, res) := RuleList.build res name d
  (list, ⟨r.current.putRuleList list, res⟩)

/-- Stores a new route under its own name or a default one. -/
def putRoute (r : Registry) (d : RouteDefinition) : Route × Registry :=
  let (route, res) := r.resources.buildNamedRoute d
  (route, ⟨r.current.putRoute route, res⟩)

/-- Stores a cluster. -/
def putCluster (r : Registry) (cluster : Cluster) : Registry :=
  let (id, clusters) := r.clusters.add cluster
  { r.setClusters clusters with current := r.current.putCluster cluster.name id }

/-! ### Routing -/

/-- What applying a rule comes to: its action if it matches. -/
def applyRule (r : Registry) (rule : Rule) (metadata : Json) : Option Json × Registry :=
  if rule.condition.holds metadata then
    (some rule.action, r.setCounters (r.counters.increment rule.counter))
  else (none, r)

/-- The action of the rule that a list of the snapshot `s` finds. -/
def evaluate (r : Registry) (s : Snapshot) (list : RuleList) (metadata : Json) :
    Except RoutingFault (Option Json) × Registry :=
  let (found, counters) := list.evaluate s.rule? metadata r.counters
  (found.map (Option.map Rule.action), r.setCounters counters)

/-- The action that a list of the snapshot `s` leads to, and the metadata that comes with it. -/
def lookup (r : Registry) (s : Snapshot) (list : String) (metadata : Json) :
    Except RoutingFault (Option Snapshot.Decision) × Json × Registry :=
  let found := s.lookup list metadata r.counters
  (found.result, found.metadata, r.setCounters found.counters)

/-- The route of a decision in the snapshot `s`. -/
def routeFor (r : Registry) (s : Snapshot) (d : Snapshot.Decision) :
    Except RoutingFault (Option Route) × Registry :=
  let (route, resources) := s.routeFor d r.resources
  (route, { r with resources })

end Registry

end Switchboard

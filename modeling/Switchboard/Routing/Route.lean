/-
Routes in use.

A destination that a route defines itself is built together with the route, so that all sessions of
the route share it.
-/
import Switchboard.Cluster.Instance
import Switchboard.Definition.Route

namespace Switchboard

/-- Where a route sends its traffic. -/
inductive Destination
  /-- The cluster that is registered under a name when a session is routed. -/
  | registered (name : String)
  /-- A cluster of the route's own. -/
  | own (definition : ClusterDefinition) (id : ClusterId)

namespace Destination

/-- Builds what a definition refers to. -/
def build (pool : ClusterPool) : ClusterReference → Destination × ClusterPool
  | .named name => (registered name, pool)
  | .inline definition =>
    let (id, pool) := pool.add (.build definition)
    (own definition id, pool)

def toReference : Destination → ClusterReference
  | registered name => .named name
  | own definition _ => .inline definition

end Destination

/-- A route. -/
structure Route where
  name : String
  destination : Destination
  ingress : List StageDefinition
  retry : RetryPolicy

namespace Route

/-- Builds a route of the given name; the definition's own name does not count. -/
def build (pool : ClusterPool) (name : String) (d : RouteDefinition) : Route × ClusterPool :=
  let (destination, pool) := Destination.build pool d.destination
  (⟨name, destination, d.ingress, d.retry⟩, pool)

/-- The definition of a route. -/
def toDefinition (r : Route) : RouteDefinition :=
  ⟨some r.name, r.destination.toReference, r.ingress, r.retry⟩

/-- The route as it is shown. -/
def view (r : Route) : Json := r.toDefinition.encode

/-- Whether the route sends its traffic to the registered cluster `name`. -/
def usesCluster (r : Route) (name : String) : Bool :=
  match r.destination with
  | .registered n => n == name
  | .own _ _ => false

/-- Whether the route runs the registered stage `name`. -/
def usesStage (r : Route) (name : String) : Bool :=
  r.ingress.any fun
    | .named n => n == name
    | _ => false

end Route

end Switchboard

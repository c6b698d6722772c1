/-
Binding a session to a route and a cluster.

All of it uses one snapshot, and nothing of it shows in the session unless all of it succeeds.
-/
import Switchboard.Routing.Registry
import Switchboard.Session.Basic

namespace Switchboard

/-- What a session is bound to. -/
structure Binding where
  route : Route
  cluster : ClusterId
  metadata : Json

namespace Binding

/-- Binds a session, given the list of rules that decides and the session's metadata. -/
def find (r : Registry) (ruleList : String) (metadata : Json) :
    Except Outcome Binding × Registry :=
  let s := r.current
  let found := s.lookup ruleList metadata r.counters
  let r := r.setCounters found.counters
  match found.result with
  | .error f => (.error (.ofFault f), r)
  | .ok none => (.error .unroutable, r)
  | .ok (some decision) =>
    let (route, resources) := s.routeFor decision r.resources
    let r := { r with resources }
    match route with
    | .error f => (.error (.ofFault f), r)
    | .ok none => (.error (.configError "matched action has no route"), r)
    | .ok (some route) =>
      match s.clusterFor route with
      | .error f => (.error (.ofFault f), r)
      | .ok cluster =>
        match StageDefinition.runAll s.stage? route.ingress found.metadata with
        | .error f => (.error (.ofFault f), r)
        | .ok metadata => (.ok ⟨route, cluster, metadata⟩, r)

end Binding

end Switchboard

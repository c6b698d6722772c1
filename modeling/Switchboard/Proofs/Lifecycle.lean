/-
The life of the sessions of a proxy.

A session may be destroyed, and the whole proxy shut down, between any two steps of its task.
Whatever the order is, its states follow one another along the same edges, it is terminated at most
once, and it stays as it was terminated.

* `run_sound`: in every run the task of a session goes with its state;
* `run_lifecycle`: how sessions change from event to event, and that they end for good.
-/
import Switchboard.Proofs.Proxy.Sessions
import Switchboard.Proofs.Session.Life

namespace Switchboard

namespace Proxy

theorem run_sound (strict : Bool) (events : List Event) {id : ActorId} {r : Running}
    (h : (run events (fresh strict)).running? id = some r) : r.Sound := by
  obtain ⟨number, name, ruleList, metadata, history, hfollows⟩ := run_follows strict events h
  exact hfollows.sound (Running.sound_ofSession number name ruleList metadata)

/-- From one event to the next. -/
theorem apply_moved {p : Proxy} {id : ActorId} {r : Running} (e : Event)
    (h : p.running? id = some r) (hr : r.Sound) :
    ∃ next, (p.apply e).running? id = some next ∧
      (next = r ∨ ∃ x, e.Tells x ∧ r.Moved x next) := by
  obtain ⟨next, hnext, hsame | ⟨x, htells, hstep⟩⟩ := (p.apply_evolves e).old id r h
  · exact ⟨next, hnext, .inl hsame⟩
  · exact ⟨next, hnext, .inr ⟨x, htells, hstep.moved hr⟩⟩

/-- A session that is terminated stays as it is, whatever happens later. -/
theorem run_settled {p : Proxy} {id : ActorId} {r : Running} (later : List Event)
    (h : p.running? id = some r) (hr : r.Sound) (terminated : r.session.state = .terminated) :
    ∃ final, (run later p).running? id = some final ∧
      final.session.record = r.session.record := by
  induction later generalizing p r with
  | nil => exact ⟨r, h, rfl⟩
  | cons e rest ih =>
    rw [run_cons]
    obtain ⟨next, hnext, rfl | ⟨x, -, hmoved⟩⟩ := apply_moved e h hr
    · exact ih hnext hr terminated
    · -- it may still be told something, but to no effect
      have hrecord := hmoved.settled terminated
      have hstate : next.session.state = .terminated :=
        (congrArg Prod.fst hrecord).trans terminated
      obtain ⟨final, hfinal, hsame⟩ := ih hnext hmoved.sound hstate
      exact ⟨final, hfinal, hsame.trans hrecord⟩

/-- **Sessions live along the edges and end once.** After any run a session has an outcome if and
only if it is terminated. At the next event, whichever it is, a new session is in its first state,
and one that was there stays in its state or moves along an edge; if that terminates it, the
outcome is that of its destruction, or the one that its task has come to. A session that is
terminated keeps its state, its outcome and all that was counted, whatever happens later. -/
theorem run_lifecycle (strict : Bool) (events : List Event) (id : ActorId) :
    let p := run events (fresh strict)
    (∀ r, p.running? id = some r →
      (r.session.outcome.isSome ↔ r.session.state = .terminated)) ∧
    (∀ e r, p.running? id = none → (p.apply e).running? id = some r →
      r.session.state = .created) ∧
    (∀ e r, p.running? id = some r → ∃ next, (p.apply e).running? id = some next ∧
      (next.session.state = r.session.state ∨
        SessionState.Edge r.session.state next.session.state) ∧
      (r.session.state ≠ .terminated → next.session.state = .terminated →
        (e.isDestroying = true ∧ next.session.outcome = some .destroyed) ∨
          ∃ outcome, r.task = .ended outcome ∧ next.session.outcome = some outcome)) ∧
    (∀ later r, p.running? id = some r → r.session.state = .terminated →
      ∃ final, (run later p).running? id = some final ∧
        final.session.record = r.session.record) := by
  intro p
  refine ⟨fun r hr => (run_sound strict events hr).outcome, ?_, ?_, ?_⟩
  · intro e r hnone hr
    obtain ⟨number, name, ruleList, metadata, rfl⟩ := (p.apply_evolves e).new id r hnone hr
    rfl
  · intro e r hr
    obtain ⟨next, hnext, rfl | ⟨x, htells, hmoved⟩⟩ := apply_moved e hr (run_sound strict events hr)
    · exact ⟨next, hnext, .inl rfl, fun live terminated => absurd terminated live⟩
    · refine ⟨next, hnext, hmoved.edge, fun live terminated => ?_⟩
      rcases hmoved.outcome live terminated with ⟨hx, houtcome⟩ | houtcome
      · exact .inl ⟨htells hx, houtcome⟩
      · exact .inr houtcome
  · intro later r hr terminated
    exact run_settled later hr (run_sound strict events hr) terminated

/-- A session finds no list of rules, and is destroyed before it takes note of that. -/
def raced : List Event :=
  [.dispatch (.ofFields [("name", .string "s")]) "main" none, .step 0, .destroy "s"]

theorem run_lifecycle_raced :
    ∃ final, (run [.step 0, .shutdown] (run raced (fresh false))).running? 0 = some final ∧
      final.session.record = (.terminated, some .destroyed, 0, 0, 0, 0) := by
  have hraced : ((run raced (fresh false)).running? 0).map (·.session.record) =
      some (.terminated, some .destroyed, 0, 0, 0, 0) := by
    decide +kernel
  obtain ⟨r, hr, hrecord⟩ := Option.map_eq_some_iff.mp hraced
  obtain ⟨final, hfinal, hsame⟩ := (run_lifecycle false raced 0).2.2.2 [.step 0, .shutdown] r hr
    (congrArg Prod.fst hrecord)
  exact ⟨final, hfinal, hsame.trans hrecord⟩

end Proxy

end Switchboard

/-
Sessions that are bound.

A session is bound once, in its first step. Then it has the route of its binding, and wherever it
connects it goes to the cluster and by the policy of that binding, whatever it is told. Its metadata
changes only if somebody edits it.

* `Running.Bound`: what a session has from its binding;
* `Running.Keeps`: what a session keeps that is told neither its binding nor other metadata;
* `Step.keeps`: all other signals let it keep that;
* `Bound.step`, `Unbound.step`: a bound session stays bound, and any other one is not routed.
-/
import Switchboard.Proofs.Session.Episode

namespace Switchboard

namespace Running

variable {r next : Running} {b : Binding} {s : Session} {task : Task} {c : Connector}

/-- What a session has that is bound to `b`. -/
structure Bound (b : Binding) (r : Running) : Prop where
  route : r.session.route = some b.route
  started : r.task ≠ .starting
  connector : ∀ c, r.task.connector? = some c → c.cluster = b.cluster ∧ c.policy = b.route.retry

/-- What a session has that is not bound. -/
structure Unbound (r : Running) : Prop where
  route : r.session.route = none
  idle : r.task.connector? = none
  routed : r.session.state ≠ .routed

/-- What a session keeps from its binding while it goes on. -/
structure Keeps (r next : Running) : Prop where
  route : next.session.route = r.session.route
  metadata : next.session.metadata = r.session.metadata
  routed : next.session.state = .routed → r.session.state = .routed
  started : r.task ≠ .starting → next.task ≠ .starting
  connector : ∀ c, next.task.connector? = some c →
    ∃ old, r.task.connector? = some old ∧ c.cluster = old.cluster ∧ c.policy = old.policy

/-! ### One signal -/

theorem keeps_ended (s : Session) (task : Task) (outcome : Outcome) :
    Keeps ⟨s, task⟩ ⟨s, .ended outcome⟩ :=
  ⟨rfl, rfl, id, nofun, nofun⟩

theorem Keeps.advance {state : SessionState} {again : Session → Running}
    (h : Keeps ⟨s, task⟩ (again { s with state })) :
    Keeps ⟨s, task⟩ (advance s state again) := by
  unfold Running.advance
  split
  · exact keeps_ended s task _
  · next live =>
    rwa [Session.transition, if_neg live]

/-- A call goes to the same cluster. -/
theorem keeps_call (h : task.connector? = some c) : Keeps ⟨s, task⟩ (call s c) where
  route := rfl
  metadata := rfl
  routed := id
  started _ := nofun
  connector _ hc := ⟨c, h, by cases hc; rfl, by cases hc; rfl⟩

theorem keeps_retry (h : task.connector? = some c) (failure : FailureKind) (reason : String)
    (elapsed : Option Nat) (again : Next) :
    Keeps ⟨s, task⟩ (retry s c failure reason elapsed again) := by
  unfold retry
  dsimp only
  split
  · exact keeps_ended s task _
  · split
    · exact keeps_ended s task _
    · refine .advance ⟨rfl, rfl, nofun, fun _ => nofun, fun _ hc => ⟨c, h, ?_⟩⟩
      cases hc
      exact ⟨rfl, rfl⟩

theorem keeps_pipeEnded (h : task.connector? = some c) (since now : Nat) (retriable : Bool)
    (e : Pipe.End) : Keeps ⟨s, task⟩ (pipeEnded s c since now retriable e) := by
  cases e with
  | source reason =>
    rw [pipeEnded]
    split
    · exact keeps_retry h _ _ _ _
    · exact keeps_ended s task _
  | destination reason =>
    rw [pipeEnded]
    split
    · exact keeps_retry h _ _ _ _
    · exact keeps_ended s task _

theorem keeps_terminate {later : Task} (s : Session) (task : Task) (outcome : Outcome)
    (started : later ≠ .starting) (idle : later.connector? = none) :
    Keeps ⟨s, task⟩ ⟨s.terminate outcome, later⟩ := by
  have hconnector : ∀ c, later.connector? = some c → ∃ old, task.connector? = some old ∧
      c.cluster = old.cluster ∧ c.policy = old.policy := by
    rw [idle]
    nofun
  unfold Session.terminate
  split
  · exact ⟨rfl, rfl, id, fun _ => started, hconnector⟩
  · exact ⟨rfl, rfl, nofun, fun _ => started, hconnector⟩

/-- Only its binding and edits change what a session is bound to and its metadata. -/
theorem Step.keeps {x : Signal} (step : r.Step x next)
    (bound : ∀ hook binding, x ≠ .bound hook binding)
    (edited : ∀ metadata, x ≠ .edited metadata) : r.Keeps next := by
  cases step with
  | bound s hook binding => exact absurd rfl (bound hook binding)
  | connected s c now =>
    refine .advance ⟨rfl, rfl, nofun, fun _ => nofun, fun _ hc => ⟨c, rfl, ?_⟩⟩
    cases hc
    exact ⟨rfl, rfl⟩
  | refused s c reason => exact keeps_retry rfl _ _ _ _
  | forwarded s c since bytesIn bytesOut =>
    exact ⟨rfl, rfl, id, fun _ => nofun, fun c' hc => ⟨c', hc, rfl, rfl⟩⟩
  | sourceEnded s c since now retriable reason => exact keeps_pipeEnded rfl _ _ _ _
  | destinationEnded s c since now retriable reason => exact keeps_pipeEnded rfl _ _ _ _
  | delayOver s c delay again =>
    cases again with
    | connect => exact keeps_call rfl
    | reacquire => exact ⟨rfl, rfl, id, fun _ => nofun, fun c' hc => ⟨c', hc, rfl, rfl⟩⟩
  | reacquired s c => exact keeps_call rfl
  | notReacquired s c reason => exact keeps_retry rfl _ _ _ _
  | edited s task metadata => exact absurd rfl (edited metadata)
  | finished s outcome => exact keeps_terminate s _ outcome nofun rfl
  | left s => exact ⟨rfl, rfl, id, fun _ => nofun, nofun⟩
  | destroyed => exact keeps_terminate r.session r.task .destroyed nofun rfl

/-! ### Bound sessions -/

/-- A session is told its binding when it starts. -/
theorem Step.eq_begin {hook : Bool} {binding : Except Outcome Binding}
    (step : r.Step (.bound hook binding) next) :
    r.task = .starting ∧ next = begin r.session hook binding := by
  cases step
  exact ⟨rfl, rfl⟩

theorem Bound.keeps (h : r.Bound b) (keeps : r.Keeps next) : next.Bound b where
  route := keeps.route.trans h.route
  started := keeps.started h.started
  connector c hc := by
    obtain ⟨old, hold, hcluster, hpolicy⟩ := keeps.connector c hc
    rw [hcluster, hpolicy]
    exact h.connector old hold

/-- A session is bound once: whatever it is told later, it stays so. -/
theorem Bound.step {x : Signal} (h : r.Bound b) (step : r.Step x next) : next.Bound b := by
  cases x with
  | bound hook binding => exact absurd step.eq_begin.1 h.started
  | edited metadata =>
    cases step
    exact ⟨h.route, h.started, h.connector⟩
  | _ => exact h.keeps (step.keeps nofun nofun)

/-- A session starts out with what was found for it, even if it was terminated meanwhile. -/
theorem bound_begin (s : Session) (hook : Bool) (b : Binding) : (begin s hook (.ok b)).Bound b := by
  rw [begin, advance]
  split
  · refine ⟨rfl, by simp, fun c hc => ?_⟩
    cases hc
  · next live =>
    rw [Session.transition, if_neg live]
    refine ⟨rfl, by simp [call], fun c hc => ?_⟩
    cases hc
    exact ⟨rfl, rfl⟩

theorem unbound_ofSession (number : SessionId) (name ruleList : String) (metadata : Json) :
    (ofSession (.create number name ruleList metadata)).Unbound :=
  ⟨rfl, rfl, nofun⟩

/-- A session that is not bound stays so until a binding is found for it. -/
theorem Unbound.step {x : Signal} (h : r.Unbound) (step : r.Step x next) :
    next.Unbound ∨ ∃ hook b, x = .bound hook (.ok b) ∧ next.Bound b := by
  have hkeeps (keeps : r.Keeps next) : next.Unbound := by
    refine ⟨keeps.route.trans h.route, ?_, fun hrouted => h.routed (keeps.routed hrouted)⟩
    cases hnext : next.task.connector? with
    | none => rfl
    | some c =>
      obtain ⟨old, hold, -⟩ := keeps.connector c hnext
      rw [h.idle] at hold
      cases hold
  cases x with
  | bound hook binding =>
    obtain ⟨-, rfl⟩ := step.eq_begin
    cases binding with
    | error outcome => exact .inl ⟨h.route, rfl, h.routed⟩
    | ok b => exact .inr ⟨hook, b, rfl, bound_begin r.session hook b⟩
  | edited metadata =>
    cases step
    exact .inl ⟨h.route, h.idle, h.routed⟩
  | _ => exact .inl (hkeeps (step.keeps nofun nofun))

end Running

end Switchboard

/-
The life of a session, from one state to the next.

What a session does goes with the state it is in, and it has an outcome as soon as it is
terminated. So the states follow one another along a few edges only, however the session is
interrupted.

* `SessionState.Edge`: the changes of state that there are;
* `Running.Sound`: the task goes with the state, and the outcome too;
* `Step.moved`: every step leads along an edge or stays, and a terminated session is left as it is.
-/
import Switchboard.Proofs.Session.Signal

namespace Switchboard

/-- The changes of state that there are. -/
inductive SessionState.Edge : SessionState → SessionState → Prop
  | routed : Edge created routed
  | connected : Edge routed connected
  | refused : Edge routed reconnecting
  | broken : Edge connected reconnecting
  | refusedAgain : Edge reconnecting reconnecting
  | reconnected : Edge reconnecting connected
  | terminated {s : SessionState} (live : s ≠ terminated) : Edge s terminated

/-- What is settled when a session is terminated: how it ended, and what was counted. -/
def Session.record (s : Session) : SessionState × Option Outcome × Nat × Nat × Nat × Nat :=
  (s.state, s.outcome, s.connectAttempts, s.reconnects, s.bytesIn, s.bytesOut)

/-- The states in which a session may have a task. -/
def Task.Fits : Task → SessionState → Prop
  | starting, state => state = .created
  | connecting _, state => state = .routed ∨ state = .reconnecting
  | piping _ _, state => state = .connected
  | waiting _ _ _, state | reacquiring _, state => state = .reconnecting
  | ended _, state => state ≠ .terminated
  | leaving, state | gone, state => state = .terminated

theorem Task.Fits.live {task : Task} {state : SessionState} (h : task.Fits state)
    (leaving : task ≠ .leaving) (gone : task ≠ .gone) : state ≠ .terminated := by
  rintro rfl
  cases task <;> simp_all [Fits]

namespace Running

/-- The task goes with the state, and there is an outcome if and only if the session is
terminated. -/
structure Sound (r : Running) : Prop where
  fits : r.task.Fits r.session.state
  outcome : r.session.outcome.isSome ↔ r.session.state = .terminated

/-- How a session goes on after a signal, as seen from outside. -/
structure Moved (r : Running) (x : Signal) (next : Running) : Prop where
  sound : next.Sound
  edge : next.session.state = r.session.state ∨
    SessionState.Edge r.session.state next.session.state
  settled : r.session.state = .terminated → next.session.record = r.session.record
  outcome : r.session.state ≠ .terminated → next.session.state = .terminated →
    (x = .destroyed ∧ next.session.outcome = some .destroyed) ∨
      ∃ outcome, r.task = .ended outcome ∧ next.session.outcome = some outcome

variable {s : Session}

/-- What does not terminate a session leaves it without an outcome. -/
theorem Moved.of_live {r next : Running} {x : Signal} (live : r.session.state ≠ .terminated)
    (outcome : r.session.outcome.isSome ↔ r.session.state = .terminated)
    (same : next.session.outcome = r.session.outcome)
    (later : next.session.state ≠ .terminated) (fits : next.task.Fits next.session.state)
    (edge : next.session.state = r.session.state ∨
      SessionState.Edge r.session.state next.session.state) : r.Moved x next where
  sound := ⟨fits, by rw [same, outcome]; exact iff_of_false live later⟩
  edge
  settled h := absurd h live
  outcome _ h := absurd h later

/-- A retry ends the session or makes it reconnect. -/
theorem retry_session_cases (live : s.isTerminated = false) (c : Connector) (failure : FailureKind)
    (reason : String) (elapsed : Option Nat) (again : Next) :
    (∃ outcome, retry s c failure reason elapsed again = ⟨s, .ended outcome⟩) ∨
      ∃ spent delay, retry s c failure reason elapsed again =
        ⟨{ s with state := .reconnecting }, .waiting spent delay again⟩ := by
  rw [retry, advance_of_live live]
  dsimp only
  split
  · exact .inl ⟨_, rfl⟩
  · split
    · exact .inl ⟨_, rfl⟩
    · exact .inr ⟨_, _, rfl⟩

theorem isTerminated_eq_false (h : s.state ≠ .terminated) : s.isTerminated = false := by
  simpa [Session.isTerminated] using h

/-- A failure in a state from which a session may reconnect. -/
theorem moved_retry {task : Task} {x : Signal} (live : s.state ≠ .terminated)
    (outcome : s.outcome.isSome ↔ s.state = .terminated)
    (edge : SessionState.Edge s.state .reconnecting) (c : Connector) (failure : FailureKind)
    (reason : String) (elapsed : Option Nat) (again : Next) :
    Moved ⟨s, task⟩ x (retry s c failure reason elapsed again) := by
  rcases retry_session_cases (isTerminated_eq_false live) c failure reason elapsed again with
    ⟨o, hnext⟩ | ⟨spent, delay, hnext⟩
  · rw [hnext]
    exact .of_live live outcome rfl live live (.inl rfl)
  · rw [hnext]
    exact .of_live live outcome rfl (by simp) rfl (.inr edge)

/-- Whichever stream has ended, the session reconnects or finds its end. -/
theorem moved_pipeEnded {task : Task} {x : Signal} (connected : s.state = .connected)
    (outcome : s.outcome.isSome ↔ s.state = .terminated) (c : Connector) (since now : Nat)
    (retriable : Bool) (e : Pipe.End) :
    Moved ⟨s, task⟩ x (pipeEnded s c since now retriable e) := by
  have live : s.state ≠ .terminated := by simp [connected]
  cases e with
  | source reason =>
    rw [pipeEnded]
    split
    · exact moved_retry live outcome (connected ▸ .broken) c _ _ _ _
    · exact .of_live live outcome rfl live live (.inl rfl)
  | destination reason =>
    rw [pipeEnded]
    split
    · exact moved_retry live outcome (connected ▸ .broken) c _ _ _ _
    · exact .of_live live outcome rfl live live (.inl rfl)

/-- Whatever a session is doing, it may be destroyed. If it is terminated, nothing changes. -/
theorem moved_destroy {r : Running}
    (outcome : r.session.outcome.isSome ↔ r.session.state = .terminated) :
    r.Moved .destroyed r.destroy := by
  by_cases hstate : r.session.state = .terminated
  · have hsame : r.destroy.session = r.session :=
      Session.terminate_of_terminated (by simp [Session.isTerminated, hstate]) _
    exact ⟨⟨by rw [hsame]; exact hstate, by rw [hsame]; exact outcome⟩, .inl (by rw [hsame]),
      fun _ => by rw [hsame], fun live => absurd hstate live⟩
  · have hnext : r.destroy.session =
        { r.session with state := .terminated, outcome := some .destroyed } := by
      simp [destroy, Session.terminate, isTerminated_eq_false hstate]
    refine ⟨⟨?_, ?_⟩, .inr ?_, fun h => absurd h hstate, fun _ _ => .inl ⟨rfl, ?_⟩⟩
    · rw [hnext]
      rfl
    · simp [hnext]
    · rw [hnext]
      exact .terminated hstate
    · rw [hnext]

/-- Every step leads along an edge or stays, and leaves a terminated session as it is. -/
theorem Step.moved {r next : Running} {x : Signal} (step : r.Step x next) (hr : r.Sound) :
    r.Moved x next := by
  obtain ⟨fits, outcome⟩ := hr
  cases step with
  | bound s hook binding =>
    have live : s.state ≠ .terminated := fits.live (by simp) (by simp)
    cases binding with
    -- a session that cannot be bound has found its end, but is not terminated yet
    | error o => exact .of_live live outcome rfl live live (.inl rfl)
    | ok b =>
      have hlive : { s with metadata := b.metadata, route := some b.route }.isTerminated = false :=
        isTerminated_eq_false live
      rw [begin, advance_of_live hlive]
      refine .of_live live outcome rfl (by simp [call]) (.inl rfl) (.inr ?_)
      show SessionState.Edge s.state .routed
      rw [show s.state = .created from fits]
      exact .routed
  | connected s c now =>
    -- it is the first connection, or one after a retry
    have live : s.state ≠ .terminated := fits.live (by simp) (by simp)
    rw [Running.connected, advance_of_live (isTerminated_eq_false live)]
    refine .of_live live outcome rfl (by simp) rfl (.inr ?_)
    show SessionState.Edge s.state .connected
    rcases fits with h | h
    · rw [show s.state = .routed from h]
      exact .connected
    · rw [show s.state = .reconnecting from h]
      exact .reconnected
  | refused s c reason =>
    have live : s.state ≠ .terminated := fits.live (by simp) (by simp)
    refine moved_retry live outcome ?_ c .connect reason none .connect
    rcases fits with h | h
    · rw [show s.state = .routed from h]
      exact .refused
    · rw [show s.state = .reconnecting from h]
      exact .refusedAgain
  | forwarded s c since bytesIn bytesOut =>
    have live : s.state ≠ .terminated := fits.live (by simp) (by simp)
    exact .of_live live outcome rfl live fits (.inl rfl)
  | sourceEnded s c since now retriable reason =>
    exact moved_pipeEnded fits outcome c since now retriable _
  | destinationEnded s c since now retriable reason =>
    exact moved_pipeEnded fits outcome c since now retriable _
  | delayOver s c delay next =>
    have live : s.state ≠ .terminated := fits.live (by simp) (by simp)
    cases next with
    | connect => exact .of_live live outcome rfl live (.inr fits) (.inl rfl)
    | reacquire => exact .of_live live outcome rfl live fits (.inl rfl)
  | reacquired s c =>
    have live : s.state ≠ .terminated := fits.live (by simp) (by simp)
    exact .of_live live outcome rfl live (.inr fits) (.inl rfl)
  | notReacquired s c reason =>
    have hwaiting : s.state = .reconnecting := fits
    have live : s.state ≠ .terminated := fits.live (by simp) (by simp)
    exact moved_retry live outcome (hwaiting ▸ .refusedAgain) c _ _ _ _
  | edited s task metadata =>
    refine ⟨⟨fits, outcome⟩, .inl rfl, fun _ => rfl, fun live terminated => ?_⟩
    exact absurd terminated live
  | finished s o =>
    have live : s.isTerminated = false := isTerminated_eq_false fits
    have hnext : finish s o = ⟨{ s with state := .terminated, outcome := some o }, .leaving⟩ := by
      simp [finish, Session.terminate, live]
    rw [hnext]
    exact ⟨⟨rfl, by simp⟩, .inr (.terminated fits), fun h => absurd h fits,
      fun _ _ => .inr ⟨o, rfl, rfl⟩⟩
  | left s =>
    refine ⟨⟨fits, outcome⟩, .inl rfl, fun _ => rfl, fun live terminated => ?_⟩
    exact absurd terminated live
  | destroyed => exact moved_destroy outcome

/-! ### All signals -/

theorem sound_ofSession (number : SessionId) (name ruleList : String) (metadata : Json) :
    (ofSession (.create number name ruleList metadata)).Sound :=
  ⟨rfl, by simp [ofSession, Session.create]⟩

theorem Follows.sound {r now : Running} {history : List Signal} (h : r.Follows history now)
    (hr : r.Sound) : now.Sound := by
  induction h with
  | start => exact hr
  | signal _ step ih => exact (step.moved ih).sound

end Running

end Switchboard

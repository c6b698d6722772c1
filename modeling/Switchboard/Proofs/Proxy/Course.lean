/-
How sessions go on, seen as signals.

A session that goes on is told a signal, except that it may be terminated some time before its task
takes note of that. In between its task may do things that no session in its state does, but a
terminated session stays terminated, and no session changes its name or its number.

* `Running.Step.isLoose`: signals that are no matter of streams leave a session on its way or end it;
* `Running.Step.isTerminated`, `Running.Step.identity`: what no signal changes;
* `Running.Step.standing`: what only forwarding changes;
* `Goes.step_cases`: a session goes on by a signal, or is terminated and takes note of that;
* `Goes.sound`: the task of a session goes with its state until it is terminated.
-/
import Switchboard.Proofs.Proxy.Turn
import Switchboard.Proofs.Session.Life

namespace Switchboard

/-- Whether a session is on the way to a destination. -/
def Task.isSeeking : Task → Bool
  | .starting | .connecting _ | .waiting _ _ _ | .reacquiring _ => true
  | _ => false

/-- What a session is known by. -/
def Session.identity (s : Session) : SessionId × String := (s.id, s.name)

/-- What only forwarding changes: what a session is known by, and what it has counted. -/
def Session.standing (s : Session) : (SessionId × String) × Nat × Nat :=
  (s.identity, s.bytesIn, s.bytesOut)

/-- Whether bytes were forwarded. -/
def Signal.IsForwarding (x : Signal) : Prop := ∃ bytesIn bytesOut, x = .forwarded bytesIn bytesOut

namespace Running

/-! ### What tasks may do -/

/-- A session that is on the way to a destination, or has come to its end. -/
def IsLoose (r : Running) : Prop := r.task.isSeeking = true ∨ ∃ outcome, r.task = .ended outcome

theorem IsLoose.isPiping {r : Running} (loose : r.IsLoose) : r.task.isPiping = false := by
  rcases loose with hseeking | ⟨outcome, hended⟩
  · cases htask : r.task with
    | piping c since => simp [htask, Task.isSeeking] at hseeking
    | _ => rfl
  · rw [hended]
    rfl

theorem IsLoose.advance {state : SessionState} {next : Session → Running} (s : Session)
    (hnext : ∀ t, (next t).IsLoose) : (advance s state next).IsLoose := by
  unfold Running.advance
  split
  · exact .inr ⟨_, rfl⟩
  · exact hnext _

theorem isLoose_retry (s : Session) (c : Connector) (failure : FailureKind) (reason : String)
    (elapsed : Option Nat) (again : Next) : (retry s c failure reason elapsed again).IsLoose := by
  unfold retry
  dsimp only
  split
  · exact .inr ⟨_, rfl⟩
  · split
    · exact .inr ⟨_, rfl⟩
    · exact .advance s fun _ => .inl rfl

theorem isLoose_pipeEnded (s : Session) (c : Connector) (since now : Nat) (retriable : Bool)
    (e : Pipe.End) : (pipeEnded s c since now retriable e).IsLoose := by
  cases e with
  | source reason =>
    rw [pipeEnded]
    split
    · exact isLoose_retry s c _ _ _ _
    · exact .inr ⟨_, rfl⟩
  | destination reason =>
    rw [pipeEnded]
    split
    · exact isLoose_retry s c _ _ _ _
    · exact .inr ⟨_, rfl⟩

/-- A signal that is no matter of streams changes the tasks of seeking sessions only. -/
theorem Step.isLoose {r next : Running} {x : Signal} (step : r.Step x next) (minor : x.IsMinor) :
    next.task = r.task ∨ (r.task.isSeeking = true ∧ next.IsLoose) := by
  cases step with
  | bound s hook binding =>
    refine .inr ⟨rfl, ?_⟩
    cases binding with
    | error o => exact .inr ⟨_, rfl⟩
    | ok b =>
      rw [begin]
      exact .advance _ fun _ => .inl rfl
  | refused s c reason => exact .inr ⟨rfl, isLoose_retry s c _ _ _ _⟩
  | delayOver s c delay again =>
    refine .inr ⟨rfl, .inl ?_⟩
    cases again <;> rfl
  | notReacquired s c reason => exact .inr ⟨rfl, isLoose_retry s c _ _ _ _⟩
  | edited s task metadata => exact .inl rfl
  | _ => cases minor

/-! ### Terminated sessions stay so -/

theorem advance_of_terminated {s : Session} (h : s.isTerminated = true) (state : SessionState)
    (next : Session → Running) : advance s state next = ⟨s, .ended .destroyed⟩ := by
  rw [advance, if_pos h]

theorem retry_session (s : Session) (c : Connector) (failure : FailureKind) (reason : String)
    (elapsed : Option Nat) (again : Next) :
    (retry s c failure reason elapsed again).session = s ∨
      (retry s c failure reason elapsed again).session = s.transition .reconnecting := by
  unfold retry advance
  dsimp only
  split
  · exact .inl rfl
  · split
    · exact .inl rfl
    · split
      · exact .inl rfl
      · exact .inr rfl

theorem pipeEnded_session (s : Session) (c : Connector) (since now : Nat) (retriable : Bool)
    (e : Pipe.End) : (pipeEnded s c since now retriable e).session = s ∨
      (pipeEnded s c since now retriable e).session = s.transition .reconnecting := by
  cases e with
  | source reason =>
    rw [pipeEnded]
    split
    · exact retry_session s c _ _ _ _
    · exact .inl rfl
  | destination reason =>
    rw [pipeEnded]
    split
    · exact retry_session s c _ _ _ _
    · exact .inl rfl

/-- A terminated session that fails to get on is as it was. -/
theorem isTerminated_of_eq_or {s t : Session} (h : s.isTerminated = true)
    (ht : t = s ∨ t = s.transition .reconnecting) : t.isTerminated = true := by
  have hstay : s.transition .reconnecting = s := if_pos h
  rcases ht with rfl | rfl
  · exact h
  · rwa [hstay]

/-- No signal brings a session back, whatever its task still does. -/
theorem Step.isTerminated {r next : Running} {x : Signal} (step : r.Step x next)
    (h : r.session.isTerminated = true) : next.session.isTerminated = true := by
  cases step with
  | bound s hook binding =>
    cases binding with
    | error o => exact h
    | ok b =>
      have hbound : { s with metadata := b.metadata, route := some b.route }.isTerminated = true :=
        h
      rw [begin, advance_of_terminated hbound]
      exact h
  | connected s c now =>
    rw [Running.connected, advance_of_terminated h]
    exact h
  | refused s c reason => exact isTerminated_of_eq_or h (retry_session s c _ _ _ _)
  | forwarded s c since bytesIn bytesOut => exact h
  | sourceEnded s c since now retriable reason =>
    exact isTerminated_of_eq_or h (pipeEnded_session s c _ _ _ _)
  | destinationEnded s c since now retriable reason =>
    exact isTerminated_of_eq_or h (pipeEnded_session s c _ _ _ _)
  | delayOver s c delay again => cases again <;> exact h
  | reacquired s c => exact h
  | notReacquired s c reason => exact isTerminated_of_eq_or h (retry_session s c _ _ _ _)
  | edited s task metadata => exact h
  | finished s outcome => exact s.isTerminated_terminate outcome
  | left s => exact h
  | destroyed => exact r.session.isTerminated_terminate .destroyed

/-! ### Sessions keep their names and counts -/

theorem standing_terminate (s : Session) (outcome : Outcome) :
    (s.terminate outcome).standing = s.standing := by
  unfold Session.terminate
  split <;> rfl

theorem standing_transition (s : Session) (state : SessionState) :
    (s.transition state).standing = s.standing := by
  unfold Session.transition
  split <;> rfl

theorem standing_of_eq_or {s t : Session} (h : t = s ∨ t = s.transition .reconnecting) :
    t.standing = s.standing := by
  rcases h with rfl | rfl
  · rfl
  · exact standing_transition s _

theorem standing_advance (s : Session) (state : SessionState) {next : Session → Running}
    (hnext : ∀ t : Session, (next t).session.standing = t.standing) :
    (advance s state next).session.standing = s.standing := by
  unfold advance
  split
  · rfl
  · exact (hnext _).trans (standing_transition s state)

theorem Step.standing {r next : Running} {x : Signal} (step : r.Step x next)
    (quiet : ¬x.IsForwarding) : next.session.standing = r.session.standing := by
  cases step with
  | forwarded s c since bytesIn bytesOut => exact absurd ⟨_, _, rfl⟩ quiet
  | bound s hook binding =>
    cases binding with
    | error o => rfl
    | ok b =>
      rw [begin]
      exact standing_advance _ _ fun _ => rfl
  | connected s c now =>
    rw [Running.connected]
    exact standing_advance s _ fun _ => rfl
  | refused s c reason => exact standing_of_eq_or (retry_session s c _ _ _ _)
  | sourceEnded s c since now retriable reason =>
    exact standing_of_eq_or (pipeEnded_session s c _ _ _ _)
  | destinationEnded s c since now retriable reason =>
    exact standing_of_eq_or (pipeEnded_session s c _ _ _ _)
  | delayOver s c delay again => cases again <;> rfl
  | notReacquired s c reason => exact standing_of_eq_or (retry_session s c _ _ _ _)
  | finished s outcome => exact standing_terminate s outcome
  | destroyed => exact standing_terminate r.session .destroyed
  | _ => rfl

theorem Step.identity {r next : Running} {x : Signal} (step : r.Step x next) :
    next.session.identity = r.session.identity := by
  by_cases hforwarding : x.IsForwarding
  · obtain ⟨bytesIn, bytesOut, rfl⟩ := hforwarding
    cases step
    rfl
  · exact congrArg Prod.fst (step.standing hforwarding)

end Running

namespace Goes

variable {may : Deed → Prop} {p q : Proxy} {a b : Actor} {handed : Option StreamId}

/-- A session goes on by a signal, unless it is terminated while its task goes on or takes note of
that. -/
theorem step_cases (goes : Goes may p q a b handed) :
    b.running = a.running ∨
      (∃ x, a.running.Step x b.running ∧ (x.IsForwarding → may .forward)) ∨
      b.running = ⟨a.session.terminate .destroyed, a.running.task⟩ ∨
        a.session.isTerminated = true ∧ b.running = ⟨a.session, .ended .destroyed⟩ := by
  -- all signals but one are no forwarding
  have hother {x : Signal} (step : a.running.Step x b.running) (quiet : ¬x.IsForwarding) :
      ∃ x, a.running.Step x b.running ∧ (x.IsForwarding → may .forward) :=
    ⟨x, step, fun h => absurd h quiet⟩
  cases goes with
  | idle running _ => exact .inl running
  | told x minor step _ =>
    refine .inr (.inl (hother step ?_))
    rintro ⟨bytesIn, bytesOut, rfl⟩
    cases minor
  | forwarded allowed c since bytesIn bytesOut task running moreIn moreOut _ =>
    have hstep := Running.Step.forwarded a.session c since (bytesIn - a.session.bytesIn)
      (bytesOut - a.session.bytesOut)
    rw [Nat.add_sub_cancel' moreIn, Nat.add_sub_cancel' moreOut, ← Proxy.running_of_task task,
      ← running] at hstep
    exact .inr (.inl ⟨_, hstep, fun _ => allowed⟩)
  | connected c now d task running _ _ _ =>
    have hstep := Running.Step.connected a.session c now
    rw [← Proxy.running_of_task task, ← running] at hstep
    exact .inr (.inl (hother hstep nofun))
  | unpiped c since now retriable e task running _ _ =>
    refine .inr (.inl ?_)
    cases e with
    | source reason =>
      have hstep := Running.Step.sourceEnded a.session c since now retriable reason
      rw [← Proxy.running_of_task task, ← running] at hstep
      exact hother hstep nofun
    | destination reason =>
      have hstep := Running.Step.destinationEnded a.session c since now retriable reason
      rw [← Proxy.running_of_task task, ← running] at hstep
      exact hother hstep nofun
  | reacquired c s task running _ _ _ _ =>
    have hstep := Running.Step.reacquired a.session c
    rw [← Proxy.running_of_task task, ← running] at hstep
    exact .inr (.inl (hother hstep nofun))
  | finished outcome task running _ _ =>
    have hstep := Running.Step.finished a.session outcome
    rw [← Proxy.running_of_task task, ← running] at hstep
    exact .inr (.inl (hother hstep nofun))
  | left _ task running _ =>
    have hstep := Running.Step.left a.session
    rw [← Proxy.running_of_task task, ← running] at hstep
    exact .inr (.inl (hother hstep nofun))
  | aborted _ running _ _ =>
    have hstep := Running.Step.destroyed a.running
    rw [← running] at hstep
    exact .inr (.inl (hother hstep nofun))
  | terminated running _ => exact .inr (.inr (.inl running))
  | noticed terminated running _ => exact .inr (.inr (.inr ⟨terminated, running⟩))

theorem isTerminated (goes : Goes may p q a b handed) (h : a.session.isTerminated = true) :
    b.session.isTerminated = true := by
  rcases goes.step_cases with hsame | ⟨x, hstep, hx⟩ | hterminated | ⟨-, hnoticed⟩
  · rwa [Actor.session, hsame]
  · exact hstep.isTerminated h
  · rw [Actor.session, hterminated]
    exact a.session.isTerminated_terminate .destroyed
  · rwa [Actor.session, hnoticed]

/-- As long as a session is not terminated, its task goes with its state. -/
theorem sound (goes : Goes may p q a b handed)
    (h : a.session.isTerminated = false → a.running.Sound) (live : b.session.isTerminated = false) :
    b.running.Sound := by
  have hlive : a.session.isTerminated = false := by
    cases hterminated : a.session.isTerminated with
    | false => rfl
    | true =>
      rw [goes.isTerminated hterminated] at live
      cases live
  rcases goes.step_cases with hsame | ⟨x, hstep, hx⟩ | hterminated | ⟨hterminated, -⟩
  · exact hsame ▸ h hlive
  · exact (hstep.moved (h hlive)).sound
  · rw [Actor.session, hterminated, Session.isTerminated_terminate] at live
    cases live
  · rw [hlive] at hterminated
    cases hterminated

theorem identity (goes : Goes may p q a b handed) :
    b.session.identity = a.session.identity := by
  rcases goes.step_cases with hsame | ⟨x, hstep, hx⟩ | hterminated | ⟨-, hnoticed⟩
  · rw [Actor.session, hsame, Actor.session]
  · exact hstep.identity
  · rw [Actor.session, hterminated]
    exact congrArg Prod.fst (Running.standing_terminate a.session .destroyed)
  · rw [Actor.session, hnoticed]

/-- Where no bytes may be forwarded, none are counted. -/
theorem standing (goes : Goes may p q a b handed) (quiet : ¬may .forward) :
    b.session.standing = a.session.standing := by
  rcases goes.step_cases with hsame | ⟨x, hstep, hx⟩ | hterminated | ⟨-, hnoticed⟩
  · rw [Actor.session, hsame, Actor.session]
  · exact hstep.standing fun h => quiet (hx h)
  · rw [Actor.session, hterminated]
    exact Running.standing_terminate a.session .destroyed
  · rw [Actor.session, hnoticed]

/-- The task of a session comes to its end only where that may happen. -/
theorem task_of_gone (goes : Goes may p q a b handed) (calm : ¬may .goAway)
    (h : b.running.task = .gone) : a.running.task = .gone := by
  have hloose {r : Running} (loose : r.IsLoose) : r.task ≠ .gone := by
    intro htask
    rcases loose with hseeking | ⟨outcome, hended⟩
    · rw [htask] at hseeking
      cases hseeking
    · rw [htask] at hended
      cases hended
  cases goes with
  | idle running _ => rwa [← running]
  | told x minor step _ =>
    rcases step.isLoose minor with htask | ⟨-, hnext⟩
    · exact htask ▸ h
    · exact absurd h (hloose hnext)
  | unpiped c since now retriable e _ running _ _ =>
    rw [running] at h
    exact absurd h (hloose (Running.isLoose_pipeEnded _ c _ _ _ _))
  | connected c now d _ running _ _ _ =>
    rw [running, Running.connected, Running.advance] at h
    split at h <;> cases h
  | left allowed _ _ _ => exact absurd allowed calm
  | aborted allowed _ _ _ => exact absurd allowed calm
  | terminated running _ => rwa [running] at h
  | forwarded _ _ _ _ _ _ running _ _ _ =>
    rw [running] at h
    cases h
  | reacquired _ _ _ running _ _ _ _ =>
    rw [running] at h
    cases h
  | finished _ _ running _ _ =>
    rw [running] at h
    cases h
  | noticed _ running _ =>
    rw [running] at h
    cases h

/-- Who is handed no destination forwards bytes only if it did so before. -/
theorem isPiping {p q : Proxy} {a b : Actor} (goes : Goes may p q a b none)
    (h : b.running.task.isPiping = true) : a.running.task.isPiping = true := by
  have hloose {r : Running} (loose : r.IsLoose) : r.task.isPiping ≠ true :=
    Bool.eq_false_iff.mp loose.isPiping
  cases goes with
  | idle running _ => rwa [← running]
  | told x minor step _ =>
    rcases step.isLoose minor with htask | ⟨-, hnext⟩
    · exact htask ▸ h
    · exact absurd h (hloose hnext)
  | forwarded _ _ _ _ _ task _ _ _ _ =>
    rw [task]
    rfl
  | unpiped c since now retriable e _ running _ _ =>
    rw [running] at h
    exact absurd h (hloose (Running.isLoose_pipeEnded _ c _ _ _ _))
  | terminated running _ => rwa [running] at h
  | reacquired _ _ _ running _ _ _ _ =>
    rw [running] at h
    cases h
  | finished _ _ running _ _ =>
    rw [running] at h
    cases h
  | left _ _ running _ =>
    rw [running] at h
    cases h
  | aborted _ running _ _ =>
    rw [running] at h
    cases h
  | noticed _ running _ =>
    rw [running] at h
    cases h

end Goes

end Switchboard

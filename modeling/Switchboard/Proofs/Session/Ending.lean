/-
How a session ends.

A session that has come to its end waits to be terminated. It may be destroyed before that, and
otherwise it ends with the outcome that it has come to. An outcome that tells of routing comes from
the first step of a session only, so a session that is bound never ends with one.

* `Running.EndsWith`: the end of a session, up to its destruction;
* `EndsWith.step`: no signal keeps a session from its end;
* `Step.ended`, `Step.outcome_cases`: what a session comes to, and what it is terminated with;
* `Follows.unbound_or_routed`: a session that is bound does not fail for want of a route.
-/
import Switchboard.Proofs.Session.Bound
import Switchboard.Proofs.Session.Life

namespace Switchboard

namespace Running

variable {r next : Running} {x : Signal} {s : Session} {outcome o : Outcome} {destroyed : Prop}

/-- A session that is not terminated has no outcome. -/
theorem Sound.outcome_eq_none (h : r.Sound) (live : r.session.state ≠ .terminated) :
    r.session.outcome = none :=
  Option.not_isSome_iff_eq_none.mp fun hsome => live (h.outcome.mp hsome)

/-! ### After the end -/

/-- The session has come to its end and is terminated with `outcome`, at once or later; unless it is
destroyed before, which needs `destroyed`. -/
inductive EndsWith (outcome : Outcome) (destroyed : Prop) : Running → Prop
  | ended {s : Session} (live : s.isTerminated = false) (unset : s.outcome = none) :
      EndsWith outcome destroyed ⟨s, .ended outcome⟩
  | terminated {s : Session} {task : Task} (settled : s.isTerminated = true)
      (done : task = .leaving ∨ task = .gone)
      (how : s.outcome = some outcome ∨ destroyed ∧ s.outcome = some .destroyed) :
      EndsWith outcome destroyed ⟨s, task⟩

theorem EndsWith.started (h : r.EndsWith outcome destroyed) : r.task ≠ .starting := by
  cases h with
  | ended => exact nofun
  | terminated settled done how => rcases done with rfl | rfl <;> exact nofun

theorem EndsWith.how (h : r.EndsWith outcome destroyed) (settled : r.session.state = .terminated) :
    r.session.outcome = some outcome ∨ destroyed ∧ r.session.outcome = some .destroyed := by
  cases h with
  | ended live =>
    have hlive := of_decide_eq_false live
    exact absurd settled hlive
  | terminated _ _ how => exact how

theorem EndsWith.sound (h : r.EndsWith outcome destroyed) : r.Sound := by
  cases h with
  | ended live unset =>
    have hlive := of_decide_eq_false live
    exact ⟨hlive, by simp [unset, hlive]⟩
  | terminated settled done how =>
    have hover := of_decide_eq_true settled
    refine ⟨?_, iff_of_true ?_ hover⟩
    · rcases done with rfl | rfl <;> exact hover
    · rcases how with how | ⟨-, how⟩ <;> simp [how]

theorem EndsWith.finish (live : s.isTerminated = false) (outcome : Outcome) (destroyed : Prop) :
    (finish s outcome).EndsWith outcome destroyed := by
  refine .terminated (s.isTerminated_terminate outcome) (.inl rfl) (.inl ?_)
  simp [Session.terminate, live]

/-- Whatever a session is told that has come to its end, it stays there. -/
theorem EndsWith.step (h : r.EndsWith outcome destroyed) (step : r.Step x next)
    (told : x = .destroyed → destroyed) : next.EndsWith outcome destroyed := by
  cases h with
  | ended live unset =>
    -- signals for tasks that are still at work do not fit it
    cases step with
    | edited s task metadata => exact .ended live unset
    | finished s outcome => exact .finish live outcome destroyed
    | destroyed =>
      refine .terminated (Session.isTerminated_terminate _ .destroyed) (.inr rfl) (.inr ?_)
      exact ⟨told rfl, by simp [Session.terminate, live]⟩
  | terminated settled done how =>
    -- it leaves the table, and whatever else it is told has no effect
    rcases done with rfl | rfl
    · cases step with
      | edited s task metadata => exact .terminated settled (.inl rfl) how
      | left s => exact .terminated settled (.inr rfl) how
      | destroyed =>
        rw [destroy, Session.terminate_of_terminated settled]
        exact .terminated settled (.inr rfl) how
    · cases step with
      | edited s task metadata => exact .terminated settled (.inr rfl) how
      | destroyed =>
        rw [destroy, Session.terminate_of_terminated settled]
        exact .terminated settled (.inr rfl) how

/-! ### What a bound session comes to -/

theorem ended_advance {state : SessionState} {again : Session → Running}
    (h : (advance s state again).task = .ended o)
    (goesOn : ∀ t, (again t).task ≠ .ended o) : o.isRoutingFailure = false := by
  unfold advance at h
  split at h
  · cases h
    rfl
  · exact absurd h (goesOn _)

theorem ended_retry {c : Connector} {failure : FailureKind} {reason : String}
    {elapsed : Option Nat} {again : Next}
    (h : (retry s c failure reason elapsed again).task = .ended o) :
    o.isRoutingFailure = false := by
  unfold retry at h
  dsimp only at h
  split at h
  · cases h
    rfl
  · split at h
    · cases h
      rfl
    · exact ended_advance h fun _ => nofun

theorem ended_pipeEnded {c : Connector} {since now : Nat} {retriable : Bool} {e : Pipe.End}
    (h : (pipeEnded s c since now retriable e).task = .ended o) : o.isRoutingFailure = false := by
  cases e with
  | source reason =>
    rw [pipeEnded] at h
    split at h
    · exact ended_retry h
    · cases h
      rfl
  | destination reason =>
    rw [pipeEnded] at h
    split at h
    · exact ended_retry h
    · cases h
      rfl

theorem ended_begin {hook : Bool} {b : Binding} (h : (begin s hook (.ok b)).task = .ended o) :
    o.isRoutingFailure = false :=
  ended_advance h fun _ => nofun

/-- A session comes to a failure of routing if nothing is found for it, and at no other signal. -/
theorem Step.ended (step : r.Step x next) (h : next.task = .ended o) :
    r.task = .ended o ∨ o.isRoutingFailure = false ∨ ∃ hook, x = .bound hook (.error o) := by
  cases step with
  | bound s hook binding =>
    cases binding with
    | error o =>
      cases h
      exact .inr (.inr ⟨hook, rfl⟩)
    | ok b => exact .inr (.inl (ended_begin h))
  | connected s c now => exact .inr (.inl (ended_advance h fun _ => nofun))
  | refused s c reason => exact .inr (.inl (ended_retry h))
  | sourceEnded s c since now retriable reason => exact .inr (.inl (ended_pipeEnded h))
  | destinationEnded s c since now retriable reason => exact .inr (.inl (ended_pipeEnded h))
  | delayOver s c delay again => cases again <;> cases h
  | notReacquired s c reason => exact .inr (.inl (ended_retry h))
  | edited s task metadata => exact .inl h
  | _ => cases h

/-- A session has an outcome that it has come to before, or it is destroyed. -/
theorem Step.outcome_cases (step : r.Step x next) (sound : r.Sound)
    (h : next.session.outcome = some o) :
    r.session.outcome = some o ∨ o = .destroyed ∨ r.task = .ended o := by
  have hmoved := step.moved sound
  by_cases hover : r.session.state = .terminated
  · have hsame : next.session.outcome = r.session.outcome :=
      congrArg (·.2.1) (hmoved.settled hover)
    exact .inl (hsame ▸ h)
  · have hnext : next.session.state = .terminated := hmoved.sound.outcome.mp (by rw [h]; rfl)
    -- the session is terminated right now
    rcases hmoved.outcome hover hnext with ⟨-, hdestroyed⟩ | ⟨outcome, htask, houtcome⟩
    · exact .inr (.inl (Option.some.inj (h.symm.trans hdestroyed)))
    · rw [h, Option.some_inj] at houtcome
      exact .inr (.inr (houtcome ▸ htask))

/-- The session has not failed to be routed, and is not about to. -/
structure IsRouted (r : Running) : Prop where
  ended : ∀ o, r.task = .ended o → o.isRoutingFailure = false
  outcome : ∀ o, r.session.outcome = some o → o.isRoutingFailure = false

theorem isRouted_begin (outcome : s.outcome = none) (hook : Bool) (b : Binding) :
    (begin s hook (.ok b)).IsRouted := by
  refine ⟨fun o => ended_begin, fun o ho => ?_⟩
  have hsame : (begin s hook (.ok b)).session.outcome = s.outcome := by
    rw [begin, advance]
    split
    · rfl
    · next live =>
      rw [Session.transition, if_neg live]
      rfl
  rw [hsame, outcome] at ho
  cases ho

theorem IsRouted.step (h : r.IsRouted) (sound : r.Sound) (started : r.task ≠ .starting)
    (step : r.Step x next) : next.IsRouted := by
  refine ⟨fun o ho => ?_, fun o ho => ?_⟩
  · rcases step.ended ho with hbefore | hother | ⟨hook, rfl⟩
    · exact h.ended o hbefore
    · exact hother
    · exact absurd step.eq_begin.1 started
  · rcases step.outcome_cases sound ho with hbefore | rfl | hended
    · exact h.outcome o hbefore
    · rfl
    · exact h.ended o hended

/-- A session that is bound does not fail for want of a route. -/
theorem Follows.unbound_or_routed {history : List Signal} (h : r.Follows history next)
    (sound : r.Sound) (unbound : r.Unbound) :
    next.Unbound ∨ (∃ b, next.Bound b) ∧ next.IsRouted := by
  -- on the history: a binding is the only way out of the first case, and nothing leads back
  induction h with
  | start => exact .inl unbound
  | @signal history x now next sofar step ih =>
    have hsound := sofar.sound sound
    rcases ih with hunbound | ⟨⟨b, hbound⟩, hrouted⟩
    · rcases hunbound.step step with hstill | ⟨hook, b, rfl, hbound⟩
      · exact .inl hstill
      · obtain ⟨htask, rfl⟩ := step.eq_begin
        have hlive : now.session.state ≠ .terminated :=
          hsound.fits.live (by simp [htask]) (by simp [htask])
        exact .inr ⟨⟨b, hbound⟩, isRouted_begin (hsound.outcome_eq_none hlive) hook b⟩
    · exact .inr ⟨⟨b, hbound.step step⟩, hrouted.step hsound hbound.started step⟩

end Running

end Switchboard

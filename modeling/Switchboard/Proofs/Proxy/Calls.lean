/-
Calls into clusters, and the clocks.

A session calls into its cluster in one kind of step only, and the clocks go on at one kind of event
only. Everything else leaves alone the clocks and the calls that were noted.

* `Proxy.calling?`: what a session calls with, if its next step is a call;
* `Proxy.record`: the clocks, and the calls that were noted;
* `clocks_apply`: the clocks stand still unless time passes;
* `calls_apply`: no call is noted unless a session calls.
-/
import Switchboard.Proofs.Proxy.Frame

namespace Switchboard

namespace Proxy

/-- The connector of a session whose next step is a call into its cluster. -/
def calling? (p : Proxy) (id : ActorId) : Option Connector :=
  (p.actor? id).bind fun a =>
    match a.running.task, a.hold with
    | .connecting c, .none => some c
    | _, _ => none

/-- The time of the timers and the time of the connections. -/
def clocks (p : Proxy) : Nat × Nat := (p.now, p.wallTime)

/-- The clocks, and the calls that were noted. -/
def record (p : Proxy) : (Nat × Nat) × Table (List Json) := (p.clocks, p.calls)

variable {p q : Proxy} {id : ActorId}

theorem calling?_eq_some {c : Connector} :
    p.calling? id = some c ↔
      ∃ a, p.actor? id = some a ∧ a.running.task = .connecting c ∧ a.hold = .none := by
  cases ha : p.actor? id with
  | none => simp [calling?, ha]
  | some a =>
    simp only [calling?, ha, Option.bind_some, Option.some_inj, exists_eq_left']
    split
    · next task hold => simp [task, hold]
    · next other =>
      constructor
      · nofun
      · rintro ⟨task, hold⟩
        exact absurd hold (other c task)

/-- What is noted is a part of the backdrop. -/
theorem record_of_backdrop (h : q.backdrop = p.backdrop) : q.record = p.record := by
  show q.backdrop.record = p.backdrop.record
  rw [h]

/-! ### Calls -/

theorem clocks_callCluster (p : Proxy) (id : ClusterId) (metadata : Json) :
    (p.callCluster id metadata).2.clocks = p.clocks := by
  have hnote (cluster : Cluster) : (p.noteCall cluster metadata).clocks = p.clocks := by
    cases cluster <;> rfl
  rw [callCluster]
  split
  · rfl
  · dsimp only
    split <;> exact hnote _

/-- A step that is no call leaves alone what is noted. -/
theorem record_stepActor {next : Proxy} (h : p.stepActor id = some next) :
    next.record = p.record ∨
      ∃ c metadata, p.calling? id = some c ∧
        next.record = (p.callCluster c.cluster metadata).2.record := by
  unfold stepActor at h
  obtain ⟨a, ha, h⟩ := Option.bind_eq_some_iff.mp h
  split at h
  · cases h
    exact .inl rfl
  · next c task hold =>
    have hnext : (p.callCluster c.cluster a.session.metadata).2.goOnConnected id a c
        (p.callCluster c.cluster a.session.metadata).1 = next := Option.some.inj h
    rw [← hnext]
    exact .inr ⟨c, a.session.metadata, calling?_eq_some.mpr ⟨a, ha, task, hold⟩,
      record_of_backdrop (by simp)⟩
  · cases h
  · exact .inl (record_of_backdrop (backdrop_stepPiping h))
  · cases h
    exact .inl rfl
  · cases h
    exact .inl rfl
  · cases h
  · cases h
    exact .inl (record_of_backdrop (by simp))
  · cases h
  · cases h
    exact .inl (record_of_backdrop (by simp))
  · cases h
    exact .inl (record_of_backdrop (by simp))
  · cases h

/-! ### Other events -/

theorem record_accept (p : Proxy) (metadata : Json) (ruleList : String) (hook : Option Hook) :
    (p.accept metadata ruleList hook).record = p.record := by
  have hwished : ((p.openStream .fresh).2.wishedName metadata).2.record = p.record := by
    rw [wishedName]
    split <;> rfl
  unfold accept dispatch
  dsimp only
  split
  · next heq =>
    split at heq
    · cases heq
    · cases heq
      exact hwished
  · next heq =>
    split at heq
    · cases heq
      exact hwished
    · cases heq

theorem record_carryOut (p : Proxy) (op : Admin.Operation) :
    (op.carryOut p).2.record = p.record := by
  have hpath (kind : EntityKind) (name path : String) (change : Admin.PathEdit) :
      (Admin.editPath p kind name path change).2.record = p.record := by
    unfold Admin.editPath
    split
    · rfl
    · split
      · rfl
      · exact record_of_backdrop (p.backdrop_editSession name path _)
      · rfl
  cases op with
  | deleteSession name =>
    unfold Admin.Operation.carryOut Admin.deleteSession
    dsimp only
    split
    · rfl
    · exact record_of_backdrop (p.backdrop_destroy name)
  | setPath kind name path value => exact hpath kind name path _
  | deletePath kind name path => exact hpath kind name path _
  | _ => rfl

/-- Whatever happens between the steps of sessions, nothing is noted while no time passes. -/
theorem record_apply (p : Proxy) (e : Event) (step : ∀ id, e ≠ .step id)
    (pass : ∀ duration wallDuration, e ≠ .pass duration wallDuration) :
    (p.apply e).record = p.record := by
  cases e with
  | step id => exact absurd rfl (step id)
  | pass duration wallDuration => exact absurd rfl (pass duration wallDuration)
  | operation op => exact p.record_carryOut op
  | dispatch metadata ruleList hook => exact p.record_accept metadata ruleList hook
  | destroy name => exact record_of_backdrop (p.backdrop_destroy name)
  | shutdown => exact record_of_backdrop p.backdrop_shutdown
  | timer id => exact record_of_backdrop (p.backdrop_endTimer id)
  | answer id answer => exact record_of_backdrop (p.backdrop_answerCall id answer)
  | handOver id reply => exact record_of_backdrop (p.backdrop_answerHook id reply)
  | handIn change => rfl
  | far id action => rfl
  | reconnect network => rfl

/-- The clocks stand still unless time passes. -/
theorem clocks_apply (p : Proxy) (e : Event)
    (pass : ∀ duration wallDuration, e ≠ .pass duration wallDuration) :
    (p.apply e).clocks = p.clocks := by
  by_cases hstep : ∃ id, e = .step id
  · obtain ⟨id, rfl⟩ := hstep
    rw [apply]
    cases hnext : p.stepActor id with
    | none => rfl
    | some next =>
      rcases record_stepActor hnext with hsame | ⟨c, metadata, -, hcalled⟩
      · exact congrArg Prod.fst hsame
      · exact (congrArg Prod.fst hcalled).trans (p.clocks_callCluster c.cluster metadata)
  · exact congrArg Prod.fst (p.record_apply e (not_exists.mp hstep) pass)

/-- No call is noted unless a session calls. -/
theorem calls_apply (p : Proxy) (e : Event) (quiet : ∀ id, e = .step id → p.calling? id = none) :
    (p.apply e).calls = p.calls := by
  by_cases hstep : ∃ id, e = .step id
  · obtain ⟨id, rfl⟩ := hstep
    rw [apply]
    cases hnext : p.stepActor id with
    | none => rfl
    | some next =>
      rcases record_stepActor hnext with hsame | ⟨c, metadata, hcalling, -⟩
      · exact congrArg Prod.snd hsame
      · rw [quiet id rfl] at hcalling
        cases hcalling
  · by_cases hpass : ∃ duration wallDuration, e = .pass duration wallDuration
    · obtain ⟨duration, wallDuration, rfl⟩ := hpass
      rfl
    · exact congrArg Prod.snd (p.record_apply e (not_exists.mp hstep)
        fun duration wallDuration h => hpass ⟨duration, wallDuration, h⟩)

end Proxy

end Switchboard

/-
What happens to the table of live sessions.

Only a few events concern the table: sessions that start, ends from outside, and sessions that leave
by themselves. The lemmas here say so for each of the small functions that events are made of.

* `Proxy.roster`: the table of live sessions, and how many sessions there were;
* `Proxy.concernsTable`: the events that may change it;
* `roster_apply`: all other events leave it alone;
* `exists_leaving`: the one step of a session that is not among these;
* `accept_cases`: what a connection that arrives does to it.
-/
import Switchboard.Proofs.Proxy.Teardown

namespace Switchboard

namespace Proxy

variable (p : Proxy)

/-- The table of live sessions, and how many sessions there were. -/
def roster (p : Proxy) : Table ActorId × Nat := (p.live, p.actors.size)

@[simp] theorem roster_openStream (s : Duplex) : (p.openStream s).2.roster = p.roster := rfl

@[simp] theorem roster_changeStream (id : StreamId) (f : Duplex → Duplex) :
    (p.changeStream id f).roster = p.roster := rfl

@[simp] theorem roster_dropStream (id : Option StreamId) :
    (p.dropStream id).roster = p.roster := by
  cases id <;> rfl

@[simp] theorem roster_changeActor (id : ActorId) (f : Actor → Actor) :
    (p.changeActor id f).roster = p.roster := by
  simp [roster, changeActor]

@[simp] theorem roster_setActor (id : ActorId) (a : Actor) :
    (p.setActor id a).roster = p.roster :=
  p.roster_changeActor id _

@[simp] theorem roster_setTimer (id : ActorId) (delay : Nat) :
    (p.setTimer id delay).roster = p.roster := by
  simp [roster, setTimer, changeActor]

@[simp] theorem roster_dropStreams (id : ActorId) : (p.dropStreams id).roster = p.roster := by
  rw [dropStreams]
  split <;> simp

@[simp] theorem roster_abort (id : ActorId) : (p.abort id).roster = p.roster := by
  simp [abort]

@[simp] theorem roster_noteCall (cluster : Cluster) (metadata : Json) :
    (p.noteCall cluster metadata).roster = p.roster := by
  cases cluster <;> rfl

@[simp] theorem roster_callCluster (id : ClusterId) (metadata : Json) :
    (p.callCluster id metadata).2.roster = p.roster := by
  rw [callCluster]
  split
  · rfl
  · -- whichever stream is opened, it is not a session
    dsimp only
    split <;> exact p.roster_noteCall _ metadata

@[simp] theorem roster_goOnConnected (id : ActorId) (a : Actor) (c : Connector)
    (answer : Option (Except String StreamId)) :
    (p.goOnConnected id a c answer).roster = p.roster := by
  rcases answer with _ | _ | _ <;> simp [goOnConnected]

@[simp] theorem roster_goOnPiped (id : ActorId) (a : Actor) (c : Connector) (since : Nat)
    (e : Pipe.End) : (p.goOnPiped id a c since e).roster = p.roster := by
  simp [goOnPiped]

@[simp] theorem roster_goOnReacquired (id : ActorId) (a : Actor) (c : Connector)
    (reply : Reply) : (p.goOnReacquired id a c reply).roster = p.roster := by
  cases reply <;> simp [goOnReacquired]

theorem roster_stepPiping {p next : Proxy} {id : ActorId} {a : Actor} {c : Connector}
    {since : Nat} (h : p.stepPiping id a c since = some next) : next.roster = p.roster := by
  unfold stepPiping at h
  split at h
  · split at h
    · dsimp only at h
      split at h
      · cases h
        split <;> simp
      · cases h
        simp
      · obtain ⟨d, -, rfl⟩ := Option.map_eq_some_iff.mp h
        rfl
    · cases h
  · cases h

/-- A step of a session that does not leave the table. -/
theorem roster_stepActor {p next : Proxy} {id : ActorId} {a : Actor}
    (h : p.stepActor id = some next) (ha : p.actor? id = some a)
    (stays : a.running.task ≠ .leaving) : next.roster = p.roster := by
  obtain ⟨b, hb, hstep⟩ := stepActor_inv h
  rw [ha, Option.some_inj] at hb
  subst hb
  cases hstep with
  | begin task => exact roster_setActor _ id _
  | call c task => simp
  | pipe c since task _ piped => exact roster_stepPiping piped
  | wake c delay again task => exact roster_setActor _ id _
  | wait delay => exact roster_setTimer p id delay
  | callHook c task reply hook => simp
  | finish outcome task => simp
  | leave task => exact absurd task stays

theorem roster_wake (id : ActorId) : (p.wake id).roster = p.roster := by
  unfold wake
  split
  · rfl
  · split <;> simp

theorem roster_endTimer (id : ActorId) : (p.endTimer id).roster = p.roster := by
  unfold endTimer
  split
  · split
    · exact p.roster_wake id
    · rfl
  · rfl

theorem roster_answerCall (id : ActorId) (answer : Except String Duplex) :
    (p.answerCall id answer).roster = p.roster := by
  unfold answerCall
  split
  · rfl
  · split
    · split <;> simp
    · rfl

theorem roster_answerHook (id : ActorId) (reply : Reply) :
    (p.answerHook id reply).roster = p.roster := by
  unfold answerHook
  split
  · rfl
  · split <;> simp

theorem roster_editPath (kind : EntityKind) (name path : String) (change : Admin.PathEdit) :
    (Admin.editPath p kind name path change).2.roster = p.roster := by
  have hmetadata (id : ActorId) (metadata : Json) :
      (p.setMetadata id metadata).roster = p.roster :=
    p.roster_changeActor id _
  unfold Admin.editPath
  split
  · rfl
  · split
    · rfl
    · unfold Admin.editSession
      split
      · rfl
      · split
        · rfl
        · split
          · rfl
          · exact hmetadata _ _
    · rfl

/-! ### Events -/

/-- Whether an event may change the table of live sessions. -/
def concernsTable (p : Proxy) : Event → Bool
  | .dispatch _ _ _ => true
  | e => p.isEnding e

theorem roster_apply {p : Proxy} {e : Event} (h : p.concernsTable e = false) :
    (p.apply e).roster = p.roster := by
  cases e with
  | dispatch metadata ruleList hook => cases h
  | destroy name => cases h
  | shutdown => cases h
  | operation op =>
    cases op with
    | deleteSession name => cases h
    | setPath kind name path value => exact p.roster_editPath kind name path _
    | deletePath kind name path => exact p.roster_editPath kind name path _
    | _ => rfl
  | step id =>
    rw [apply]
    cases hstep : p.stepActor id with
    | none => rfl
    | some next =>
      obtain ⟨a, ha, -⟩ := stepActor_inv hstep
      refine roster_stepActor hstep ha fun htask => ?_
      simp [concernsTable, isEnding, ha, htask] at h
  | timer id => exact p.roster_endTimer id
  | answer id answer => exact p.roster_answerCall id answer
  | handOver id reply => exact p.roster_answerHook id reply
  | _ => rfl

/-- A step that concerns the table is the last one of a session. -/
theorem exists_leaving {p : Proxy} {id : ActorId} (h : p.concernsTable (.step id) = true) :
    ∃ a, p.actor? id = some a ∧ a.running.task = .leaving ∧
      p.apply (.step id) = (p.leave id).changeActor id fun a => a.become ⟨a.session, .gone⟩ := by
  cases ha : p.actor? id with
  | none => simp [concernsTable, isEnding, ha] at h
  | some a =>
    have htask : a.running.task = .leaving := by simpa [concernsTable, isEnding, ha] using h
    exact ⟨a, rfl, htask, by simp [apply, stepActor, ha, htask]⟩

/-- What is deleted is a live session, or nothing is. -/
theorem deleteSession_cases (p : Proxy) (name : String) :
    (Admin.deleteSession p name).2 = p ∨ (Admin.deleteSession p name).2 = (p.destroy name).2 := by
  unfold Admin.deleteSession
  split
  · exact .inl rfl
  · exact .inr rfl

/-- The session that starts when a connection arrives, if its name is not exhausted. -/
def started? (p : Proxy) : Event → Option ActorId
  | .dispatch metadata ruleList hook =>
    let (source, p) := p.openStream .fresh
    (p.dispatch metadata ruleList source hook).1.toOption
  | _ => none

/-- A connection that arrives gets a name that is free, or nothing happens to the sessions. -/
theorem accept_cases (metadata : Json) (ruleList : String) (hook : Option Hook) :
    (∃ name metadata' b, Table.find? p.live name = none ∧
      p.started? (.dispatch metadata ruleList hook) = some p.actors.size ∧
      (p.accept metadata ruleList hook).live = Table.insert p.live name p.actors.size ∧
      (p.accept metadata ruleList hook).actors = p.actors.push b ∧
      b.running = .ofSession
        (.create ⟨BitVec.ofNat 128 p.actors.size⟩ name ruleList metadata')) ∨
    (p.started? (.dispatch metadata ruleList hook) = none ∧
      (p.accept metadata ruleList hook).roster = p.roster) := by
  have hwished : ((p.openStream .fresh).2.wishedName metadata).2.roster = p.roster := by
    rw [wishedName]
    split <;> rfl
  have hlive : ((p.openStream .fresh).2.wishedName metadata).2.live = p.live :=
    congrArg Prod.fst hwished
  have hactors : ((p.openStream .fresh).2.wishedName metadata).2.actors = p.actors := by simp
  unfold accept started? dispatch
  dsimp only
  rw [hlive, hactors]
  split
  · refine .inr ⟨rfl, ?_⟩
    dsimp only
    rw [roster_dropStream, hwished]
  · next name hname =>
    have hfree : Table.find? p.live name = none := by
      have hnot := List.find?_some hname
      simpa [Table.has] using hnot
    exact .inl ⟨name, _, _, hfree, rfl, rfl, rfl, rfl⟩

end Proxy

end Switchboard

/-
Runs of a proxy.

A run is a list of events in any order: administrative operations, sessions that start and are ended
from outside, single steps of the sessions' tasks, timers that end, answers that come late, and what
is done at the far ends of streams. Nothing is said about when which event happens, so every
interleaving is a run.

* `Admin.Operation.carryOut`: the administrative operations that change something;
* `Proxy.apply`, `Proxy.run`: one event, and a list of them;
* `run_invariant`: what every event keeps, every run keeps;
* `settle_eq_run`: letting sessions run until all of them wait is a run.
-/
import Switchboard.Admin.Paths
import Switchboard.Proxy.Run

namespace Switchboard

/-! ### Administrative operations -/

/-- The administrative operations that change something. -/
inductive Admin.Operation
  | addRule (v : Json)
  | updateRule (name : String) (v : Json)
  | deleteRule (name : String)
  | addRuleList (v : Json)
  | updateRuleList (name : String) (v : Json)
  | deleteRuleList (name : String)
  | insertEntry (list : String) (position : Nat) (v : Json)
  | deleteEntry (list : String) (position : Nat)
  | addRoute (v : Json)
  | updateRoute (name : String) (v : Json)
  | deleteRoute (name : String)
  | addCluster (v : Json)
  | deleteCluster (name : String)
  | addStage (stage : Stage)
  | deleteStage (name : String)
  | deleteSession (name : String)
  | setPath (kind : EntityKind) (name path : String) (value : Json)
  | deletePath (kind : EntityKind) (name path : String)

/-- Carries out an operation. Those on stages have nothing to show. -/
def Admin.Operation.carryOut (p : Proxy) : Admin.Operation → Except Admin.Fault Json × Proxy
  | addRule v => p.update (Admin.addRule p.strict v)
  | updateRule name v => p.update (Admin.updateRule p.strict name v)
  | deleteRule name => p.update (Admin.deleteRule name)
  | addRuleList v => p.update (Admin.addRuleList p.strict v)
  | updateRuleList name v => p.update (Admin.updateRuleList p.strict name v)
  | deleteRuleList name => p.update (Admin.deleteRuleList name)
  | insertEntry list position v => p.update (Admin.insertEntry p.strict list position v)
  | deleteEntry list position => p.update (Admin.deleteEntry list position)
  | addRoute v => p.update (Admin.addRoute p.strict v)
  | updateRoute name v => p.update (Admin.updateRoute p.strict name v)
  | deleteRoute name => p.update (Admin.deleteRoute name)
  | addCluster v => p.update (Admin.addCluster p.wallTime v)
  | deleteCluster name => p.update (Admin.deleteCluster p.wallTime name)
  | addStage stage =>
    let (answer, p) := p.update (Admin.addStage stage)
    (answer.map fun _ => .null, p)
  | deleteStage name =>
    let (answer, p) := p.update (Admin.deleteStage name)
    (answer.map fun _ => .null, p)
  | deleteSession name => Admin.deleteSession p name
  | setPath kind name path value => Admin.setPath p kind name path value
  | deletePath kind name path => Admin.deletePath p kind name path

/-! ### Events -/

/-- What is done at the far end of a stream. -/
inductive FarAction
  | send (bytes : List UInt8)
  | receive
  | shutdown
  | drop
  | failReads (reason : String)
  | failWrites (reason : String)

/-- The stream after it. Bytes that cannot be sent are lost. -/
def FarAction.act : FarAction → Duplex → Duplex
  | send bytes, s =>
    match s.send bytes with
    | .ok s => s
    | .error _ => s
  | receive, s => s.receive.2
  | shutdown, s => s.shutdownFar
  | drop, s => s.dropFar
  | failReads reason, s => { s with readFault := some reason }
  | failWrites reason, s => { s with writeFault := some reason }

/-- What can happen to a proxy. -/
inductive Event
  | operation (op : Admin.Operation)
  /-- Somebody changes what is registered without the checks of the administration. -/
  | handIn (change : Registry → Registry)
  /-- A connection arrives and becomes a session. -/
  | dispatch (metadata : Json) (ruleList : String) (hook : Option Hook)
  | destroy (name : String)
  | shutdown
  /-- A session takes its next step, if it need not wait. -/
  | step (id : ActorId)
  /-- The timer of a session ends, if its time has come. -/
  | timer (id : ActorId)
  /-- A cluster answers a call that it had left open. -/
  | answer (id : ActorId) (answer : Except String Duplex)
  /-- A hook answers a call that it had left open. -/
  | handOver (id : ActorId) (reply : Reply)
  | far (id : StreamId) (action : FarAction)
  | reconnect (network : Network)
  /-- Time passes on both clocks. -/
  | pass (duration wallDuration : Nat)

/-- Whether what is registered changes by checked operations only. -/
def Event.isChecked : Event → Bool
  | handIn _ => false
  | _ => true

namespace Proxy

/-- The end of a session's timer. -/
def endTimer (p : Proxy) (id : ActorId) : Proxy :=
  match (p.actor? id).map Actor.hold with
  | some (.timer deadline _) => if deadline ≤ p.now then p.wake id else p
  | _ => p

/-- A late answer of a cluster. -/
def answerCall (p : Proxy) (id : ActorId) (answer : Except String Duplex) : Proxy :=
  match p.actor? id with
  | none => p
  | some a =>
    match a.running.task, a.hold with
    | .connecting c, .forever =>
      match answer with
      | .error reason => p.goOnConnected id a c (some (.error reason))
      | .ok s =>
        let (stream, p) := p.openStream s
        p.goOnConnected id a c (some (.ok stream))
    | _, _ => p

/-- A late answer of a hook. -/
def answerHook (p : Proxy) (id : ActorId) (reply : Reply) : Proxy :=
  match p.actor? id with
  | none => p
  | some a =>
    match a.running.task, a.hold with
    | .reacquiring c, .forever => p.goOnReacquired id a c reply
    | _, _ => p

/-- A connection becomes a session, unless no name is left for it. -/
def accept (p : Proxy) (metadata : Json) (ruleList : String) (hook : Option Hook) : Proxy :=
  let (source, p) := p.openStream .fresh
  match p.dispatch metadata ruleList source hook with
  | (.ok _, p) => p
  | (.error _, p) => p.dropStream (some source)

/-- The proxy after an event. -/
def apply (p : Proxy) : Event → Proxy
  | .operation op => (op.carryOut p).2
  | .handIn change => { p with registry := change p.registry }
  | .dispatch metadata ruleList hook => p.accept metadata ruleList hook
  | .destroy name => (p.destroy name).2
  | .shutdown => p.shutdown
  | .step id => (p.stepActor id).getD p
  | .timer id => p.endTimer id
  | .answer id answer => p.answerCall id answer
  | .handOver id reply => p.answerHook id reply
  | .far id action => p.changeStream id action.act
  | .reconnect network => { p with network }
  | .pass duration wallDuration =>
    { p with now := p.now + duration, wallTime := p.wallTime + wallDuration }

/-- The proxy after a list of events. -/
def run (events : List Event) (p : Proxy) : Proxy := events.foldl apply p

theorem run_cons (e : Event) (events : List Event) (p : Proxy) :
    run (e :: events) p = run events (p.apply e) := rfl

theorem run_append (events later : List Event) (p : Proxy) :
    run (events ++ later) p = run later (run events p) := List.foldl_append

/-- What every event keeps, every run keeps. `allowed` says which events there may be. -/
theorem run_invariant (allowed : Event → Prop) (inv : Proxy → Prop)
    (keep : ∀ p e, allowed e → inv p → inv (p.apply e)) {events : List Event}
    (h : ∀ e ∈ events, allowed e) {p : Proxy} (hp : inv p) : inv (run events p) := by
  -- on the events from the first on, since `run` applies them in this order
  induction events generalizing p with
  | nil => exact hp
  | cons e rest ih =>
    rw [run_cons]
    exact ih (fun e he => h e (List.mem_cons_of_mem _ he)) (keep p e (h e List.mem_cons_self) hp)

/-- Sessions that run until all of them wait take one step after the other. -/
theorem settleWith_eq_run (fuel : Nat) (p : Proxy) :
    ∃ ids : List ActorId, settleWith fuel p = run (ids.map .step) p := by
  induction fuel generalizing p with
  | zero => exact ⟨[], rfl⟩
  | succ fuel ih =>
    rw [settleWith]
    split
    · exact ⟨[], rfl⟩
    · next next hstep =>
      -- the first session that need not wait has taken the step
      obtain ⟨id, -, hid⟩ := List.exists_of_findSome?_eq_some hstep
      obtain ⟨ids, hids⟩ := ih next
      refine ⟨id :: ids, ?_⟩
      rw [List.map_cons, run_cons, apply, hid, hids]
      rfl

theorem settle_eq_run (p : Proxy) : ∃ ids : List ActorId, p.settle = run (ids.map .step) p :=
  settleWith_eq_run p.stepBound p

end Proxy

end Switchboard

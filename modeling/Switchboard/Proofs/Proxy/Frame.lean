/-
What the steps of a proxy leave alone.

Most steps change one session, some streams, and nothing else. The lemmas here say so for each of
the small functions that steps are made of, so that nobody has to open them again.

* `backdrop_*`: everything but sessions and streams is left alone;
* `setting_*`: so is what is registered, and how strictly it is checked;
* `actors_*`: the sessions are left alone;
* `actor?_of_push`: a session is added;
* `callCluster_registry`: a call changes the state of its cluster, but not the cluster's name;
* `stepActor_inv`: the steps that a session may take.
-/
import Switchboard.Proofs.Proxy.Event

namespace Switchboard

namespace Proxy

variable (p : Proxy)

/-- All of a proxy but its sessions, their streams and their tickets: what is registered, the network,
the calls that were noted, and the clocks. -/
def backdrop (p : Proxy) : Proxy :=
  { p with streams := #[], actors := #[], live := [], nextTicket := 0 }

/-! ### The backdrop -/

@[simp] theorem backdrop_openStream (s : Duplex) : (p.openStream s).2.backdrop = p.backdrop := rfl

@[simp] theorem backdrop_changeStream (id : StreamId) (f : Duplex → Duplex) :
    (p.changeStream id f).backdrop = p.backdrop := rfl

@[simp] theorem backdrop_dropStream (id : Option StreamId) :
    (p.dropStream id).backdrop = p.backdrop := by
  cases id <;> rfl

@[simp] theorem backdrop_changeActor (id : ActorId) (f : Actor → Actor) :
    (p.changeActor id f).backdrop = p.backdrop := rfl

@[simp] theorem backdrop_setActor (id : ActorId) (a : Actor) :
    (p.setActor id a).backdrop = p.backdrop := rfl

@[simp] theorem backdrop_setTimer (id : ActorId) (delay : Nat) :
    (p.setTimer id delay).backdrop = p.backdrop := rfl

@[simp] theorem backdrop_dropStreams (id : ActorId) :
    (p.dropStreams id).backdrop = p.backdrop := by
  rw [dropStreams]
  split <;> simp

@[simp] theorem backdrop_leave (id : ActorId) : (p.leave id).backdrop = p.backdrop := by
  rw [leave]
  split
  · rfl
  · split
    · split <;> rfl
    · rfl

@[simp] theorem backdrop_abort (id : ActorId) : (p.abort id).backdrop = p.backdrop := by
  simp [abort]

@[simp] theorem backdrop_destroy (name : String) : (p.destroy name).2.backdrop = p.backdrop := by
  rw [destroy]
  split <;> simp

@[simp] theorem backdrop_shutdown : p.shutdown.backdrop = p.backdrop := by
  rw [shutdown]
  -- the table shrinks on the way, but it is the first one that is gone through
  generalize p.live = entries
  induction entries generalizing p with
  | nil => rfl
  | cons e rest ih => rw [List.foldl_cons, ih]; simp

@[simp] theorem backdrop_goOnConnected (id : ActorId) (a : Actor) (c : Connector)
    (answer : Option (Except String StreamId)) :
    (p.goOnConnected id a c answer).backdrop = p.backdrop := by
  rcases answer with _ | _ | _ <;> rfl

@[simp] theorem backdrop_goOnPiped (id : ActorId) (a : Actor) (c : Connector) (since : Nat)
    (e : Pipe.End) : (p.goOnPiped id a c since e).backdrop = p.backdrop := by
  simp [goOnPiped]

@[simp] theorem backdrop_goOnReacquired (id : ActorId) (a : Actor) (c : Connector)
    (reply : Reply) : (p.goOnReacquired id a c reply).backdrop = p.backdrop := by
  cases reply <;> simp [goOnReacquired]

theorem backdrop_stepPiping {p next : Proxy} {id : ActorId} {a : Actor} {c : Connector}
    {since : Nat} (h : p.stepPiping id a c since = some next) : next.backdrop = p.backdrop := by
  unfold stepPiping at h
  split at h
  · split at h
    · dsimp only at h
      split at h
      · cases h
        split <;> simp
      · cases h
        simp
      · obtain ⟨d, -, rfl⟩ := Option.map_eq_some_iff.mp h
        rfl
    · cases h
  · cases h

theorem backdrop_wake (id : ActorId) : (p.wake id).backdrop = p.backdrop := by
  unfold wake
  split
  · rfl
  · split
    · rfl
    · simp
    · rfl

theorem backdrop_endTimer (id : ActorId) : (p.endTimer id).backdrop = p.backdrop := by
  unfold endTimer
  split
  · split
    · exact p.backdrop_wake id
    · rfl
  · rfl

theorem backdrop_answerCall (id : ActorId) (answer : Except String Duplex) :
    (p.answerCall id answer).backdrop = p.backdrop := by
  unfold answerCall
  split
  · rfl
  · split
    · split <;> simp
    · rfl

theorem backdrop_answerHook (id : ActorId) (reply : Reply) :
    (p.answerHook id reply).backdrop = p.backdrop := by
  unfold answerHook
  split
  · rfl
  · split <;> simp

theorem backdrop_editSession (name path : String) (change : Admin.PathEdit) :
    (Admin.editSession p name path change).2.backdrop = p.backdrop := by
  unfold Admin.editSession
  split
  · rfl
  · split
    · rfl
    · split <;> rfl

/-! ### The setting -/

/-- What is registered, and how strictly it is checked. -/
def setting (p : Proxy) : Registry × Bool := (p.registry, p.strict)

/-- The setting is a part of the backdrop. -/
theorem setting_of_backdrop {p q : Proxy} (h : q.backdrop = p.backdrop) :
    q.setting = p.setting := by
  show q.backdrop.setting = p.backdrop.setting
  rw [h]

@[simp] theorem setting_openStream (s : Duplex) : (p.openStream s).2.setting = p.setting := rfl

@[simp] theorem setting_changeStream (id : StreamId) (f : Duplex → Duplex) :
    (p.changeStream id f).setting = p.setting := rfl

@[simp] theorem setting_dropStream (id : Option StreamId) :
    (p.dropStream id).setting = p.setting :=
  setting_of_backdrop (p.backdrop_dropStream id)

@[simp] theorem setting_changeActor (id : ActorId) (f : Actor → Actor) :
    (p.changeActor id f).setting = p.setting := rfl

@[simp] theorem setting_setActor (id : ActorId) (a : Actor) :
    (p.setActor id a).setting = p.setting := rfl

@[simp] theorem setting_setTimer (id : ActorId) (delay : Nat) :
    (p.setTimer id delay).setting = p.setting := rfl

@[simp] theorem setting_dropStreams (id : ActorId) :
    (p.dropStreams id).setting = p.setting :=
  setting_of_backdrop (p.backdrop_dropStreams id)

@[simp] theorem setting_leave (id : ActorId) : (p.leave id).setting = p.setting :=
  setting_of_backdrop (p.backdrop_leave id)

@[simp] theorem setting_abort (id : ActorId) : (p.abort id).setting = p.setting :=
  setting_of_backdrop (p.backdrop_abort id)

@[simp] theorem setting_destroy (name : String) : (p.destroy name).2.setting = p.setting :=
  setting_of_backdrop (p.backdrop_destroy name)

@[simp] theorem setting_shutdown : p.shutdown.setting = p.setting :=
  setting_of_backdrop p.backdrop_shutdown

@[simp] theorem setting_goOnConnected (id : ActorId) (a : Actor) (c : Connector)
    (answer : Option (Except String StreamId)) :
    (p.goOnConnected id a c answer).setting = p.setting :=
  setting_of_backdrop (p.backdrop_goOnConnected id a c answer)

@[simp] theorem setting_goOnPiped (id : ActorId) (a : Actor) (c : Connector) (since : Nat)
    (e : Pipe.End) : (p.goOnPiped id a c since e).setting = p.setting :=
  setting_of_backdrop (p.backdrop_goOnPiped id a c since e)

@[simp] theorem setting_goOnReacquired (id : ActorId) (a : Actor) (c : Connector)
    (reply : Reply) : (p.goOnReacquired id a c reply).setting = p.setting :=
  setting_of_backdrop (p.backdrop_goOnReacquired id a c reply)

theorem setting_stepPiping {p next : Proxy} {id : ActorId} {a : Actor} {c : Connector}
    {since : Nat} (h : p.stepPiping id a c since = some next) : next.setting = p.setting :=
  setting_of_backdrop (backdrop_stepPiping h)

theorem setting_endTimer (id : ActorId) : (p.endTimer id).setting = p.setting :=
  setting_of_backdrop (p.backdrop_endTimer id)

theorem setting_answerCall (id : ActorId) (answer : Except String Duplex) :
    (p.answerCall id answer).setting = p.setting :=
  setting_of_backdrop (p.backdrop_answerCall id answer)

theorem setting_answerHook (id : ActorId) (reply : Reply) :
    (p.answerHook id reply).setting = p.setting :=
  setting_of_backdrop (p.backdrop_answerHook id reply)

theorem setting_editSession (name path : String) (change : Admin.PathEdit) :
    (Admin.editSession p name path change).2.setting = p.setting :=
  setting_of_backdrop (p.backdrop_editSession name path change)

/-! ### The sessions -/

@[simp] theorem actors_openStream (s : Duplex) : (p.openStream s).2.actors = p.actors := rfl

@[simp] theorem actors_changeStream (id : StreamId) (f : Duplex → Duplex) :
    (p.changeStream id f).actors = p.actors := rfl

@[simp] theorem actors_dropStream (id : Option StreamId) :
    (p.dropStream id).actors = p.actors := by
  cases id <;> rfl

@[simp] theorem actors_leave (id : ActorId) : (p.leave id).actors = p.actors := by
  rw [leave]
  split
  · rfl
  · split
    · split <;> rfl
    · rfl

@[simp] theorem actors_noteCall (cluster : Cluster) (metadata : Json) :
    (p.noteCall cluster metadata).actors = p.actors := by
  cases cluster <;> rfl

@[simp] theorem actors_addPeer (cluster : String) : (p.addPeer cluster).2.actors = p.actors := rfl

@[simp] theorem actors_callCluster (id : ClusterId) (metadata : Json) :
    (p.callCluster id metadata).2.actors = p.actors := by
  rw [callCluster]
  split
  · rfl
  · dsimp only
    split <;> simp

@[simp] theorem actors_wishedName (metadata : Json) :
    (p.wishedName metadata).2.actors = p.actors := by
  rw [wishedName]
  split <;> rfl

theorem streams_wishedName (metadata : Json) :
    (p.wishedName metadata).2.streams = p.streams := by
  rw [wishedName]
  split <;> rfl

theorem live_wishedName (metadata : Json) : (p.wishedName metadata).2.live = p.live := by
  rw [wishedName]
  split <;> rfl

theorem ne_size_of_actor? {p : Proxy} {id : ActorId} {a : Actor} (h : p.actor? id = some a) :
    id ≠ p.actors.size := by
  rintro rfl
  rw [actor?, Array.getElem?_size] at h
  cases h

/-- A session that is added comes after those that there are. -/
theorem actor?_of_push {p q : Proxy} {b : Actor} (h : q.actors = p.actors.push b) (j : ActorId) :
    q.actor? j = if j = p.actors.size then some b else p.actor? j := by
  rw [actor?, h, Array.getElem?_push]
  rfl

/-! ### Calls into clusters -/

theorem connect_name (dial : String → Except IoFault String) (now : Nat) (c : Cluster) :
    (c.connect dial now).2.name = c.name := by
  cases c with
  | tcp d es =>
    simp only [Cluster.connect]
    split <;> rfl
  | echo d => rfl
  | scripted s =>
    simp only [Cluster.connect]
    split <;> rfl
  | refusing name => rfl

@[simp] theorem registry_noteCall (cluster : Cluster) (metadata : Json) :
    (p.noteCall cluster metadata).registry = p.registry := by
  cases cluster <;> rfl

/-- A call changes the state of the cluster that is called. -/
theorem callCluster_registry (id : ClusterId) (metadata : Json) :
    (p.callCluster id metadata).2.registry = p.registry ∨
      ∃ cluster after, p.registry.clusters.get? id = some cluster ∧ after.name = cluster.name ∧
        (p.callCluster id metadata).2.registry =
          p.registry.setClusters (p.registry.clusters.set id after) := by
  rw [callCluster]
  split
  · exact .inl rfl
  · next cluster hcluster =>
    dsimp only
    generalize hafter : (cluster.connect (p.noteCall cluster metadata).network.dial
      (p.noteCall cluster metadata).wallTime) = answer
    refine .inr ⟨cluster, answer.2, hcluster, hafter ▸ connect_name _ _ _, ?_⟩
    -- whichever stream is opened, it is no part of what is registered
    split <;> simp [addPeer, openStream]

@[simp] theorem strict_callCluster (id : ClusterId) (metadata : Json) :
    (p.callCluster id metadata).2.strict = p.strict := by
  have hnote (cluster : Cluster) : (p.noteCall cluster metadata).strict = p.strict := by
    cases cluster <;> rfl
  rw [callCluster]
  split
  · rfl
  · dsimp only
    split <;> simp [addPeer, openStream, hnote]

/-! ### Steps -/

/-- The steps that the session `a` with the number `id` may take, by its task. -/
inductive StepOf (p : Proxy) (id : ActorId) (a : Actor) : Proxy → Prop
  | begin (task : a.running.task = .starting) :
      StepOf p id a <|
        { p with registry := (Binding.find p.registry a.session.ruleList a.session.metadata).2
          }.setActor id <| a.become <| .begin a.session a.hook.isSome
            (Binding.find p.registry a.session.ruleList a.session.metadata).1
  | call (c : Connector) (task : a.running.task = .connecting c) :
      StepOf p id a <|
        (p.callCluster c.cluster a.session.metadata).2.goOnConnected id a c
          (p.callCluster c.cluster a.session.metadata).1
  | pipe (c : Connector) (since : Nat) (task : a.running.task = .piping c since) (next : Proxy)
      (piped : p.stepPiping id a c since = some next) : StepOf p id a next
  | wake (c : Connector) (delay : Nat) (next : Next)
      (task : a.running.task = .waiting c delay next) :
      StepOf p id a (p.setActor id (a.become (.woken a.session c next)))
  | wait (delay : Nat) : StepOf p id a (p.setTimer id delay)
  | callHook (c : Connector) (task : a.running.task = .reacquiring c) (reply : Reply)
      (hook : Hook) : StepOf p id a (p.goOnReacquired id { a with hook := some hook } c reply)
  | finish (outcome : Outcome) (task : a.running.task = .ended outcome) :
      StepOf p id a <| (p.dropStreams id).changeActor id fun a =>
        a.become (.finish a.session outcome)
  | leave (task : a.running.task = .leaving) :
      StepOf p id a <| (p.leave id).changeActor id fun a => a.become ⟨a.session, .gone⟩

theorem stepActor_inv {p next : Proxy} {id : ActorId} (h : p.stepActor id = some next) :
    ∃ a, p.actor? id = some a ∧ p.StepOf id a next := by
  unfold stepActor at h
  obtain ⟨a, ha, h⟩ := Option.bind_eq_some_iff.mp h
  refine ⟨a, ha, ?_⟩
  -- a task that waits for a cluster, a timer or a hook has no step to take
  split at h
  · next _ htask => exact Option.some.inj h ▸ .begin htask
  · next c htask _ => exact Option.some.inj h ▸ .call c htask
  · cases h
  · next _ c since htask => exact .pipe c since htask next h
  · next c next htask _ => exact Option.some.inj h ▸ .wake c 0 next htask
  · next delay _ _ _ _ => exact Option.some.inj h ▸ .wait delay
  · cases h
  · next c htask _ => exact Option.some.inj h ▸ .callHook c htask _ _
  · cases h
  · next _ outcome htask => exact Option.some.inj h ▸ .finish outcome htask
  · next _ htask => exact Option.some.inj h ▸ .leave htask
  · cases h

end Proxy

end Switchboard

/-
Ends from outside, one step at a time.

Who destroys a session terminates it, has its task broken off, and takes it out of the table of live
sessions. Other things may happen between these steps: the task may take note of its termination and
leave the table by itself, or take a few steps more before it does; a new session may take the name;
and the task may be broken off long after it is out of the table. A run here is a list of such steps
and of events, so an event that ends sessions at once is only one of the ways to end them.

* `Scene`: a proxy, the sessions that have to be taken out of the table, and those that may be
  broken off;
* `Scene.Act`, `Scene.apply`, `Scene.run`: single steps, and lists of them;
* `Scene.isQuiet`: everything that could run has run;
* `apply_turns`: in each step the sessions go on in the ways that there are;
* `apply_turns_of_quiet`: most steps leave all bytes under way;
* `run_destroy`: the three steps in a row are what destroying a session is.
-/
import Switchboard.Proofs.Proxy.Turn

namespace Switchboard

/-- Whether a task has come to its end, apart from what is left to tidy up. -/
def Task.isOver : Task → Bool
  | .ended _ | .leaving | .gone => true
  | _ => false

namespace Proxy

/-- Terminates a session from outside. Its task goes on. -/
def condemn (p : Proxy) (id : ActorId) : Proxy :=
  p.changeActor id fun a =>
    { a with running := ⟨a.session.terminate .destroyed, a.running.task⟩ }

/-- Whether the task of a session has to take note that the session is terminated. -/
def mustNotice (a : Actor) : Bool := a.session.isTerminated && !a.running.task.isOver

/-- The task of a session takes note that the session is terminated, whatever it waits for. -/
def notice (p : Proxy) (id : ActorId) : Proxy :=
  p.changeActor id fun a =>
    if mustNotice a then a.become ⟨a.session, .ended .destroyed⟩ else a

end Proxy

/-- A proxy in the midst of ends from outside. -/
structure Scene where
  proxy : Proxy
  /-- The sessions that those who terminated them have still to take out of the table. -/
  owed : List ActorId
  /-- All sessions that were terminated from outside. Their tasks may be broken off. -/
  condemned : List ActorId

namespace Scene

/-- A proxy that nobody is ending sessions of. -/
def ofProxy (p : Proxy) : Scene := ⟨p, [], []⟩

/-- A single step. -/
inductive Act
  | event (e : Event)
  /-- Somebody terminates a session, and will take it out of the table. -/
  | condemn (id : ActorId)
  /-- The task of a session that was terminated from outside is broken off. -/
  | breakOff (id : ActorId)
  /-- The task of a terminated session takes note of that. -/
  | notice (id : ActorId)
  /-- Somebody who has terminated a session takes it out of the table. -/
  | remove (id : ActorId)

def apply (s : Scene) : Act → Scene
  | .event e => { s with proxy := s.proxy.apply e }
  | .condemn id =>
    if (s.proxy.actor? id).isSome then
      ⟨s.proxy.condemn id, id :: s.owed, id :: s.condemned⟩
    else s
  | .breakOff id => if id ∈ s.condemned then { s with proxy := s.proxy.abort id } else s
  | .notice id => { s with proxy := s.proxy.notice id }
  | .remove id =>
    if id ∈ s.owed then { s with proxy := s.proxy.leave id, owed := s.owed.erase id } else s

def run (acts : List Act) (s : Scene) : Scene := acts.foldl apply s

/-- Whether everything that could run has run: no session can take a step, no task has to take note
of an end, and nobody has a session left to take out of the table. -/
def isQuiet (s : Scene) : Bool :=
  s.owed.isEmpty && s.proxy.step.isNone && !s.proxy.actors.any Proxy.mustNotice

theorem run_cons (x : Act) (acts : List Act) (s : Scene) :
    run (x :: acts) s = run acts (s.apply x) := rfl

/-- Runs of a proxy are runs here. -/
theorem run_events (events : List Event) (s : Scene) :
    run (events.map .event) s = { s with proxy := Proxy.run events s.proxy } := by
  induction events generalizing s with
  | nil => rfl
  | cons e rest ih =>
    rw [List.map_cons, run_cons, ih]
    rfl

section Quiet

variable {s : Scene} {id : ActorId} {a : Actor}

theorem owed_of_isQuiet (quiet : s.isQuiet = true) : s.owed = [] := by
  simp only [isQuiet, Bool.and_eq_true] at quiet
  exact List.isEmpty_iff.mp quiet.1.1

theorem stepActor_of_isQuiet (quiet : s.isQuiet = true) (ha : s.proxy.actor? id = some a) :
    s.proxy.stepActor id = none := by
  simp only [isQuiet, Bool.and_eq_true] at quiet
  have hstep := Option.isNone_iff_eq_none.mp quiet.1.2
  refine List.findSome?_eq_none_iff.mp hstep id (List.mem_range.mpr ?_)
  exact (Array.getElem?_eq_some_iff.mp ha).1

theorem mustNotice_of_isQuiet (quiet : s.isQuiet = true) (ha : s.proxy.actor? id = some a) :
    Proxy.mustNotice a = false := by
  simp only [isQuiet, Bool.and_eq_true] at quiet
  cases hnotice : Proxy.mustNotice a with
  | false => rfl
  | true =>
    have hany : s.proxy.actors.any Proxy.mustNotice = true :=
      Array.any_eq_true'.mpr ⟨a, Array.mem_of_getElem? ha, hnotice⟩
    rw [hany] at quiet
    cases quiet.2

theorem ended_ne_of_isQuiet (quiet : s.isQuiet = true) (ha : s.proxy.actor? id = some a)
    (outcome : Outcome) : a.running.task ≠ .ended outcome := by
  intro htask
  have hstep := stepActor_of_isQuiet quiet ha
  simp [Proxy.stepActor, ha, htask] at hstep

/-- The task of a session that is terminated is gone when everything is quiet. -/
theorem task_of_isQuiet (quiet : s.isQuiet = true) (ha : s.proxy.actor? id = some a)
    (terminated : a.session.isTerminated = true) : a.running.task = .gone := by
  have hnotice := mustNotice_of_isQuiet quiet ha
  have hstep := stepActor_of_isQuiet quiet ha
  cases htask : a.running.task with
  | gone => rfl
  | ended outcome => exact absurd htask (ended_ne_of_isQuiet quiet ha outcome)
  | leaving => simp [Proxy.stepActor, ha, htask] at hstep
  | _ => simp [Proxy.mustNotice, terminated, htask, Task.isOver] at hnotice

end Quiet

end Scene

/-! ### What sessions do -/

namespace Proxy

variable {may : Deed → Prop}

/-- One session changes by itself, if it is there. -/
theorem changeActor_turns (p : Proxy) (id : ActorId) (f : Actor → Actor)
    (goes : ∀ q a, Goes may p q a (f a) none) :
    p.Turns Duplex.Stays may (fun _ => none) (p.changeActor id f) where
  streams := .of_eq rfl .refl
  old j a ha := by
    rw [actor?_changeActor, ha]
    split
    · exact ⟨f a, rfl, goes _ a⟩
    · exact ⟨a, rfl, .idle rfl rfl⟩
  new j b hnone hb := by
    rw [actor?_changeActor, hnone] at hb
    split at hb <;> cases hb
  alone := by
    refine ⟨id, fun j hj => ⟨rfl, fun b hb => ?_⟩⟩
    rw [actor?_changeActor_of_ne hj] at hb
    exact ⟨b, hb, rfl⟩

theorem condemn_turns (p : Proxy) (id : ActorId) :
    p.Turns Duplex.Stays may (fun _ => none) (p.condemn id) :=
  p.changeActor_turns id _ fun _ _ => .terminated rfl rfl

theorem notice_turns (p : Proxy) (id : ActorId) :
    p.Turns Duplex.Stays may (fun _ => none) (p.notice id) := by
  refine p.changeActor_turns id _ fun q a => ?_
  split
  · next must =>
    rw [mustNotice, Bool.and_eq_true] at must
    exact .noticed must.1 rfl rfl
  · exact .idle rfl rfl

end Proxy

namespace Scene

/-- What sessions may do in a step. -/
def mayDo (s : Scene) : Act → Deed → Prop
  | .event e => s.proxy.mayDo e
  | .breakOff _ => (· = .goAway)
  | _ => fun _ => False

/-- The stream that its cluster hands out to a session in a step. -/
def handedOut (s : Scene) : Act → ActorId → Option StreamId
  | .event e => s.proxy.handedOut e
  | _ => fun _ => none

theorem handedOut_of_absent {s : Scene} {id : ActorId} (h : s.proxy.actor? id = none) (x : Act) :
    s.handedOut x id = none := by
  cases x with
  | event e => exact Proxy.handedOut_of_absent h e
  | _ => rfl

/-- Whether a session forwards bytes in a step. -/
def isForwarding (s : Scene) : Act → Bool
  | .event e => s.proxy.isForwarding e
  | _ => false

/-- A step in which no far end does anything and no bytes are forwarded leaves all bytes under way. -/
theorem apply_turns_of_quiet (s : Scene) {x : Act} (quiet : s.isForwarding x = false)
    (near : ∀ id action, x ≠ .event (.far id action)) :
    s.proxy.Turns Duplex.Stays (s.mayDo x) (s.handedOut x) (s.apply x).proxy := by
  cases x with
  | event e =>
    exact s.proxy.apply_turns_of_quiet quiet fun id action he => near id action (congrArg _ he)
  | condemn id =>
    rw [apply]
    split
    · exact s.proxy.condemn_turns id
    · exact .refl s.proxy
  | breakOff id =>
    rw [apply]
    split
    · exact (s.proxy.abort_aborts id).turns rfl
    · exact .refl s.proxy
  | notice id => exact s.proxy.notice_turns id
  | remove id =>
    rw [apply]
    split
    · exact .of_actors (.of_eq (s.proxy.streams_leave id) .refl) (by simp)
    · exact .refl s.proxy

theorem apply_turns (s : Scene) (x : Act) :
    s.proxy.Turns Duplex.Lasts (s.mayDo x) (s.handedOut x) (s.apply x).proxy := by
  cases x with
  | event e => exact s.proxy.apply_turns e
  | _ =>
    refine (s.apply_turns_of_quiet rfl fun id action h => ?_).mono (fun _ _ hst => hst.gone)
      fun _ h => h
    cases h

/-- A session that is terminated and then broken off is aborted. -/
theorem abort_condemn (p : Proxy) (id : ActorId) : (p.condemn id).abort id = p.abort id := by
  have hcomm (q : Proxy) (f : Actor → Actor) (s : Option StreamId) :
      (q.changeActor id f).dropStream s = (q.dropStream s).changeActor id f := by
    cases s <;> rfl
  have hcompose (q : Proxy) (f g : Actor → Actor) :
      (q.changeActor id f).changeActor id g = q.changeActor id (g ∘ f) := by
    simp [Proxy.changeActor, ← Array.toList_inj, List.modify_modify_eq]
  cases ha : p.actor? id with
  | none =>
    rw [Proxy.condemn, Proxy.changeActor_of_none ha]
  | some a =>
    have hcondemned : (p.condemn id).actor? id =
        some { a with running := ⟨a.session.terminate .destroyed, a.running.task⟩ } := by
      rw [Proxy.condemn, Proxy.actor?_changeActor, if_pos rfl, ha]
      rfl
    have hdestroyed := Session.terminate_of_terminated
      (a.session.isTerminated_terminate .destroyed) .destroyed
    simp only [Proxy.abort, Proxy.dropStreams, hcondemned, ha, Proxy.setActor, hcompose]
    rw [Proxy.condemn, hcomm, hcomm, hcompose]
    congr 1
    funext b
    simp only [Function.comp, Actor.become, Running.destroy, Actor.session] at hdestroyed ⊢
    rw [hdestroyed]

/-- Destroying a session is terminating it, breaking it off and taking it out of the table. -/
theorem run_destroy (s : Scene) {name : String} {id : ActorId}
    (found : Table.find? s.proxy.live name = some id) (there : (s.proxy.actor? id).isSome) :
    run [.condemn id, .breakOff id, .remove id] s =
      ⟨(s.proxy.destroy name).2, s.owed, id :: s.condemned⟩ := by
  simp [run, apply, there, Proxy.destroy, found, abort_condemn]

end Scene

end Switchboard

/-
What events do to the sessions of a proxy.

Whatever happens to a proxy, a session either stays as it is or is told one signal and goes on as
its task says. So a run of the proxy gives each of its sessions a history of signals, and what
holds after every history holds in every run.

* `Proxy.running?`: a session and what it is doing;
* `Proxy.Evolves`: every session stays as it is or is told one signal;
* `Proxy.Tells`: which signals an event may have for which session;
* `apply_tells`: every event lets the sessions evolve, by these signals;
* `run_follows`: what a session of a run has come to.
-/
import Switchboard.Proofs.Proxy.Frame
import Switchboard.Proofs.Session.Signal

namespace Switchboard

/-! ### Pipes -/

namespace Pipe

/-- What a step counts: a pipe that goes on only counts more bytes, and one that ends counts none.
-/
def Counts (p : Pipe) : Progress → Prop
  | .idle => True
  | .on next => p.bytesIn ≤ next.bytesIn ∧ p.bytesOut ≤ next.bytesOut
  | .over _ next => next.bytesIn = p.bytesIn ∧ next.bytesOut = p.bytesOut

theorem counts_stepIn (p : Pipe) : p.Counts p.stepIn := by
  unfold stepIn
  split
  · trivial
  · exact ⟨rfl, rfl⟩
  · split
    · exact ⟨rfl, rfl⟩
    · exact ⟨Nat.le_refl _, Nat.le_refl _⟩
  · dsimp only
    split
    · exact ⟨rfl, rfl⟩
    · exact ⟨Nat.le_add_right _ _, Nat.le_refl _⟩

theorem counts_stepOut (p : Pipe) : p.Counts p.stepOut := by
  unfold stepOut
  split
  · trivial
  · exact ⟨rfl, rfl⟩
  · exact ⟨rfl, rfl⟩
  · dsimp only
    split
    · exact ⟨rfl, rfl⟩
    · exact ⟨Nat.le_refl _, Nat.le_add_right _ _⟩

theorem counts_step (p : Pipe) : p.Counts p.step := by
  have hin := p.counts_stepIn
  have hout := p.counts_stepOut
  unfold step
  split
  · split
    · next hover => rwa [hover] at hout
    · exact hout
  · split
    · exact hout
    · exact hin

end Pipe

/-- Whether an event ends sessions from outside. -/
def Event.isDestroying : Event → Bool
  | destroy _ | shutdown | operation (.deleteSession _) => true
  | _ => false

/-- The name of the session whose metadata an event is to edit. -/
def Event.edits? : Event → Option String
  | operation (.setPath .session name _ _) | operation (.deletePath .session name _) => some name
  | _ => none

/-- What sessions may be told at an event. -/
def Event.Tells (e : Event) (x : Signal) : Prop := x = .destroyed → e.isDestroying = true

/-- Whether a task waits for a signal, once it has started. -/
def Signal.IsAwaited : Signal → Prop
  | bound _ _ | edited _ | destroyed => False
  | _ => True

namespace Proxy

/-! ### What sessions are doing -/

/-- A session and what it is doing. -/
def running? (p : Proxy) (id : ActorId) : Option Running := (p.actor? id).map Actor.running

theorem running?_of_actors {p q : Proxy} (h : q.actors = p.actors) : q.running? = p.running? := by
  funext id
  rw [running?, actor?, h]
  rfl

theorem running?_changeActor (p : Proxy) (id : ActorId) (f : Actor → Actor) (j : ActorId) :
    (p.changeActor id f).running? j =
      if id = j then (p.actor? j).map fun a => (f a).running else p.running? j := by
  rw [running?, actor?, changeActor, Array.getElem?_modify]
  split
  · rw [Option.map_map]
    rfl
  · rfl

theorem running?_dropStreams (p : Proxy) (id : ActorId) :
    (p.dropStreams id).running? = p.running? := by
  funext j
  rw [dropStreams]
  split
  · rfl
  · next a ha =>
    rw [setActor, running?_changeActor]
    split
    · next hj =>
      subst hj
      rw [running?, actor?, actors_dropStream, actors_dropStream, ← actor?, ha]
      rfl
    · rw [running?_of_actors (q := (p.dropStream a.source).dropStream a.destination)
        (p := p) (by simp)]

theorem running?_setTimer (p : Proxy) (id : ActorId) (delay : Nat) :
    (p.setTimer id delay).running? = p.running? := by
  funext j
  show (p.changeActor id _).running? j = _
  rw [running?_changeActor]
  split <;> rfl

/-- A session is aborted, and no other one is. -/
theorem running?_abort (p : Proxy) (id j : ActorId) :
    (p.abort id).running? j = if id = j then (p.running? j).map Running.destroy
      else p.running? j := by
  rw [abort, running?_changeActor]
  split
  · rw [← running?_dropStreams p id, running?, Option.map_map]
    rfl
  · rw [running?_dropStreams]

/-! ### Evolution -/

/-- `told` says which signals there may be for which session. -/
structure Evolves (told : ActorId → Signal → Prop) (p later : Proxy) : Prop where
  /-- No session goes away. Each one stays as it is or is told one signal. -/
  old : ∀ id r, p.running? id = some r → ∃ next, later.running? id = some next ∧
    (next = r ∨ ∃ x, told id x ∧ r.Step x next)
  /-- Nothing has happened to a session that is new. -/
  new : ∀ id r, p.running? id = none → later.running? id = some r →
    ∃ number name ruleList metadata, r = .ofSession (.create number name ruleList metadata)

variable {told : ActorId → Signal → Prop} {p q later : Proxy} {id : ActorId} {a : Actor}

theorem Evolves.of_running (h : later.running? = p.running?) : p.Evolves told later where
  old id r hr := ⟨r, by rw [h, hr], .inl rfl⟩
  new id r hnone hr := by
    rw [h, hnone] at hr
    cases hr

theorem Evolves.of_actors (h : later.actors = p.actors) : p.Evolves told later :=
  .of_running (running?_of_actors h)

theorem Evolves.congr {last : Proxy} (h : p.Evolves told later)
    (hlast : last.running? = later.running?) : p.Evolves told last := by
  constructor
  · rw [hlast]
    exact h.old
  · rw [hlast]
    exact h.new

/-- One session changes. -/
theorem Evolves.of_changeActor {f : Actor → Actor} {r : Running}
    (hq : q.running? = p.running?) (hr : p.running? id = some r)
    (h : ∀ b : Actor, b.running = r → (f b).running = r ∨
      ∃ x, told id x ∧ r.Step x (f b).running) : p.Evolves told (q.changeActor id f) where
  old j s hs := by
    rw [running?_changeActor]
    rw [← hq] at hr hs
    split
    · next hj =>
      subst hj
      rw [hr] at hs
      cases hs
      obtain ⟨b, hb, hrunning⟩ := Option.map_eq_some_iff.mp hr
      exact ⟨(f b).running, by rw [hb]; rfl, h b hrunning⟩
    · exact ⟨s, hs, .inl rfl⟩
  new j s hnone hs := by
    rw [running?_changeActor] at hs
    rw [← hq] at hnone
    split at hs
    · rw [Option.map_eq_none_iff.mp hnone] at hs
      cases hs
    · rw [hnone] at hs
      cases hs

theorem running?_of_actor? (h : p.actor? id = some a) : p.running? id = some a.running := by
  rw [running?, h]
  rfl

theorem Evolves.of_setActor {next : Actor} (hq : q.actors = p.actors) (ha : p.actor? id = some a)
    (h : next.running = a.running ∨ ∃ x, told id x ∧ a.running.Step x next.running) :
    p.Evolves told (q.setActor id next) :=
  .of_changeActor (running?_of_actors hq) (running?_of_actor? ha) fun _ _ => h

theorem running_of_task {task : Task} (h : a.running.task = task) :
    a.running = ⟨a.session, task⟩ := by
  rw [← h]
  rfl

/-- One session is told what its task waits for. -/
theorem Evolves.of_step {task : Task} {x : Signal} {next : Actor} (hq : q.actors = p.actors)
    (ha : p.actor? id = some a) (htask : a.running.task = task)
    (step : Running.Step ⟨a.session, task⟩ x next.running) (hx : told id x) :
    p.Evolves told (q.setActor id next) :=
  .of_setActor hq ha (.inr ⟨x, hx, running_of_task htask ▸ step⟩)

/-! ### Steps -/

/-- What the session `id` may be told at an event: what its task waits for, what is found for it in
its first step, new metadata if its name is that of an edit, or that it is destroyed. -/
inductive Tells (p : Proxy) (e : Event) (id : ActorId) : Signal → Prop
  | awaited {x : Signal} (awaited : x.IsAwaited) : Tells p e id x
  | bound {a : Actor} (there : p.actor? id = some a) (hook : Bool) (step : e = .step id)
      (registry : (p.apply e).registry =
        (Binding.find p.registry a.session.ruleList a.session.metadata).2) :
      Tells p e id <| .bound hook <|
        (Binding.find p.registry a.session.ruleList a.session.metadata).1
  | edited (metadata : Json) {name : String} (edits : e.edits? = some name)
      (listed : Table.find? p.live name = some id) : Tells p e id (.edited metadata)
  | destroyed (destroying : e.isDestroying = true) : Tells p e id .destroyed

/-- What a session is bound to is found for it in its step. -/
theorem Tells.bound_inv {e : Event} {hook : Bool} {binding : Except Outcome Binding}
    (h : p.Tells e id (.bound hook binding)) : ∃ a, p.actor? id = some a ∧ e = .step id ∧
      binding = (Binding.find p.registry a.session.ruleList a.session.metadata).1 ∧
      (p.apply e).registry =
        (Binding.find p.registry a.session.ruleList a.session.metadata).2 := by
  cases h with
  | awaited hawaited => exact hawaited.elim
  | bound there hook step registry => exact ⟨_, there, step, rfl, registry⟩

theorem Evolves.mono {allowed : ActorId → Signal → Prop} (h : p.Evolves told later)
    (hallowed : ∀ id x, told id x → allowed id x) : p.Evolves allowed later := by
  refine ⟨fun id r hr => ?_, h.new⟩
  obtain ⟨next, hnext, hsame | ⟨x, hx, hstep⟩⟩ := h.old id r hr
  · exact ⟨next, hnext, .inl hsame⟩
  · exact ⟨next, hnext, .inr ⟨x, hallowed id x hx, hstep⟩⟩

/-- `told` for what sessions are told whose tasks go on. -/
def Awaited (_ : ActorId) (x : Signal) : Prop := x.IsAwaited

theorem Evolves.awaited {e : Event} (h : p.Evolves Awaited later) : p.Evolves (p.Tells e) later :=
  h.mono fun _ _ => .awaited

theorem goOnConnected_evolves {c : Connector} (hq : q.actors = p.actors)
    (ha : p.actor? id = some a) (task : a.running.task = .connecting c)
    (answer : Option (Except String StreamId)) :
    p.Evolves Awaited (q.goOnConnected id a c answer) := by
  rcases answer with _ | reason | stream
  · exact .of_setActor hq ha (.inl rfl)
  · exact .of_step hq ha task (.refused _ _ _) trivial
  · exact .of_step hq ha task (.connected _ _ _) trivial

theorem goOnPiped_evolves {c : Connector} {since : Nat} (hq : q.actors = p.actors)
    (ha : p.actor? id = some a) (task : a.running.task = .piping c since) (e : Pipe.End) :
    p.Evolves Awaited (q.goOnPiped id a c since e) := by
  have hactors : (q.dropStream a.destination).actors = p.actors := by simp [hq]
  rw [goOnPiped]
  cases e with
  | source reason =>
    exact .of_step hactors ha task (.sourceEnded _ _ _ _ false reason) trivial
  | destination reason =>
    exact .of_step hactors ha task (.destinationEnded _ _ _ _ _ reason) trivial

theorem goOnReacquired_evolves {c : Connector} (ha : p.actor? id = some a)
    (task : a.running.task = .reacquiring c) (hook : Option Hook) (reply : Reply) :
    p.Evolves Awaited (p.goOnReacquired id { a with hook } c reply) := by
  cases reply with
  | accept =>
    have hactors : ((p.dropStream a.source).openStream .fresh).2.actors = p.actors := by simp
    exact .of_step hactors ha task (.reacquired _ _) trivial
  | hang => exact .of_setActor rfl ha (.inl rfl)
  | refuse reason => exact .of_step rfl ha task (.notReacquired _ _ _) trivial

theorem stepPiping_evolves {c : Connector} {since : Nat} {next : Proxy}
    (ha : p.actor? id = some a) (task : a.running.task = .piping c since)
    (h : p.stepPiping id a c since = some next) : p.Evolves Awaited next := by
  unfold stepPiping at h
  split at h
  · split at h
    · next s d _ _ =>
      have hcounts := Pipe.counts_step ⟨s, d, a.draining, a.session.bytesIn, a.session.bytesOut⟩
      dsimp only at h
      split at h
      · next pipe hpipe =>
        rw [hpipe] at hcounts
        obtain ⟨hin, hout⟩ := hcounts
        cases h
        -- the pipe counts from the start, and the session is told what has been added
        have hstep := Running.Step.forwarded a.session c since
          (pipe.bytesIn - a.session.bytesIn) (pipe.bytesOut - a.session.bytesOut)
        rw [Nat.add_sub_cancel' hin, Nat.add_sub_cancel' hout, ← task] at hstep
        split
        · exact (Evolves.of_step rfl ha rfl hstep trivial).congr
            (running?_setTimer _ _ _)
        · exact .of_step rfl ha rfl hstep trivial
      · next e pipe hpipe =>
        rw [hpipe] at hcounts
        obtain ⟨hin, hout⟩ := hcounts
        cases h
        rw [hin, hout]
        refine goOnPiped_evolves (a := a) ?_ ha task e
        rfl
      · obtain ⟨d, -, rfl⟩ := Option.map_eq_some_iff.mp h
        exact .of_actors rfl
    · cases h
  · cases h

theorem stepActor_evolves {next : Proxy} (h : p.stepActor id = some next) :
    p.Evolves (p.Tells (.step id)) next := by
  obtain ⟨a, ha, hstep⟩ := stepActor_inv h
  cases hstep with
  | begin task =>
    exact .of_step rfl ha task (.bound _ _ _) (.bound ha _ rfl (by rw [apply, h]; rfl))
  | call c task => exact (goOnConnected_evolves (by simp) ha task _).awaited
  | pipe c since task next piped => exact (stepPiping_evolves ha task piped).awaited
  | wake c delay next task => exact .of_step rfl ha task (.delayOver _ _ _ _) (.awaited trivial)
  | wait delay => exact .of_running (running?_setTimer _ _ _)
  | callHook c task reply hook => exact (goOnReacquired_evolves ha task (some hook) reply).awaited
  | finish outcome task =>
    refine .of_changeActor (running?_dropStreams p id) (running?_of_actor? ha) fun b hb => ?_
    refine .inr ⟨.finished, .awaited trivial, ?_⟩
    show a.running.Step .finished (.finish b.running.session outcome)
    rw [hb, running_of_task task]
    exact .finished _ _
  | leave task =>
    refine .of_changeActor (running?_of_actors (by simp)) (running?_of_actor? ha) fun b hb => ?_
    refine .inr ⟨.left, .awaited trivial, ?_⟩
    show a.running.Step .left ⟨b.running.session, .gone⟩
    rw [hb, running_of_task task]
    exact .left _

theorem wake_evolves (p : Proxy) (id : ActorId) : p.Evolves Awaited (p.wake id) := by
  unfold wake
  split
  · exact .of_actors rfl
  · next a ha =>
    split
    · next task => exact .of_step rfl ha task (.delayOver _ _ _ _) trivial
    · next task => exact goOnPiped_evolves rfl ha task _
    · exact .of_changeActor rfl (running?_of_actor? ha) fun b hb => .inl hb

theorem endTimer_evolves (p : Proxy) (id : ActorId) :
    p.Evolves Awaited (p.endTimer id) := by
  unfold endTimer
  split
  · split
    · exact p.wake_evolves id
    · exact .of_actors rfl
  · exact .of_actors rfl

theorem answerCall_evolves (p : Proxy) (id : ActorId) (answer : Except String Duplex) :
    p.Evolves Awaited (p.answerCall id answer) := by
  unfold answerCall
  split
  · exact .of_actors rfl
  · next a ha =>
    split
    · next task _ =>
      split
      · exact goOnConnected_evolves rfl ha task _
      · exact goOnConnected_evolves (by simp) ha task _
    · exact .of_actors rfl

theorem answerHook_evolves (p : Proxy) (id : ActorId) (reply : Reply) :
    p.Evolves Awaited (p.answerHook id reply) := by
  unfold answerHook
  split
  · exact .of_actors rfl
  · next a ha =>
    split
    · next task _ => exact goOnReacquired_evolves ha task a.hook reply
    · exact .of_actors rfl

/-! ### Starts and ends -/

/-- One session is added. -/
theorem Evolves.of_push {number : SessionId} {name ruleList : String} {metadata : Json}
    (h : later.actors = p.actors.push a)
    (ha : a.running = .ofSession (.create number name ruleList metadata)) :
    p.Evolves told later := by
  have hrunning (j : ActorId) :
      later.running? j = if j = p.actors.size then some a.running else p.running? j := by
    rw [running?, actor?_of_push h]
    split <;> rfl
  constructor
  · intro j r hr
    obtain ⟨b, hb, -⟩ := Option.map_eq_some_iff.mp hr
    exact ⟨r, by rw [hrunning, if_neg (ne_size_of_actor? hb), hr], .inl rfl⟩
  · intro j r hnone hr
    rw [hrunning, hnone] at hr
    split at hr
    · cases hr
      exact ⟨_, _, _, _, ha⟩
    · cases hr

theorem dispatch_evolves (p : Proxy) (metadata : Json) (ruleList : String) (source : StreamId)
    (hook : Option Hook) : p.Evolves told (p.dispatch metadata ruleList source hook).2 := by
  have hwished : (p.wishedName metadata).2.actors = p.actors := by simp
  unfold dispatch
  dsimp only
  split
  · exact .of_actors hwished
  · exact .of_push (congrArg (Array.push · _) hwished) rfl

theorem accept_evolves (p : Proxy) (metadata : Json) (ruleList : String) (hook : Option Hook) :
    p.Evolves told (p.accept metadata ruleList hook) := by
  have hevolves : (p.openStream .fresh).2.Evolves told _ :=
    (p.openStream .fresh).2.dispatch_evolves metadata ruleList (p.openStream .fresh).1 hook
  have hopen : (p.openStream .fresh).2.running? = p.running? := rfl
  unfold accept
  dsimp only
  split
  · next heq =>
    rw [heq] at hevolves
    exact ⟨hevolves.old, hevolves.new⟩
  · next heq =>
    rw [heq] at hevolves
    exact Evolves.congr ⟨hevolves.old, hevolves.new⟩ (running?_of_actors (by simp))

/-- Some sessions are destroyed. -/
theorem Evolves.of_destroyed (h : ∀ j, later.running? j = p.running? j ∨
    later.running? j = (p.running? j).map Running.destroy) :
    p.Evolves (fun _ x => x = .destroyed) later := by
  constructor
  · intro j r hr
    rcases h j with hj | hj
    · exact ⟨r, hj.trans hr, .inl rfl⟩
    · rw [hr] at hj
      exact ⟨r.destroy, hj, .inr ⟨.destroyed, rfl, .destroyed r⟩⟩
  · intro j r hnone hr
    rcases h j with hj | hj <;> simp [hj, hnone] at hr

/-- A session that is aborted leaves the table of live sessions. -/
theorem running?_abort_leave (p : Proxy) (id j : ActorId) :
    ((p.abort id).leave id).running? j = p.running? j ∨
      ((p.abort id).leave id).running? j = (p.running? j).map Running.destroy := by
  rw [running?_of_actors (actors_leave _ id), running?_abort]
  split
  · exact .inr rfl
  · exact .inl rfl

theorem destroy_evolves (p : Proxy) (name : String) :
    p.Evolves (fun _ x => x = .destroyed) (p.destroy name).2 := by
  unfold destroy
  split
  · exact .of_actors rfl
  · exact .of_destroyed (p.running?_abort_leave _)

theorem shutdown_evolves (p : Proxy) : p.Evolves (fun _ x => x = .destroyed) p.shutdown := by
  refine .of_destroyed fun j => ?_
  unfold shutdown
  generalize p.live = entries
  induction entries generalizing p with
  | nil => exact .inl rfl
  | cons e rest ih =>
    rw [List.foldl_cons]
    -- a session that is destroyed twice is as it was after the first time
    rcases ih ((p.abort e.2).leave e.2) with hrest | hrest <;>
      rcases p.running?_abort_leave e.2 j with hfirst | hfirst <;>
      rw [hrest, hfirst]
    · exact .inl rfl
    · exact .inr rfl
    · exact .inr rfl
    · rw [Option.map_map, show Running.destroy ∘ Running.destroy = Running.destroy from
        funext Running.destroy_destroy]
      exact .inr rfl

/-! ### Events -/

theorem Evolves.destroyed {e : Event} (h : p.Evolves (fun _ x => x = .destroyed) later)
    (he : e.isDestroying = true) : p.Evolves (p.Tells e) later :=
  h.mono fun _ _ hx => hx ▸ .destroyed he

theorem setMetadata_evolves (p : Proxy) (id : ActorId) (metadata : Json) :
    p.Evolves (fun j x => j = id ∧ x = .edited metadata) (p.setMetadata id metadata) := by
  cases hr : p.running? id with
  | none =>
    refine .of_running (funext fun j => ?_)
    rw [setMetadata, running?_changeActor]
    split
    · next hj =>
      subst hj
      rw [hr, Option.map_eq_none_iff.mp hr]
      rfl
    · rfl
  | some r =>
    refine .of_changeActor rfl hr fun b hb => .inr ⟨.edited metadata, ⟨rfl, rfl⟩, ?_⟩
    rw [← hb]
    exact .edited _ _ _

theorem listed_of_sessionOf {name : String} {session : Session}
    (h : Admin.sessionOf p name = .ok (id, session)) : Table.find? p.live name = some id := by
  unfold Admin.sessionOf at h
  split at h
  · next hlive =>
    cases h
    obtain ⟨j, hj, hactor⟩ := Option.bind_eq_some_iff.mp hlive
    obtain ⟨a, -, heq⟩ := Option.map_eq_some_iff.mp hactor
    cases heq
    exact hj
  · cases h

theorem editPath_evolves (p : Proxy) {kind : EntityKind} {name : String} (path : String)
    (change : Admin.PathEdit) {e : Event} (edits : kind = .session → e.edits? = some name) :
    p.Evolves (p.Tells e) (Admin.editPath p kind name path change).2 := by
  unfold Admin.editPath
  split
  · exact .of_actors rfl
  · split
    · exact .of_actors rfl
    · unfold Admin.editSession
      split
      · exact .of_actors rfl
      · split
        · exact .of_actors rfl
        · next hsession =>
          split
          · exact .of_actors rfl
          · refine (p.setMetadata_evolves _ _).mono ?_
            rintro _ _ ⟨rfl, rfl⟩
            exact .edited _ (edits rfl) (listed_of_sessionOf hsession)
    · exact .of_actors rfl

theorem carryOut_evolves (p : Proxy) (op : Admin.Operation) :
    p.Evolves (p.Tells (.operation op)) (op.carryOut p).2 := by
  cases op with
  | deleteSession name =>
    unfold Admin.Operation.carryOut Admin.deleteSession
    dsimp only
    split
    · exact .of_actors rfl
    · exact (p.destroy_evolves name).destroyed rfl
  | setPath kind name path value => exact p.editPath_evolves path _ fun h => h ▸ rfl
  | deletePath kind name path => exact p.editPath_evolves path _ fun h => h ▸ rfl
  | _ => exact .of_actors rfl

/-- Every event lets the sessions evolve, and tells each of them what it may be told at it. -/
theorem apply_tells (p : Proxy) (e : Event) : p.Evolves (p.Tells e) (p.apply e) := by
  cases e with
  | operation op => exact p.carryOut_evolves op
  | dispatch metadata ruleList hook => exact p.accept_evolves metadata ruleList hook
  | destroy name => exact (p.destroy_evolves name).destroyed rfl
  | shutdown => exact p.shutdown_evolves.destroyed rfl
  | step id =>
    cases hstep : p.stepActor id with
    | none => exact .of_actors (by rw [apply, hstep]; rfl)
    | some next =>
      rw [apply, hstep]
      exact stepActor_evolves hstep
  | timer id => exact (p.endTimer_evolves id).awaited
  | answer id answer => exact (p.answerCall_evolves id answer).awaited
  | handOver id reply => exact (p.answerHook_evolves id reply).awaited
  | handIn | far | reconnect | pass => exact .of_actors rfl

/-- Every event lets the sessions evolve, and few of them destroy any. -/
theorem apply_evolves (p : Proxy) (e : Event) : p.Evolves (fun _ => e.Tells) (p.apply e) := by
  refine (p.apply_tells e).mono fun id x htold hx => ?_
  subst hx
  cases htold with
  | awaited hawaited => exact hawaited.elim
  | destroyed destroying => exact destroying

/-! ### Runs -/

/-- What a session of a run has come to, it has come to by a history of signals. -/
theorem run_follows (strict : Bool) (events : List Event) {id : ActorId} {r : Running}
    (h : (run events (fresh strict)).running? id = some r) :
    ∃ number name ruleList metadata history,
      (Running.ofSession (.create number name ruleList metadata)).Follows history r := by
  -- a session that was there has one more signal behind it, or none, and a new one has none
  refine run_invariant (fun _ => True) (fun p => ∀ id r,
    p.running? id = some r → ∃ number name ruleList metadata history,
      (Running.ofSession (.create number name ruleList metadata)).Follows history r)
    (fun p e _ hp id r hr => ?_) (fun _ _ => trivial) (fun id r hr => ?_) id r h
  · cases hbefore : p.running? id with
    | none =>
      obtain ⟨number, name, ruleList, metadata, rfl⟩ := (p.apply_evolves e).new id r hbefore hr
      exact ⟨number, name, ruleList, metadata, [], .start⟩
    | some before =>
      obtain ⟨number, name, ruleList, metadata, history, hhistory⟩ := hp id before hbefore
      obtain ⟨next, hnext, hsame | ⟨x, -, hstep⟩⟩ := (p.apply_evolves e).old id before hbefore
      · rw [hr, Option.some_inj] at hnext
        exact ⟨number, name, ruleList, metadata, history, hnext.trans hsame ▸ hhistory⟩
      · rw [hr, Option.some_inj] at hnext
        exact ⟨number, name, ruleList, metadata, history ++ [x], hnext ▸ hhistory.signal hstep⟩
  · cases hr

end Proxy

end Switchboard

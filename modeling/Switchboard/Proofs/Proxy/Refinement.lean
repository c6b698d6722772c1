/-
A proxy that forwards chunks, and its copy loops.

A step in which a session forwards a chunk is some moves of its copy loops in a row. So whatever a
proxy can come to by its own steps, it can come to by moves, and what is shown of all runs by moves
holds of its own runs.

* `after_after`: two moves in a row come to one;
* `run_moves`: moves in a row come to what they come to for the pipe alone;
* `exists_run_step`: a step of a scene is a run by acts, and nothing is in flight after it;
* `exists_run`: every run of a scene is the run of some acts.
-/
import Switchboard.Proofs.Proxy.Passage

namespace Switchboard

/-! ### Moves in a row -/

namespace Passage

variable {g : Passage} {id : ActorId} {p : Proxy}

/-- What is stored last stays. -/
theorem store_store (g : Passage) (p : Proxy) (x y : Pipe) :
    g.store (g.store p x) y = g.store p y := by
  have hstreams : (g.store (g.store p x) y).streams = (g.store p y).streams := by
    refine Array.ext_getElem? fun i => ?_
    simp only [store, Proxy.changeStream, Array.getElem?_modify]
    split <;> split <;> simp [Function.comp_def]
  show { g.store p y with streams := (g.store (g.store p x) y).streams } = g.store p y
  rw [hstreams]

theorem setActor_setActor (p : Proxy) (id : ActorId) (a b : Actor) :
    (p.setActor id a).setActor id b = p.setActor id b := by
  simp [Proxy.setActor, Proxy.changeActor, ← Array.toList_inj, List.modify_modify_eq,
    Function.comp_def]

/-- The pipe after a move with which neither it nor its source ends. -/
def next (g : Passage) (y : Span) : Passage :=
  { g with
    actor := { g.counted y.toPipe with draining := y.draining }
    crossing := g.record y none
    span := y }

theorem goOn_of_open {x : Pipe} (h : x.draining = g.actor.draining) :
    g.goOn id p x = (g.store p x).setActor id { g.counted x with draining := x.draining } := by
  unfold goOn
  dsimp only
  rw [h]
  cases g.actor.draining <;> rfl

/-- Two moves in a row come to one. -/
theorem after_after {y : Span} (hopen : y.draining = g.actor.draining) (z : Span)
    (ended : Option Pipe.End) :
    (g.next y).after id (g.after id p (.went y none)) (.went z ended) =
      g.after id p (.went z ended) := by
  let b : Actor := { g.counted y.toPipe with draining := y.draining }
  have hfirst : g.after id p (.went y none) = (g.store p y.toPipe).setActor id b :=
    goOn_of_open hopen
  have hstore : (g.next y).store ((g.store p y.toPipe).setActor id b) z.toPipe =
      (g.store p z.toPipe).setActor id b := by
    show (g.store (g.store p y.toPipe) z.toPipe).setActor id b = _
    rw [store_store]
  rw [hfirst]
  -- all that the first move has written, streams and session, is written again by the second one
  cases ended with
  | none =>
    unfold after goOn
    dsimp only
    rw [hstore, setActor_setActor, show (g.next y).actor.draining = g.actor.draining from hopen]
    rfl
  | some e =>
    have hdrop (q : Proxy) (d : Option StreamId) :
        (q.setActor id b).dropStream d = (q.dropStream d).setActor id b := by
      cases d <;> rfl
    unfold after stop Proxy.goOnPiped
    dsimp only
    rw [hstore, hdrop, setActor_setActor]
    rfl

end Passage

namespace Traffic

section Moves

variable {t : Traffic} {id : ActorId} {g : Passage} {y : Span} {ended : Option Pipe.End}

theorem carrying_next {way : Way} {m : Copy.Move} (h : t.Carrying id g)
    (apart : g.source ≠ g.destination) (hstep : g.span.step way m = .went y none)
    (hopen : y.draining = g.span.draining) : (t.apply (.move id way m)).Carrying id (g.next y) := by
  have hproxy : (t.apply (.move id way m)).proxy = (g.store t.proxy y.toPipe).setActor id
      { g.counted y.toPipe with draining := y.draining } := by
    rw [apply_move h hstep]
    exact Passage.goOn_of_open (hopen.trans h.draining)
  obtain ⟨hsource, hdestination, -⟩ := stream?_store h apart y.toPipe
  refine ⟨?_, rfl, h.source, h.destination, ?_, ?_, ?_, rfl, rfl, rfl, rfl, rfl⟩
  · rw [hproxy]
    refine Proxy.actor?_setActor_self ?_ _
    rw [show (g.store t.proxy y.toPipe).actor? id = _ from h.actor]
    rfl
  · rw [apply_move h hstep]
    exact if_pos rfl
  · rw [hproxy]
    exact hsource
  · rw [hproxy]
    exact hdestination

/-- Moves in a row come to what they come to for the pipe alone. -/
theorem run_moves {moves : List (Way × Copy.Move)} (h : t.Carrying id g)
    (apart : g.source ≠ g.destination) (hrun : Span.run moves g.span = .went y ended) :
    run (moves.map fun mv => .move id mv.1 mv.2) t =
      { t with
        scene := { t.scene with proxy := g.after id t.proxy (.went y ended) }
        crossings := fun j => if j = id then g.record y ended :: g.earlier else t.crossings j } := by
  induction moves generalizing t g with
  | nil => cases hrun
  | cons mv rest ih =>
    cases rest with
    | nil => exact apply_move h hrun
    | cons mv' rest =>
      unfold Span.run at hrun
      split at hrun
      · next z hstep =>
        split at hrun
        · -- the session still carries the same pipe, so the rest of the moves apply to it
          next hopen =>
          have hlater := ih (carrying_next h apart hstep hopen) apart hrun
          rw [List.map_cons, run_cons, hlater, apply_move h hstep]
          refine Traffic.mk.injEq .. |>.mpr ⟨?_, ?_, rfl⟩
          · exact congrArg (fun q => { t.scene with proxy := q })
              (Passage.after_after (hopen.trans h.draining) y ended)
          · funext j
            dsimp only
            split <;> rfl
        · cases hrun
      · cases hrun

end Moves

/-! ### Steps of the proxy -/

section Steps

variable {t : Traffic} {id : ActorId} {g : Passage}

/-- A step in which a session forwards bytes is a step of its pipe. -/
theorem stepPiping_eq (h : t.Carrying id g) :
    t.proxy.stepPiping id g.actor g.connector g.since = match g.span.toPipe.step with
      | .on x => some (g.goOn id t.proxy x)
      | .over e x => some (g.stop id t.proxy e x)
      | .idle => g.span.destination.echo.map fun d =>
        t.proxy.changeStream g.destination fun _ => d := by
  have hpipe : (⟨g.span.source, g.span.destination, g.actor.draining, g.actor.session.bytesIn,
      g.actor.session.bytesOut⟩ : Pipe) = g.span.toPipe := by
    rw [← h.draining, ← h.bytesIn, ← h.bytesOut]
  have hcounted (x : Pipe) : g.counted x = { g.actor with running := { g.actor.running with
      session := { g.actor.session with bytesIn := x.bytesIn, bytesOut := x.bytesOut } } } := by
    rw [Passage.counted, ← h.task]
  unfold Proxy.stepPiping
  split
  · next source destination hsource hdestination =>
    cases hsource.symm.trans h.source
    cases hdestination.symm.trans h.destination
    split
    · next s d hs hd =>
      cases hs.symm.trans h.sourceStream
      cases hd.symm.trans h.destinationStream
      dsimp only
      rw [hpipe]
      rcases g.span.toPipe.step with _ | x | ⟨e, x⟩
      · rfl
      · dsimp only [Passage.goOn]
        rw [hcounted]
        rfl
      · dsimp only [Passage.stop]
        rw [hcounted]
        rfl
    · next hnone => exact absurd h.destinationStream (hnone _ _ h.sourceStream)
  · next hnone => exact absurd h.destination (hnone _ _ h.source)

/-- A pipe in which nothing happens has a destination that may still write. -/
theorem open_of_idle {x : Pipe} (h : x.step = .idle) : x.destination.farClosed = false := by
  have hout : x.stepOut = .idle := by
    unfold Pipe.step at h
    split at h
    · cases hstep : x.stepOut with
      | idle => rfl
      | _ => simp [hstep] at h
    · cases hstep : x.stepIn with
      | idle => rwa [hstep] at h
      | _ => simp [hstep] at h
  unfold Pipe.stepOut at hout
  split at hout
  · next hread => exact Duplex.open_of_read hread
  · cases hout
  · cases hout
  · dsimp only at hout
    split at hout <;> cases hout

end Steps

/-- Nothing is in flight in the pipes that there are. -/
def Resting (t : Traffic) : Prop :=
  ∀ id a, t.proxy.actor? id = some a → a.running.task.isPiping = true →
    ∀ k earlier, t.crossings id = k :: earlier →
      k.inward.phase = .reading ∧ k.outward.phase = .reading

theorem resting_fresh (strict : Bool) : (fresh strict).Resting := by
  intro id a ha
  simp [fresh, proxy, Scene.ofProxy, Proxy.fresh, Proxy.actor?] at ha

section Steps

variable {t : Traffic}

/-- Who has a destination has a pipe. -/
theorem exists_crossing (howned : t.proxy.Owned t.trips) {id : ActorId} {a : Actor} {d : StreamId}
    (ha : t.proxy.actor? id = some a) (hd : a.destination = some d) :
    ∃ k earlier, t.crossings id = k :: earlier := by
  obtain ⟨owner, howner⟩ := howned.present
  have hlast := (howner id a ha).tidy.destinations.last d hd
  rw [trips] at hlast
  cases hcrossings : t.crossings id with
  | nil => simp [hcrossings] at hlast
  | cons k earlier => exact ⟨k, earlier, rfl⟩

/-- A session that has no pipe does not forward bytes. -/
theorem stepPiping_eq_none (howned : t.proxy.Owned t.trips) {id : ActorId} {a : Actor}
    {c : Connector} {since : Nat} (ha : t.proxy.actor? id = some a)
    (task : a.running.task = .piping c since) (hnone : t.passage? id = none) :
    t.proxy.stepPiping id a c since = none := by
  unfold Proxy.stepPiping
  split
  · next source destination hsource hdestination =>
    obtain ⟨k, earlier, hcrossings⟩ := exists_crossing howned ha hdestination
    split
    · next s d hs hd => simp [passage?, ha, task, hsource, hdestination, hcrossings, hs, hd] at hnone
    · rfl
  · rfl

/-- A step that forwards no bytes begins pipes in which nothing is in flight. -/
theorem Resting.apply (h : t.Resting) {x : Act} (quiet : x.isMove = false) :
    (t.apply x).Resting := by
  intro id b hb hpiping k earlier hk
  have hturns := t.apply_turns x
  cases ha : t.proxy.actor? id with
  | none =>
    -- a session that has just started forwards nothing yet
    obtain ⟨-, number, name, ruleList, metadata, s, running, -⟩ := hturns.new id b ha hb
    rw [running] at hpiping
    cases hpiping
  | some a =>
    obtain ⟨b', hb', goes⟩ := hturns.old id a ha
    rw [hb, Option.some_inj] at hb'
    subst hb'
    rw [t.crossings_apply quiet ha] at hk
    cases hhanded : t.handedOut x id with
    | none =>
      rw [hhanded] at goes hk
      exact h id a ha (goes.isPiping hpiping) k earlier hk
    | some d =>
      rw [hhanded] at hk
      cases hk
      exact ⟨rfl, rfl⟩

/-- When moves in a row leave nothing in flight or end the pipe, nothing is in flight. -/
theorem Resting.run_moves (h : t.Resting) {id : ActorId} {g : Passage}
    {moves : List (Way × Copy.Move)} {y : Span} {ended : Option Pipe.End} (hg : t.Carrying id g)
    (apart : g.source ≠ g.destination) (hrun : Span.run moves g.span = .went y ended)
    (hy : ended = none → y.Resting) :
    (run (moves.map fun mv => .move id mv.1 mv.2) t).Resting := by
  rw [Traffic.run_moves hg apart hrun]
  intro j b hb hpiping k earlier hk
  dsimp only at hk
  by_cases hj : j = id
  · subst hj
    obtain ⟨b', hb', -, -, -, hended⟩ := exists_actor_after hg y ended
    cases hb.symm.trans hb'
    rw [if_pos rfl] at hk
    cases hk
    cases ended with
    | none => exact hy rfl
    | some e =>
      rw [hended nofun] at hpiping
      cases hpiping
  · rw [if_neg hj] at hk
    have hold : t.proxy.actor? j = some b := (actor?_after_of_ne g t.proxy _ hj).symm.trans hb
    exact h j b hold hpiping k earlier hk

/-- A step in which a session forwards bytes is a run. -/
theorem exists_run_piping (howned : t.proxy.Owned t.trips) (h : t.Resting) {id : ActorId}
    {g : Passage} (hg : t.Carrying id g) :
    ∃ acts, (run acts t).scene = { t.scene with
      proxy := (t.proxy.stepPiping id g.actor g.connector g.since).getD t.proxy } ∧
      (run acts t).Resting := by
  obtain ⟨owner, howner⟩ := howned.present
  have howns := howner id g.actor hg.actor
  have apart := hg.apart howns
  have hresting : g.span.Resting := by
    have hphases := h id g.actor hg.actor (by rw [hg.task]; rfl) _ _ hg.crossings
    rwa [← hg.inward, ← hg.outward] at hphases
  have hrefines := Span.refines_step hresting
  rw [stepPiping_eq hg]
  rcases hstep : g.span.toPipe.step with _ | x | ⟨e, x⟩
  · -- there is nothing to forward, so the destination may have something to give back
    have hopen : g.span.destination.farClosed = false := open_of_idle hstep
    cases hecho : g.span.destination.echo with
    | none => exact ⟨[], rfl, h⟩
    | some d =>
      refine ⟨[.echo g.destination], ?_, h.apply (x := .echo g.destination) rfl⟩
      show (t.apply (.echo g.destination)).scene = _
      unfold Traffic.apply
      dsimp only
      rw [hg.destinationStream]
      dsimp only
      rw [hopen, hecho]
      rfl
  · rw [hstep] at hrefines
    obtain ⟨moves, y, hrun, rfl, hy⟩ := hrefines
    refine ⟨moves.map fun mv => .move id mv.1 mv.2, ?_, h.run_moves hg apart hrun fun _ => hy⟩
    rw [run_moves hg apart hrun]
    rfl
  · rw [hstep] at hrefines
    obtain ⟨moves, y, hrun, rfl⟩ := hrefines
    refine ⟨moves.map fun mv => .move id mv.1 mv.2, ?_, h.run_moves hg apart hrun nofun⟩
    rw [run_moves hg apart hrun]
    rfl

/-- A step of a scene is a run, and nothing is in flight after it. -/
theorem exists_run_step (howned : t.proxy.Owned t.trips) (h : t.Resting) (x : Scene.Act) :
    ∃ acts, (run acts t).scene = t.scene.apply x ∧ (run acts t).Resting := by
  cases hforwarding : t.scene.isForwarding x with
  | false =>
    refine ⟨[.step x], ?_, h.apply (x := .step x) rfl⟩
    show (t.apply (.step x)).scene = _
    rw [Traffic.apply, if_neg (by simp [hforwarding])]
  | true =>
    cases x with
    | event e =>
      obtain ⟨id, a, c, since, rfl, hactor, task⟩ := Proxy.exists_of_isForwarding hforwarding
      have ha : t.proxy.actor? id = some a := hactor
      have happly : t.scene.apply (.event (.step id)) =
          { t.scene with proxy := (t.proxy.stepPiping id a c since).getD t.proxy } := by
        rw [← Proxy.stepActor_of_piping ha task]
        rfl
      rw [happly]
      cases hpassage : t.passage? id with
      | none =>
        rw [stepPiping_eq_none howned ha task hpassage]
        exact ⟨[], rfl, h⟩
      | some g =>
        have hg := passage?_eq_some_iff.mp hpassage
        cases ha.symm.trans hg.actor
        cases task.symm.trans hg.task
        exact exists_run_piping howned h hg
    | _ => cases hforwarding

end Steps

/-- **Runs by moves are at least the runs of the proxy.** Whatever a scene comes to by its own steps,
it comes to by moves of the copy loops and the steps between them. -/
theorem exists_run (strict : Bool) (acts : List Scene.Act) :
    ∃ moves, (run moves (fresh strict)).scene = Scene.run acts (.ofProxy (.fresh strict)) := by
  -- by induction on the steps: nothing is in flight between two of them
  have hrun (t : Traffic) (howned : t.proxy.Owned t.trips) (h : t.Resting) :
      ∃ moves, (run moves t).scene = Scene.run acts t.scene := by
    induction acts generalizing t with
    | nil => exact ⟨[], rfl⟩
    | cons x rest ih =>
      obtain ⟨first, hscene, hresting⟩ := exists_run_step howned h x
      have hlater := @run_invariant (fun t => t.proxy.Owned t.trips) (fun _ x h => owned_apply h x)
        first t howned
      obtain ⟨later, hall⟩ := ih (run first t) hlater hresting
      exact ⟨first ++ later, by rw [run_append, hall, hscene, Scene.run_cons]⟩
  exact hrun (fresh strict) (owned_fresh strict) (resting_fresh strict)

end Traffic

end Switchboard

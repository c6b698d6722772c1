/-
Moves of the copy loops of a session.

A move stores both ends of a pipe, and at most lets go of the destination. No stream but these two is
touched, and no session but the one whose pipe it is.

* `apply_move`: what becomes of everything in a move;
* `balanced_source`, `balanced_destination`, `balanced_of_ne`: what has gone through the streams;
* `ends_of_carrying`, `apart_of_carrying`: the two ends among the streams of the session.
-/
import Switchboard.Proofs.Proxy.Ownership
import Switchboard.Proofs.Proxy.Traffic

namespace Switchboard

namespace Traffic

/-- What a session has held with the destinations that it was handed, the latest first. -/
def trips (t : Traffic) (id : ActorId) : List Ends := (t.crossings id).map Crossing.ends

section Moves

variable {t : Traffic} {id : ActorId} {g : Passage} {owner : StreamId → ActorId × Role}

theorem stream?_store (h : t.Carrying id g) (apart : g.source ≠ g.destination) (x : Pipe) :
    (g.store t.proxy x).stream? g.source = some x.source ∧
      (g.store t.proxy x).stream? g.destination = some x.destination ∧
      ∀ j, j ≠ g.source → j ≠ g.destination →
        (g.store t.proxy x).stream? j = t.proxy.stream? j := by
  unfold Passage.store
  refine ⟨?_, ?_, fun j hs hd => ?_⟩
  · rw [Proxy.stream?_changeStream, if_neg apart.symm, Proxy.stream?_changeStream, if_pos rfl,
      h.sourceStream]
    rfl
  · rw [Proxy.stream?_changeStream, if_pos rfl, Proxy.stream?_changeStream, if_neg apart,
      h.destinationStream]
    rfl
  · rw [Proxy.stream?_changeStream, if_neg hd.symm, Proxy.stream?_changeStream, if_neg hs.symm]

/-- After the streams of a pipe are stored, at most the destination is let go of. -/
theorem stays_after (g : Passage) (id : ActorId) (p : Proxy) (y : Span) (ended : Option Pipe.End) :
    (g.store p y.toPipe).Streams Duplex.Stays (g.after id p (.went y ended)) := by
  cases ended with
  | none =>
    refine .of_eq ?_ .refl
    unfold Passage.after Passage.goOn
    dsimp only
    split <;> rfl
  | some e => exact (g.store p y.toPipe).streams_dropStream _ .refl Duplex.stays_drop

theorem actor?_after_of_ne (g : Passage) (p : Proxy) (progress : Span.Progress) {j : ActorId}
    (hj : j ≠ id) : (g.after id p progress).actor? j = p.actor? j := by
  cases progress with
  | idle => rfl
  | went y ended =>
    cases ended with
    | none =>
      unfold Passage.after Passage.goOn
      dsimp only
      split
      · refine (Proxy.actor?_changeActor_of_ne hj _).trans ?_
        exact Proxy.actor?_changeActor_of_ne hj _
      · exact Proxy.actor?_changeActor_of_ne hj _
    | some e =>
      refine (Proxy.actor?_changeActor_of_ne hj _).trans ?_
      rw [Proxy.actor?, Proxy.actors_dropStream]
      rfl

/-- The session after a move has the counts of its pipe, and the sources that it had. If the pipe has
ended, it goes on to something else. -/
theorem exists_actor_after (h : t.Carrying id g) (y : Span) (ended : Option Pipe.End) :
    ∃ b, (g.after id t.proxy (.went y ended)).actor? id = some b ∧
      b.session.bytesIn = y.bytesIn ∧ b.session.bytesOut = y.bytesOut ∧
      b.sources = g.actor.sources ∧ (ended ≠ none → b.running.task.isPiping = false) := by
  have hthere : ((g.store t.proxy y.toPipe).actor? id).isSome := by
    rw [show (g.store t.proxy y.toPipe).actor? id = _ from h.actor]
    rfl
  cases ended with
  | none =>
    have hset := Proxy.actor?_setActor_self hthere { g.counted y.toPipe with draining := y.draining }
    unfold Passage.after Passage.goOn
    dsimp only
    split
    · have htimer := Proxy.actor?_changeActor ((g.store t.proxy y.toPipe).setActor id
        { g.counted y.toPipe with draining := y.draining }) id
        (fun a => { a with hold := .timer (t.proxy.now + Pipe.drainTime) t.proxy.nextTicket }) id
      rw [if_pos rfl, hset] at htimer
      exact ⟨_, htimer, rfl, rfl, rfl, nofun⟩
    · exact ⟨_, hset, rfl, rfl, rfl, nofun⟩
  | some e =>
    have hdropped : (((g.store t.proxy y.toPipe).dropStream g.actor.destination).actor? id).isSome := by
      rwa [Proxy.actor?, Proxy.actors_dropStream, ← Proxy.actor?]
    let q := g.store t.proxy y.toPipe
    let retriable := q.registry.clusters.retriable g.connector.cluster
    -- a session that stops forwarding has counted what it has
    have hstanding := Running.standing_of_eq_or (Running.pipeEnded_session
      (g.counted y.toPipe).session g.connector g.since q.wallTime retriable e)
    have hloose := Running.isLoose_pipeEnded (g.counted y.toPipe).session g.connector g.since
      q.wallTime retriable e
    exact ⟨_, Proxy.actor?_setActor_self hdropped _, congrArg (·.2.1) hstanding,
      congrArg (·.2.2) hstanding, rfl, fun _ => hloose.isPiping⟩

variable {way : Way} {m : Copy.Move} {y : Span} {ended : Option Pipe.End} {i o : Copy.Load}
  {j : StreamId} {taken given : List UInt8}

theorem apply_move (h : t.Carrying id g) (hstep : g.span.step way m = .went y ended) :
    t.apply (.move id way m) =
      { t with
        scene := { t.scene with proxy := g.after id t.proxy (.went y ended) }
        crossings := fun j => if j = id then g.record y ended :: g.earlier else t.crossings j } := by
  rw [apply, passage?_eq_some_iff.mpr h]
  dsimp only
  rw [hstep]
  rfl

theorem apply_move_of_idle (h : t.Carrying id g) (hstep : g.span.step way m = .idle) :
    t.apply (.move id way m) = t := by
  have hsame : (fun j => if j = id then g.crossing :: g.earlier else t.crossings j) = t.crossings := by
    funext j
    split
    · next hj => rw [hj, h.crossings]
    · rfl
  rw [apply, passage?_eq_some_iff.mpr h]
  dsimp only
  rw [hstep]
  dsimp only [Passage.after, Passage.records]
  rw [hsame]
  rfl

/-- What is stored in a move is there after it. -/
theorem exists_stream_of_store (h : t.Carrying id g) (hstep : g.span.step way m = .went y ended)
    {s : Duplex} (hs : (g.store t.proxy y.toPipe).stream? j = some s) :
    ∃ s', (t.apply (.move id way m)).proxy.stream? j = some s' ∧ s.Stays s' := by
  rw [apply_move h hstep]
  exact stays_after g id t.proxy y ended j s hs

/-- A move takes from the source what goes to the destination, and gives it what comes from there. -/
theorem balanced_source (h : t.Carrying id g) (apart : g.source ≠ g.destination)
    (hstep : g.span.step way m = .went y ended) (hmoves : g.span.Moves i o y)
    (hbalanced : t.Balanced g.source taken given) :
    (t.apply (.move id way m)).Balanced g.source (taken ++ i.read) (given ++ o.written) := by
  obtain ⟨s, hs, hfits⟩ := hbalanced
  rw [h.sourceStream, Option.some_inj] at hs
  subst hs
  obtain ⟨s', hs', hstays⟩ := exists_stream_of_store h hstep (stream?_store h apart y.toPipe).1
  refine ⟨s', hs', ?_⟩
  rw [apply_move h hstep]
  exact (hfits.passes hmoves.source).stays hstays

theorem balanced_destination (h : t.Carrying id g) (apart : g.source ≠ g.destination)
    (hstep : g.span.step way m = .went y ended) (hmoves : g.span.Moves i o y)
    (hbalanced : t.Balanced g.destination taken given) :
    (t.apply (.move id way m)).Balanced g.destination (taken ++ o.read) (given ++ i.written) := by
  obtain ⟨d, hd, hfits⟩ := hbalanced
  rw [h.destinationStream, Option.some_inj] at hd
  subst hd
  obtain ⟨d', hd', hstays⟩ := exists_stream_of_store h hstep (stream?_store h apart y.toPipe).2.1
  refine ⟨d', hd', ?_⟩
  rw [apply_move h hstep]
  exact (hfits.passes hmoves.destination).stays hstays

/-- What has come from the destination once it has ended stays all that ever comes. -/
theorem drained_destination (h : t.Carrying id g) (apart : g.source ≠ g.destination)
    (hstep : g.span.step way m = .went y ended) (hmoves : g.span.Moves i o y)
    (hdrained : g.span.destination.Drained) : (t.apply (.move id way m)).Drained g.destination := by
  obtain ⟨d, hd, hstays⟩ := exists_stream_of_store h hstep (stream?_store h apart y.toPipe).2.1
  exact ⟨d, hd, hstays.passes.drained (hmoves.destination.drained hdrained)⟩

/-- No other stream is touched. -/
theorem exists_stream_of_ne (h : t.Carrying id g) (apart : g.source ≠ g.destination)
    (hstep : g.span.step way m = .went y ended) {s : Duplex} (hs : t.proxy.stream? j = some s)
    (hsource : j ≠ g.source) (hdestination : j ≠ g.destination) :
    ∃ s', (t.apply (.move id way m)).proxy.stream? j = some s' ∧ s.Stays s' := by
  have hsame := (stream?_store h apart y.toPipe).2.2 j hsource hdestination
  exact exists_stream_of_store h hstep (hsame.trans hs)

theorem balanced_of_ne (h : t.Carrying id g) (apart : g.source ≠ g.destination)
    (hstep : g.span.step way m = .went y ended) (hbalanced : t.Balanced j taken given)
    (hsource : j ≠ g.source) (hdestination : j ≠ g.destination) :
    (t.apply (.move id way m)).Balanced j taken given := by
  obtain ⟨s, hs, hfits⟩ := hbalanced
  obtain ⟨s', hs', hstays⟩ := exists_stream_of_ne h apart hstep hs hsource hdestination
  refine ⟨s', hs', ?_⟩
  rw [apply_move h hstep]
  exact hfits.stays hstays

theorem drained_of_ne (h : t.Carrying id g) (apart : g.source ≠ g.destination)
    (hstep : g.span.step way m = .went y ended) (hdrained : t.Drained j)
    (hsource : j ≠ g.source) (hdestination : j ≠ g.destination) :
    (t.apply (.move id way m)).Drained j := by
  obtain ⟨s, hs, hdone⟩ := hdrained
  obtain ⟨s', hs', hstays⟩ := exists_stream_of_ne h apart hstep hs hsource hdestination
  exact ⟨s', hs', hstays.passes.drained hdone⟩

/-! ### The ends of a pipe -/

/-- The pipe of a session is the one that is recorded last. -/
theorem ends_of_carrying (h : t.Carrying id g)
    (howns : g.actor.Owns t.proxy owner id (t.trips id)) :
    g.crossing.source = some g.source ∧ g.crossing.destination = g.destination := by
  have htrips : t.trips id = g.crossing.ends :: g.earlier.map Crossing.ends := by
    rw [trips, h.crossings]
    rfl
  have hsource := howns.current _ _ htrips (by rw [h.destination]; nofun)
  have hlast := howns.tidy.destinations.last g.destination h.destination
  rw [htrips, List.reverse_cons, List.map_append, List.map_singleton, List.getLast?_concat] at hlast
  exact ⟨hsource.trans h.source, Option.some.inj hlast⟩

/-- The other streams of a session are neither end of its pipe. -/
theorem apart_of_carrying (h : t.Carrying id g)
    (howns : g.actor.Owns t.proxy owner id (t.trips id)) :
    (∀ s ∈ g.actor.sources, s ≠ g.destination) ∧
      ∀ k ∈ g.earlier, k.destination ≠ g.source ∧ k.destination ≠ g.destination := by
  obtain ⟨-, hdestination⟩ := ends_of_carrying h howns
  have hmem (k : Crossing) (hk : k ∈ g.crossing :: g.earlier) : k.ends ∈ t.trips id := by
    rw [trips, h.crossings]
    exact List.mem_map_of_mem hk
  have hsource : g.source ∈ g.actor.sources := howns.source_mem h.source
  have hnodup := howns.tidy.destinations.nodup
  rw [List.map_reverse, (List.reverse_perm _).nodup_iff, trips, h.crossings, List.map_map,
    List.map_cons, List.nodup_cons] at hnodup
  refine ⟨fun s hs => ?_, fun k hk => ⟨?_, fun hsame => hnodup.1 ?_⟩⟩
  · rw [← hdestination]
    exact howns.source_ne_destination hs (hmem _ List.mem_cons_self)
  · exact (howns.source_ne_destination hsource (hmem k (List.mem_cons_of_mem _ hk))).symm
  · rw [← hdestination] at hsame
    exact List.mem_map.mpr ⟨k, hk, hsame⟩

theorem Carrying.apart (h : t.Carrying id g) (howns : g.actor.Owns t.proxy owner id (t.trips id)) :
    g.source ≠ g.destination :=
  (apart_of_carrying h howns).1 _ (howns.source_mem h.source)

end Moves

/-- Whatever happens, each stream has one owner. -/
theorem owned_apply {t : Traffic} (h : t.proxy.Owned t.trips) (x : Act) :
    (t.apply x).proxy.Owned (t.apply x).trips :=
  h.turns (t.apply_turns x) (fun _ _ ha => t.ends_apply x ha)
    fun _ hnone => t.ends_apply_of_absent x hnone

theorem owned_fresh (strict : Bool) : (fresh strict).proxy.Owned (fresh strict).trips := by
  refine ⟨fun _ _ => rfl, fun _ => (0, .source), fun id a ha => ?_⟩
  simp [fresh, proxy, Scene.ofProxy, Proxy.fresh, Proxy.actor?] at ha

end Traffic

end Switchboard

/-
Whose streams are whose.

Every stream that a session has been given is its own, as a source or as a destination, and nobody is
ever given it again. A session that is handed a destination keeps the source that it holds until it
has let go of that destination.

* `Proxy.Owned`: each stream has one owner and one role;
* `Owned.turns`: however the sessions go on, that stays so.
-/
import Switchboard.Proofs.StreamHolding

namespace Switchboard

/-- What a session holds with a destination that it is handed: its source, and the destination. -/
abbrev Ends := Option StreamId × StreamId

/-- The role of a stream. -/
inductive Role
  | source
  | destination
deriving DecidableEq

namespace Goes

variable {may : Deed → Prop} {p q : Proxy} {a b : Actor} {handed : Option StreamId}

/-- A session keeps the sources that it has had, and gets at most one more, which is new. -/
theorem sources_cases (goes : Goes may p q a b handed) :
    b.sources = a.sources ∨ handed = none ∧ ∃ s, b.sources = a.sources ++ [s] ∧
      p.stream? s = none ∧ q.stream? s = some .fresh := by
  cases goes with
  | reacquired _ s _ _ holdings new opened _ =>
    exact .inr ⟨rfl, s, congrArg (·.2.2) holdings, new, opened⟩
  | idle _ holdings | told _ _ _ holdings | forwarded _ _ _ _ _ _ _ _ _ holdings
  | connected _ _ _ _ _ holdings _ _ | unpiped _ _ _ _ _ _ _ holdings _
  | finished _ _ _ holdings _ | left _ _ _ holdings | aborted _ _ holdings _
  | terminated _ holdings | noticed _ _ holdings =>
    exact .inl (congrArg (·.2.2) holdings)

/-- A stream that is handed out is new, and the session holds it beside its source. -/
theorem handed_new {d : StreamId} (goes : Goes may p q a b (some d)) :
    p.stream? d = none ∧ (q.stream? d).isSome ∧ b.source = a.source ∧ b.sources = a.sources := by
  cases goes with
  | connected _ _ _ _ _ holdings new opened =>
    exact ⟨new, opened, congrArg Prod.fst holdings, congrArg (·.2.2) holdings⟩

/-- As long as a session holds a destination, it holds the same source. -/
theorem source_eq (goes : Goes may p q a b none) (fitting : a.Fitting)
    (holds : b.destination ≠ none) : a.destination ≠ none ∧ b.source = a.source := by
  -- whoever looks for a source holds no destination
  have hsame {source : Option StreamId} {sources : List StreamId}
      (holdings : b.holdings = (source, a.destination, sources)) : a.destination ≠ none := by
    rwa [show b.destination = a.destination from congrArg (·.2.1) holdings] at holds
  have hnone {source : Option StreamId} {sources : List StreamId}
      (holdings : b.holdings = (source, none, sources)) : False :=
    holds (congrArg (·.2.1) holdings)
  cases goes with
  | reacquired _ s task _ holdings _ _ _ =>
    exact absurd (fitting.of_isSeeking (by rw [task]; rfl)) (hsame holdings)
  | unpiped _ _ _ _ _ _ _ holdings _ => exact (hnone holdings).elim
  | finished _ _ _ holdings _ => exact (hnone holdings).elim
  | aborted _ _ holdings _ => exact (hnone holdings).elim
  | idle _ holdings | told _ _ _ holdings | forwarded _ _ _ _ _ _ _ _ _ holdings
  | left _ _ _ holdings | terminated _ holdings | noticed _ _ holdings =>
    exact ⟨hsame holdings, congrArg Prod.fst holdings⟩

end Goes

/-- Whose the streams of a session are. `trips` says what it has held with the destinations that it
was handed, the latest first. -/
structure Actor.Owns (p : Proxy) (owner : StreamId → ActorId × Role) (id : ActorId)
    (trips : List Ends) (a : Actor) : Prop where
  tidy : a.Tidy p (trips.reverse.map Prod.snd)
  origin : ∀ k ∈ trips, ∀ s, k.1 = some s → s ∈ a.sources
  current : ∀ k earlier, trips = k :: earlier → a.destination ≠ none → k.1 = a.source
  sources : ∀ s ∈ a.sources, owner s = (id, .source)
  destinations : ∀ k ∈ trips, owner k.2 = (id, .destination)

/-- Every stream that was given to a session has one owner and one role. -/
structure Proxy.Owned (p : Proxy) (trips : ActorId → List Ends) : Prop where
  absent : ∀ id, p.actor? id = none → trips id = []
  present : ∃ owner, ∀ id a, p.actor? id = some a → a.Owns p owner id (trips id)

namespace Actor.Owns

variable {may : Deed → Prop} {p q : Proxy} {owner later : StreamId → ActorId × Role} {id : ActorId}
  {trips : List Ends} {a b : Actor} {s : StreamId} {k : Ends}

theorem source_opened (h : a.Owns p owner id trips) (hs : s ∈ a.sources) : (p.stream? s).isSome :=
  h.tidy.sources.opened s hs

theorem destination_opened (h : a.Owns p owner id trips) (hk : k ∈ trips) :
    (p.stream? k.2).isSome :=
  h.tidy.destinations.opened k.2 (List.mem_map_of_mem (List.mem_reverse.mpr hk))

theorem source_mem (h : a.Owns p owner id trips) (hs : a.source = some s) : s ∈ a.sources :=
  List.mem_of_getLast? (h.tidy.sources.last s hs)

/-- No source is a destination. -/
theorem source_ne_destination (h : a.Owns p owner id trips) (hs : s ∈ a.sources) (hk : k ∈ trips) :
    s ≠ k.2 := by
  rintro rfl
  have hrole := (h.sources _ hs).symm.trans (h.destinations k hk)
  cases hrole

/-- A new session owns its source. -/
theorem start {number : SessionId} {name ruleList : String} {metadata : Json}
    (running : b.running = .ofSession (.create number name ruleList metadata))
    (held : b.holdings = (some s, none, [s])) (new : p.stream? s = none)
    (opened : q.stream? s = some .fresh) (owned : later s = (id, .source)) : b.Owns q later id [] := by
  refine ⟨.start running held new opened, nofun, nofun, fun t ht => ?_, nofun⟩
  rw [show b.sources = [s] from congrArg (·.2.2) held, List.mem_singleton] at ht
  exact ht ▸ owned

/-- A session goes on, and no stream that was there changes its owner. -/
theorem goOn {handed : Option StreamId} (h : a.Owns p owner id trips)
    (goes : Goes may p q a b handed) (streams : p.Streams Duplex.Lasts q)
    (old : ∀ s, (p.stream? s).isSome → later s = owner s)
    (sources : ∀ s ∈ b.sources, s ∉ a.sources → later s = (id, .source))
    (destination : ∀ d, handed = some d → later d = (id, .destination)) :
    b.Owns q later id ((handed.map fun d => (a.source, d)).toList ++ trips) := by
  have htidy := goes.tidy streams h.tidy
  have hsources : ∀ s ∈ a.sources, s ∈ b.sources := by
    intro s hs
    rcases goes.sources_cases with hsame | ⟨-, t, hmore, -⟩
    · rwa [hsame]
    · rw [hmore]
      exact List.mem_append_left _ hs
  have howned : ∀ s ∈ b.sources, later s = (id, .source) := by
    intro s hs
    by_cases hbefore : s ∈ a.sources
    · rw [old s (h.source_opened hbefore)]
      exact h.sources s hbefore
    · exact sources s hs hbefore
  have hbefore : ∀ k ∈ trips, later k.2 = (id, .destination) := by
    intro k hk
    rw [old k.2 (h.destination_opened hk)]
    exact h.destinations k hk
  have horigin : ∀ k ∈ trips, ∀ s, k.1 = some s → s ∈ b.sources :=
    fun k hk s hs => hsources s (h.origin k hk s hs)
  cases handed with
  | none =>
    rw [Option.toList_none, List.append_nil] at htidy
    refine ⟨htidy, horigin, fun k earlier hk holds => ?_, howned, hbefore⟩
    obtain ⟨hheld, hsource⟩ := goes.source_eq h.tidy.fitting holds
    exact (h.current k earlier hk hheld).trans hsource.symm
  | some d =>
    obtain ⟨-, -, hsource, -⟩ := goes.handed_new
    refine ⟨?_, fun k hk => ?_, fun k earlier hk _ => ?_, howned, fun k hk => ?_⟩
    · simpa using htidy
    · rcases List.mem_cons.mp hk with rfl | hk
      · exact fun s hs => hsources s (h.source_mem hs)
      · exact horigin k hk
    · obtain ⟨rfl, -⟩ := List.cons.inj hk
      exact hsource.symm
    · rcases List.mem_cons.mp hk with rfl | hk
      · exact destination d rfl
      · exact hbefore k hk

end Actor.Owns

namespace Proxy.Owned

/-- However the sessions go on, each stream has one owner. -/
theorem turns {may : Deed → Prop} {p q : Proxy} {handed : ActorId → Option StreamId}
    {trips trips' : ActorId → List Ends} (h : p.Owned trips)
    (hturns : p.Turns Duplex.Lasts may handed q)
    (given : ∀ id a, p.actor? id = some a →
      trips' id = ((handed id).map fun d => (a.source, d)).toList ++ trips id)
    (ungiven : ∀ id, p.actor? id = none → trips' id = trips id) : q.Owned trips' := by
  obtain ⟨owner, howner⟩ := h.present
  obtain ⟨i, halone⟩ := hturns.alone
  have habsent (id : ActorId) (hnone : p.actor? id = none) : trips' id = [] :=
    (ungiven id hnone).trans (h.absent id hnone)
  refine ⟨fun id hnone => ?_, ?_⟩
  · cases ha : p.actor? id with
    | none => exact habsent id ha
    | some a =>
      obtain ⟨b, hb, -⟩ := hturns.old id a ha
      rw [hb] at hnone
      cases hnone
  -- a stream that is new is given to the one session that can be given any
  let later (s : StreamId) : ActorId × Role :=
    if (p.stream? s).isSome then owner s
    else (i, if handed i = some s then .destination else .source)
  have hold (s : StreamId) (opened : (p.stream? s).isSome) : later s = owner s := if_pos opened
  have hnew (s : StreamId) (new : p.stream? s = none) :
      later s = (i, if handed i = some s then .destination else .source) :=
    if_neg (by simp [new])
  refine ⟨later, fun id b hb => ?_⟩
  have hid (gets : handed id ≠ none ∨ ∀ a, p.actor? id = some a → b.sources ≠ a.sources) :
      id = i := by
    refine Decidable.byContradiction fun hne => ?_
    obtain ⟨hnone, hothers⟩ := halone id hne
    obtain ⟨a, ha, hsame⟩ := hothers b hb
    exact gets.elim (fun h => h hnone) fun h => h a ha hsame
  cases ha : p.actor? id with
  | none =>
    obtain ⟨hhanded, number, name, ruleList, metadata, s, running, held, new, opened⟩ :=
      hturns.new id b ha hb
    rw [habsent id ha]
    refine .start running held new opened ?_
    rw [hnew s new, ← hid (.inr (by simp [ha])), hhanded, if_neg nofun]
  | some a =>
    obtain ⟨b', hb', goes⟩ := hturns.old id a ha
    rw [hb, Option.some_inj] at hb'
    subst hb'
    rw [given id a ha]
    refine (howner id a ha).goOn goes hturns.streams hold (fun s hs hbefore => ?_) fun d hd => ?_
    · rcases goes.sources_cases with hsame | ⟨hhanded, t, hmore, new, -⟩
      · exact absurd (hsame ▸ hs) hbefore
      · have hgiven : b.sources ≠ a.sources := fun hsame => hbefore (hsame ▸ hs)
        rw [hmore, List.mem_append, List.mem_singleton] at hs
        rw [hs.resolve_left hbefore, hnew t new, ← hid (.inr ?_), hhanded, if_neg nofun]
        intro a' ha'
        rw [ha, Option.some_inj] at ha'
        exact ha' ▸ hgiven
    · rw [hd] at goes
      obtain ⟨new, -⟩ := goes.handed_new
      rw [hnew d new, ← hid (.inl (by simp [hd])), hd, if_pos rfl]

end Proxy.Owned

end Switchboard

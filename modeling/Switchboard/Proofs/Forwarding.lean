/-
Bytes are forwarded in order and never twice.

Whatever happens between two moves of a copy loop, what was sent into a stream is what was taken from
it and what is still under way, and what was taken is what was passed on and the rest of one chunk.

* `Copy.CutShort`: what a pipe that is torn down may leave unsent;
* `Traffic.Accounts`: the bytes of one session, counted at each of its streams;
* `Traffic.Sound`: the accounts of all sessions, which every act keeps;
* `run_forwarding`: what went through the pipes of a session, in any run.
-/
import Mathlib.Algebra.Order.BigOperators.Group.List
import Mathlib.Algebra.Order.Ring.Nat
import Switchboard.Proofs.Proxy.Refinement

namespace Switchboard

/-- What the pipes on a source have let through, in order. The latest pipe comes first in the list. -/
def Crossing.through (part : Crossing → List UInt8) (s : StreamId) (ks : List Crossing) :
    List UInt8 :=
  ((ks.reverse.filter fun k => k.source = some s).map part).flatten

/-- Of what a loop has read, all is passed on but the end of the one chunk in flight. -/
def Copy.CutShort (c : Copy) : Prop :=
  ∃ missing, c.taken = c.given ++ missing ∧ missing <:+ c.inFlight ∧ c.inFlight <:+ c.taken ∧
    c.inFlight.length ≤ 8192

theorem Copy.Small.cutShort {c : Copy} (h : c.Small) : c.CutShort :=
  ⟨c.phase.left, c.taken_eq, List.suffix_append _ _, List.suffix_append _ _, h⟩

namespace Crossing

variable {part : Crossing → List UInt8} {s : StreamId} {k : Crossing} {ks : List Crossing}

theorem through_cons_of_eq (h : k.source = some s) :
    through part s (k :: ks) = through part s ks ++ part k := by
  simp [through, List.filter_append, h]

theorem through_cons_of_ne (h : k.source ≠ some s) :
    through part s (k :: ks) = through part s ks := by
  simp [through, List.filter_append, h]

theorem through_eq_nil (h : ∀ k ∈ ks, k.source ≠ some s) : through part s ks = [] := by
  induction ks with
  | nil => rfl
  | cons k rest ih =>
    rw [through_cons_of_ne (h k List.mem_cons_self),
      ih fun k hk => h k (List.mem_cons_of_mem _ hk)]

end Crossing

namespace Traffic

/-- What has gone through the pipes `ks` of a session goes with what has gone through its streams, and
with what the session has counted. -/
structure Accounts (t : Traffic) (ks : List Crossing) (a : Actor) : Prop where
  sources : ∀ s ∈ a.sources, t.Balanced s (Crossing.through (·.inward.taken) s ks)
    (Crossing.through (·.outward.given) s ks)
  unsent : ∀ s ∈ a.sources, (t.logs s).before = []
  destinations : ∀ k ∈ ks, t.Balanced k.destination k.outward.taken k.inward.given
  small : ∀ k ∈ ks, k.inward.Small ∧ k.outward.Small
  bytesIn : a.session.bytesIn = (ks.map (·.inward.whole.length)).sum
  bytesOut : a.session.bytesOut = (ks.map (·.outward.whole.length)).sum
  closing : ∀ k ∈ ks, k.outward.phase = .closing → t.Drained k.destination
  clean : ∀ k ∈ ks, k.ended = some Span.destinationEnd →
    k.outward.phase = .reading ∧ t.Drained k.destination

namespace Accounts

variable {t : Traffic} {x : Act} {ks : List Crossing} {a b : Actor}

/-- A session that has had no pipe has counted nothing. -/
theorem nil (sources : ∀ s ∈ a.sources, t.Balanced s [] [])
    (unsent : ∀ s ∈ a.sources, (t.logs s).before = []) (bytesIn : a.session.bytesIn = 0)
    (bytesOut : a.session.bytesOut = 0) : t.Accounts [] a :=
  ⟨sources, unsent, nofun, nofun, bytesIn, bytesOut, nofun, nofun⟩

/-- A pipe begins. -/
theorem start {source : Option StreamId} {d : StreamId} (h : t.Accounts ks a)
    (new : t.Balanced d [] []) : t.Accounts (.start source d :: ks) a where
  sources s hs := by
    by_cases hsource : source = some s
    · rw [Crossing.through_cons_of_eq hsource, Crossing.through_cons_of_eq hsource]
      simpa [Crossing.start, Copy.start, Copy.taken, Copy.given, Copy.inFlight, Phase.done,
        Phase.left] using h.sources s hs
    · rw [Crossing.through_cons_of_ne hsource, Crossing.through_cons_of_ne hsource]
      exact h.sources s hs
  unsent := h.unsent
  destinations := List.forall_mem_cons.mpr ⟨new, h.destinations⟩
  small := List.forall_mem_cons.mpr ⟨⟨Copy.small_start, Copy.small_start⟩, h.small⟩
  bytesIn := h.bytesIn.trans (Nat.zero_add _).symm
  bytesOut := h.bytesOut.trans (Nat.zero_add _).symm
  closing := List.forall_mem_cons.mpr ⟨nofun, h.closing⟩
  clean := List.forall_mem_cons.mpr ⟨nofun, h.clean⟩

/-- An act that is no move of a loop leaves the accounts, whatever else it does to the session. -/
theorem apply (h : t.Accounts ks a) (quiet : x.isMove = false)
    (standing : b.session.standing = a.session.standing)
    (sources : ∀ s ∈ b.sources, s ∈ a.sources ∨ t.proxy.stream? s = none ∧
      (t.apply x).proxy.stream? s = some .fresh ∧ ∀ k ∈ ks, k.source ≠ some s) :
    (t.apply x).Accounts ks b where
  sources s hs := by
    rcases sources s hs with hold | ⟨new, opened, hunused⟩
    · exact (h.sources s hold).apply quiet
    · rw [Crossing.through_eq_nil hunused, Crossing.through_eq_nil hunused]
      exact balanced_of_new quiet new (by rw [opened]; rfl)
  unsent s hs := by
    rcases sources s hs with hold | ⟨new, opened, -⟩
    · obtain ⟨stream, hstream, -⟩ := h.sources s hold
      exact (t.before_apply x (by rw [hstream]; rfl)).trans (h.unsent s hold)
    · rw [logs_of_new quiet new opened]
      rfl
  destinations k hk := (h.destinations k hk).apply quiet
  small := h.small
  bytesIn := (congrArg (·.2.1) standing).trans h.bytesIn
  bytesOut := (congrArg (·.2.2) standing).trans h.bytesOut
  closing k hk hphase := (h.closing k hk hphase).apply quiet
  clean k hk hended := ⟨(h.clean k hk hended).1, (h.clean k hk hended).2.apply quiet⟩

end Accounts

section Moves

variable {t : Traffic} {id : ActorId} {g : Passage} {owner : StreamId → ActorId × Role} {way : Way}
  {m : Copy.Move} {y : Span} {ended : Option Pipe.End} {i o : Copy.Load}

/-- What a move takes from the source and gives it is added to what has gone through before. The other
sources stay as they are. -/
theorem balanced_sources (h : t.Carrying id g) (howns : g.actor.Owns t.proxy owner id (t.trips id))
    (hstep : g.span.step way m = .went y ended) (hmoves : g.span.Moves i o y) {s : StreamId}
    (hs : s ∈ g.actor.sources)
    (hbalanced : t.Balanced s (Crossing.through (·.inward.taken) s (t.crossings id))
      (Crossing.through (·.outward.given) s (t.crossings id))) :
    (t.apply (.move id way m)).Balanced s
      (Crossing.through (·.inward.taken) s (g.record y ended :: g.earlier))
      (Crossing.through (·.outward.given) s (g.record y ended :: g.earlier)) := by
  obtain ⟨hsource, -⟩ := ends_of_carrying h howns
  rw [h.crossings] at hbalanced
  by_cases hs' : s = g.source
  · subst hs'
    have hsource' : (g.record y ended).source = some g.source := hsource
    rw [Crossing.through_cons_of_eq hsource, Crossing.through_cons_of_eq hsource] at hbalanced
    rw [Crossing.through_cons_of_eq hsource', Crossing.through_cons_of_eq hsource']
    have hafter := balanced_source h (h.apart howns) hstep hmoves hbalanced
    rwa [List.append_assoc, List.append_assoc, ← h.inward, ← h.outward, ← hmoves.inward.taken,
      ← hmoves.outward.given] at hafter
  · have hother : g.crossing.source ≠ some s := by
      rw [hsource]
      exact fun heq => hs' (Option.some.inj heq).symm
    have hother' : (g.record y ended).source ≠ some s := hother
    rw [Crossing.through_cons_of_ne hother, Crossing.through_cons_of_ne hother] at hbalanced
    rw [Crossing.through_cons_of_ne hother', Crossing.through_cons_of_ne hother']
    exact balanced_of_ne h (h.apart howns) hstep hbalanced hs' ((apart_of_carrying h howns).1 s hs)

theorem balanced_destinations (h : t.Carrying id g)
    (howns : g.actor.Owns t.proxy owner id (t.trips id))
    (hstep : g.span.step way m = .went y ended) (hmoves : g.span.Moves i o y)
    (hall : ∀ k ∈ t.crossings id, t.Balanced k.destination k.outward.taken k.inward.given) :
    ∀ k ∈ g.record y ended :: g.earlier,
      (t.apply (.move id way m)).Balanced k.destination k.outward.taken k.inward.given := by
  obtain ⟨-, hdestination⟩ := ends_of_carrying h howns
  rw [h.crossings, List.forall_mem_cons, hdestination] at hall
  refine List.forall_mem_cons.mpr ⟨?_, fun k hk => ?_⟩
  · have hafter := balanced_destination h (h.apart howns) hstep hmoves hall.1
    rwa [← h.inward, ← h.outward, ← hmoves.outward.taken, ← hmoves.inward.given,
      ← hdestination] at hafter
  · obtain ⟨hsource', hdestination'⟩ := (apart_of_carrying h howns).2 k hk
    exact balanced_of_ne h (h.apart howns) hstep (hall.2 k hk) hsource' hdestination'

/-- A destination that has ended writing has done so after a move. -/
theorem drained_destinations (h : t.Carrying id g)
    (howns : g.actor.Owns t.proxy owner id (t.trips id))
    (hstep : g.span.step way m = .went y ended) (hmoves : g.span.Moves i o y) {k : Crossing}
    (hk : k ∈ t.crossings id) (hdrained : t.Drained k.destination) :
    (t.apply (.move id way m)).Drained k.destination := by
  obtain ⟨-, hdestination⟩ := ends_of_carrying h howns
  rw [h.crossings, List.mem_cons] at hk
  rcases hk with rfl | hk
  · obtain ⟨d, hd, hdone⟩ := hdrained
    rw [hdestination] at hd ⊢
    cases hd.symm.trans h.destinationStream
    exact drained_destination h (h.apart howns) hstep hmoves hdone
  · obtain ⟨hsource', hdestination'⟩ := (apart_of_carrying h howns).2 k hk
    exact drained_of_ne h (h.apart howns) hstep hdrained hsource' hdestination'

/-- A move of a loop is entered into the accounts of its session. -/
theorem Accounts.move {b : Actor} (haccounts : t.Accounts (t.crossings id) g.actor)
    (h : t.Carrying id g) (howns : g.actor.Owns t.proxy owner id (t.trips id))
    (hstep : g.span.step way m = .went y ended) (bytesIn : b.session.bytesIn = y.bytesIn)
    (bytesOut : b.session.bytesOut = y.bytesOut) (sources : b.sources = g.actor.sources) :
    (t.apply (.move id way m)).Accounts (g.record y ended :: g.earlier) b := by
  have hcarried := g.span.carried_step way m
  rw [hstep] at hcarried
  obtain ⟨⟨i, o, hmoves⟩, -, hclean⟩ := hcarried
  have hdestination : (g.record y ended).destination = g.destination :=
    (ends_of_carrying h howns).2
  have hdrained := @drained_destinations t id g owner way m y ended i o h howns hstep hmoves
  have hmem : g.crossing ∈ t.crossings id ∧ ∀ k ∈ g.earlier, k ∈ t.crossings id := by
    rw [h.crossings]
    exact ⟨List.mem_cons_self, fun _ => List.mem_cons_of_mem _⟩
  -- the loop from the destination closes only after it has seen the end, with nothing left to read
  have hclosing (hphase : g.span.outward.phase = .closing) :
      (t.apply (.move id way m)).Drained g.destination := by
    have hdone := haccounts.closing _ hmem.1 (h.outward ▸ hphase)
    exact (ends_of_carrying h howns).2 ▸ hdrained hmem.1 hdone
  refine ⟨fun s hs => ?_, fun s hs => ?_,
    balanced_destinations h howns hstep hmoves haccounts.destinations, ?_, ?_, ?_, ?_, ?_⟩
  · rw [sources] at hs
    exact balanced_sources h howns hstep hmoves hs (haccounts.sources s hs)
  · rw [apply_move h hstep]
    exact haccounts.unsent s (sources ▸ hs)
  · have hsmall := haccounts.small _ hmem.1
    refine List.forall_mem_cons.mpr ⟨⟨?_, ?_⟩, fun k hk => haccounts.small k (hmem.2 k hk)⟩
    · exact hmoves.inward.small (h.inward ▸ hsmall.1)
    · exact hmoves.outward.small (h.outward ▸ hsmall.2)
  · -- what is counted is what went through whole, in this pipe and those before it
    have hwhole := hmoves.inward.whole
    have hbefore := haccounts.bytesIn
    rw [h.crossings, List.map_cons, List.sum_cons] at hbefore
    rw [h.inward] at hwhole
    rw [List.map_cons, List.sum_cons, bytesIn, hmoves.bytesIn, h.bytesIn, hbefore]
    show _ = y.inward.whole.length + _
    omega
  · have hwhole := hmoves.outward.whole
    have hbefore := haccounts.bytesOut
    rw [h.crossings, List.map_cons, List.sum_cons] at hbefore
    rw [h.outward] at hwhole
    rw [List.map_cons, List.sum_cons, bytesOut, hmoves.bytesOut, h.bytesOut, hbefore]
    show _ = y.outward.whole.length + _
    omega
  · refine List.forall_mem_cons.mpr ⟨fun hphase => ?_, fun k hk hphase => ?_⟩
    · rw [hdestination]
      rcases hmoves.closing hphase with hbefore | hdone
      · exact hclosing hbefore
      · exact drained_destination h (h.apart howns) hstep hmoves hdone
    · exact hdrained (hmem.2 k hk) (haccounts.closing k (hmem.2 k hk) hphase)
  · refine List.forall_mem_cons.mpr ⟨fun hended => ?_, fun k hk hended => ?_⟩
    · obtain ⟨hbefore, hreading⟩ := hclean hended
      rw [hdestination]
      exact ⟨hreading, hclosing hbefore⟩
    · obtain ⟨hreading, hdone⟩ := haccounts.clean k (hmem.2 k hk) hended
      exact ⟨hreading, hdrained (hmem.2 k hk) hdone⟩

/-- A move is no matter of the other sessions. -/
theorem Accounts.others {j : ActorId} {a : Actor} (haccounts : t.Accounts (t.crossings j) a)
    (h : t.Carrying id g) (howns : g.actor.Owns t.proxy owner id (t.trips id)) (hj : j ≠ id)
    (hothers : a.Owns t.proxy owner j (t.trips j))
    (hstep : g.span.step way m = .went y ended) :
    (t.apply (.move id way m)).Accounts (t.crossings j) a := by
  obtain ⟨-, hdestination⟩ := ends_of_carrying h howns
  have apart := h.apart howns
  have hsource := howns.sources _ (howns.source_mem h.source)
  have hmine : owner g.destination = (id, .destination) := by
    rw [← hdestination]
    refine howns.destinations g.crossing.ends ?_
    rw [trips, h.crossings]
    exact List.mem_cons_self
  -- whatever belongs to another session is neither end of the pipe
  have hne {s : StreamId} {role : Role} (hs : owner s = (j, role)) :
      s ≠ g.source ∧ s ≠ g.destination := by
    refine ⟨fun heq => hj ?_, fun heq => hj ?_⟩
    · exact congrArg Prod.fst (hs.symm.trans (heq ▸ hsource))
    · exact congrArg Prod.fst (hs.symm.trans (heq ▸ hmine))
  have hdestinations (k : Crossing) (hk : k ∈ t.crossings j) :=
    hne (hothers.destinations k.ends (List.mem_map_of_mem hk))
  refine ⟨fun s hs => ?_, fun s hs => ?_, fun k hk => ?_, haccounts.small, haccounts.bytesIn,
    haccounts.bytesOut, fun k hk hphase => ?_, fun k hk hended => ?_⟩
  · have hapart := hne (hothers.sources s hs)
    exact balanced_of_ne h apart hstep (haccounts.sources s hs) hapart.1 hapart.2
  · rw [apply_move h hstep]
    exact haccounts.unsent s hs
  · have hapart := hdestinations k hk
    exact balanced_of_ne h apart hstep (haccounts.destinations k hk) hapart.1 hapart.2
  · have hapart := hdestinations k hk
    exact drained_of_ne h apart hstep (haccounts.closing k hk hphase) hapart.1 hapart.2
  · have hapart := hdestinations k hk
    obtain ⟨hreading, hdone⟩ := haccounts.clean k hk hended
    exact ⟨hreading, drained_of_ne h apart hstep hdone hapart.1 hapart.2⟩

end Moves

/-! ### Runs -/

/-- Every stream has one owner, and the accounts of every session are right. -/
structure Sound (t : Traffic) : Prop where
  owned : t.proxy.Owned t.trips
  accounts : ∀ id a, t.proxy.actor? id = some a → t.Accounts (t.crossings id) a

theorem sound_fresh (strict : Bool) : (fresh strict).Sound := by
  refine ⟨owned_fresh strict, fun id a ha => ?_⟩
  simp [fresh, proxy, Scene.ofProxy, Proxy.fresh, Proxy.actor?] at ha

namespace Sound

variable {t : Traffic}

/-- Whatever happens besides the moves of the loops, the accounts stay right. -/
theorem accounts_of_quiet (h : t.Sound) {x : Act} (quiet : x.isMove = false) {id : ActorId}
    {b : Actor} (hb : (t.apply x).proxy.actor? id = some b) :
    (t.apply x).Accounts ((t.apply x).crossings id) b := by
  have hturns := t.apply_turns x
  cases ha : t.proxy.actor? id with
  | none =>
    obtain ⟨-, number, name, ruleList, metadata, s, running, held, new, opened⟩ :=
      hturns.new id b ha hb
    have hnone : (t.apply x).crossings id = [] := by
      have hends := (t.ends_apply_of_absent x ha).trans (h.owned.absent id ha)
      exact List.map_eq_nil_iff.mp hends
    rw [hnone]
    have hsource (s' : StreamId) (hs' : s' ∈ b.sources) : s' = s := by
      rwa [show b.sources = [s] from congrArg (·.2.2) held, List.mem_singleton] at hs'
    refine .nil (fun s' hs' => ?_) (fun s' hs' => ?_) ?_ ?_
    · exact hsource s' hs' ▸ balanced_of_new quiet new (by rw [opened]; rfl)
    · rw [hsource s' hs', logs_of_new quiet new opened]
      rfl
    · rw [Actor.session, running]
      rfl
    · rw [Actor.session, running]
      rfl
  | some a =>
    obtain ⟨owner, howner⟩ := h.owned.present
    have howns := howner id a ha
    obtain ⟨b', hb', goes⟩ := hturns.old id a ha
    rw [hb, Option.some_inj] at hb'
    subst hb'
    have hcalm : ¬x.may .forward := by
      cases x with
      | move j way m => cases quiet
      | _ => exact fun h => by cases h
    have haccounts : (t.apply x).Accounts (t.crossings id) b := by
      refine (h.accounts id a ha).apply quiet (goes.standing hcalm) fun s hs => ?_
      rcases goes.sources_cases with hsame | ⟨-, s', hmore, new, opened⟩
      · exact .inl (hsame ▸ hs)
      · rw [hmore, List.mem_append, List.mem_singleton] at hs
        refine hs.imp_right ?_
        rintro rfl
        -- no pipe was on a source that is new
        refine ⟨new, opened, fun k hk hsource => ?_⟩
        have hopened := howns.source_opened (howns.origin k.ends (List.mem_map_of_mem hk) s hsource)
        rw [new] at hopened
        cases hopened
    rw [t.crossings_apply quiet ha]
    cases hhanded : t.handedOut x id with
    | none => exact haccounts
    | some d =>
      rw [hhanded] at goes
      obtain ⟨new, opened, -⟩ := goes.handed_new
      exact haccounts.start (balanced_of_new quiet new opened)

theorem accounts_of_move (h : t.Sound) (j : ActorId) (way : Way) (m : Copy.Move) {id : ActorId}
    {b : Actor} (hb : (t.apply (.move j way m)).proxy.actor? id = some b) :
    (t.apply (.move j way m)).Accounts ((t.apply (.move j way m)).crossings id) b := by
  have hsame (heq : t.apply (.move j way m) = t) :
      (t.apply (.move j way m)).Accounts ((t.apply (.move j way m)).crossings id) b := by
    rw [heq] at hb ⊢
    exact h.accounts id b hb
  cases hpassage : t.passage? j with
  | none => exact hsame (by rw [apply, hpassage])
  | some g =>
    have hcarrying := passage?_eq_some_iff.mp hpassage
    obtain ⟨owner, howner⟩ := h.owned.present
    have howns := howner j g.actor hcarrying.actor
    cases hstep : g.span.step way m with
    | idle => exact hsame (apply_move_of_idle hcarrying hstep)
    | went y ended =>
      have hproxy : (t.apply (.move j way m)).proxy = g.after j t.proxy (.went y ended) := by
        rw [apply_move hcarrying hstep]
        rfl
      have hcrossings : (t.apply (.move j way m)).crossings id =
          if id = j then g.record y ended :: g.earlier else t.crossings id := by
        rw [apply_move hcarrying hstep]
      rw [hcrossings]
      rw [hproxy] at hb
      split
      · next hid =>
        subst hid
        obtain ⟨b', hb', hbytesIn, hbytesOut, hsources, -⟩ := exists_actor_after hcarrying y ended
        rw [hb, Option.some_inj] at hb'
        subst hb'
        exact (h.accounts id g.actor hcarrying.actor).move hcarrying howns hstep hbytesIn hbytesOut
          hsources
      · next hid =>
        rw [actor?_after_of_ne g t.proxy _ hid] at hb
        exact (h.accounts id b hb).others hcarrying howns hid (howner id b hb) hstep

theorem apply (h : t.Sound) (x : Act) : (t.apply x).Sound where
  owned := owned_apply h.owned x
  accounts id b hb := by
    cases hmove : x.isMove with
    | false => exact h.accounts_of_quiet hmove hb
    | true =>
      cases x with
      | move j way m => exact h.accounts_of_move j way m hb
      | _ => cases hmove

end Sound

theorem run_sound (strict : Bool) (acts : List Act) : (run acts (fresh strict)).Sound :=
  run_invariant (fun _ x h => h.apply x) acts (sound_fresh strict)

/-- **Bytes are forwarded in order and never twice.** Whatever happens between the moves of the copy
loops, and every run of the proxy is one of these runs: what was sent into a source is what its
pipes have taken, one after the other, and what is still to be read; what was sent by a destination is
what its one pipe has taken, and what is still to be read. Of what a pipe has taken, all is passed on
but the end of the one chunk in flight. If the destination has closed, nothing that it had sent is
missing, and no bytes are counted that were not passed on. -/
theorem run_forwarding (strict : Bool) (acts : List Act) :
    (∀ steps, ∃ moves, (run moves (fresh strict)).scene =
      Scene.run steps (.ofProxy (.fresh strict))) ∧
    let t := run acts (fresh strict)
    ∀ id a, t.proxy.actor? id = some a →
      let pipes := (t.crossings id).reverse
      (∀ d, a.destination = some d → pipes.getLast?.map Crossing.ends = some (a.source, d)) ∧
      (pipes.map Crossing.destination).Nodup ∧
      (∀ s ∈ a.sources, ∃ stream, t.proxy.stream? s = some stream ∧
        let mine := pipes.filter fun k => k.source = some s
        (t.logs s).sent = (mine.map fun k => k.inward.taken).flatten ++ stream.inbound ∧
        (t.logs s).got ++ stream.outbound = (mine.map fun k => k.outward.given).flatten) ∧
      (∀ k ∈ pipes, ∃ stream, t.proxy.stream? k.destination = some stream ∧
        (t.logs k.destination).sent = k.outward.taken ++ stream.inbound ∧
        (t.logs k.destination).got ++ stream.outbound =
          (t.logs k.destination).before ++ k.inward.given ∧
        k.inward.CutShort ∧ k.outward.CutShort ∧
        (k.ended = some (.destination "destination closed") →
          (t.logs k.destination).sent = k.outward.given)) ∧
      a.session.bytesIn ≤ (pipes.map fun k => k.inward.given.length).sum ∧
      a.session.bytesOut ≤ (pipes.map fun k => k.outward.given.length).sum := by
  refine ⟨exists_run strict, ?_⟩
  intro t id a ha pipes
  have hsound : t.Sound := run_sound strict acts
  have haccounts := hsound.accounts id a ha
  obtain ⟨owner, howner⟩ := hsound.owned.present
  have howns := howner id a ha
  have hends : pipes.map Crossing.ends = (t.trips id).reverse := List.map_reverse
  have hgiven (part : Crossing → Copy) :
      ((t.crossings id).map fun k => (part k).whole.length).sum ≤
        (pipes.map fun k => (part k).given.length).sum := by
    rw [List.map_reverse, List.sum_reverse]
    exact List.sum_le_sum fun k _ => by simp [Copy.given]
  refine ⟨fun d hd => ?_, ?_, fun s hs => ?_, fun k hk => ?_, ?_, ?_⟩
  · obtain ⟨k, earlier, hcrossings⟩ := exists_crossing hsound.owned ha hd
    have htrips : t.trips id = k.ends :: earlier.map Crossing.ends := by
      rw [trips, hcrossings]
      rfl
    have hlast := howns.tidy.destinations.last d hd
    have hsource := howns.current _ _ htrips (by rw [hd]; exact Option.some_ne_none d)
    rw [htrips, List.reverse_cons, List.map_append, List.map_singleton, List.getLast?_concat] at hlast
    rw [show pipes = (k :: earlier).reverse from congrArg List.reverse hcrossings, List.reverse_cons,
      List.getLast?_concat, ← hsource, ← Option.some.inj hlast]
    rfl
  · have hnodup := howns.tidy.destinations.nodup
    rwa [← hends, List.map_map] at hnodup
  · obtain ⟨stream, hstream, hfits⟩ := haccounts.sources s hs
    have hgot := hfits.got
    rw [haccounts.unsent s hs] at hgot
    exact ⟨stream, hstream, hfits.sent, hgot⟩
  · rw [List.mem_reverse] at hk
    obtain ⟨stream, hstream, hfits⟩ := haccounts.destinations k hk
    obtain ⟨hinward, houtward⟩ := haccounts.small k hk
    refine ⟨stream, hstream, hfits.sent, hfits.got, hinward.cutShort, houtward.cutShort,
      fun hended => ?_⟩
    obtain ⟨hreading, d, hd, hdrained, -⟩ := haccounts.clean k hk hended
    rw [hstream, Option.some_inj] at hd
    rw [hfits.sent, hd, hdrained, Copy.taken_eq, hreading]
    simp [Phase.left]
  · exact haccounts.bytesIn.trans_le (hgiven Crossing.inward)
  · exact haccounts.bytesOut.trans_le (hgiven Crossing.outward)

/-- A destination fails after one byte of a chunk of three. What is sent later goes to the next one. -/
def cutOff : List Act :=
  ([.event (.operation (.addCluster
      (.ofFields [("name", "c"), ("spec", .ofFields [("protocol", "echo")])]))),
    .event (.operation (.addRule (.ofFields [("name", "r"), ("match", "*"),
      ("action", .ofFields [("route", .ofFields [("destination", "c"),
        ("retry", .ofFields [("retry_on", "always")])])])]))),
    .event (.operation (.addRuleList (.ofFields [("name", "main"), ("rules", .array ["r"])]))),
    .event (.dispatch (.ofFields [("name", "s")]) "main" none), .event (.step 0), .event (.step 0),
    .event (.far 0 (.send [1, 2, 3]))] : List Scene.Act).map .step ++
  [.move 0 .inward (.take 2), .move 0 .inward (.give 0), .step (.event (.far 1 (.failWrites "reset"))),
    .move 0 .inward (.give 0)] ++
  ([.event (.step 0), .event (.pass 2000 2000), .event (.timer 0), .event (.step 0),
    .event (.far 0 (.send [4]))] : List Scene.Act).map .step ++
  [.move 0 .inward (.take 0), .move 0 .inward (.give 0), .move 0 .inward (.flush none)]

theorem run_forwarding_cutOff :
    ∃ a stream, (run cutOff (fresh false)).proxy.actor? 0 = some a ∧
      (run cutOff (fresh false)).proxy.stream? 0 = some stream ∧
      ((run cutOff (fresh false)).logs 0).sent = [1, 2, 3] ++ [4] ++ stream.inbound ∧
      a.session.bytesIn ≤ 1 + 1 := by
  have hactor : ((run cutOff (fresh false)).proxy.actor? 0).map (·.sources) = some [0] := by
    decide +kernel
  have htaken : ((((run cutOff (fresh false)).crossings 0).reverse.filter fun k =>
      k.source = some 0).map fun k => k.inward.taken).flatten = [1, 2, 3] ++ [4] := by
    decide +kernel
  have hgiven : (((run cutOff (fresh false)).crossings 0).reverse.map fun k =>
      k.inward.given.length).sum = 1 + 1 := by
    decide +kernel
  obtain ⟨a, ha, hsources⟩ := Option.map_eq_some_iff.mp hactor
  obtain ⟨-, hall⟩ := run_forwarding false cutOff
  obtain ⟨-, -, hsource, -, hbytesIn, -⟩ := hall 0 a ha
  obtain ⟨stream, hstream, hsent, -⟩ := hsource 0 (by rw [hsources]; exact List.mem_cons_self)
  exact ⟨a, stream, ha, hstream, hsent.trans (congrArg (· ++ stream.inbound) htaken),
    hgiven ▸ hbytesIn⟩

end Traffic

end Switchboard

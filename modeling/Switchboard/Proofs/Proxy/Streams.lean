/-
What becomes of streams.

A stream that was opened stays there, and an end that was let go of stays so. Most steps leave the
bytes under way as they are. The lemmas here say so for the small functions that change streams.

* `Duplex.Stays`, `Duplex.Lasts`: what a stream keeps with its bytes, and without them;
* `Proxy.Streams`: no stream goes away, and each is related to what it becomes;
* `Proxy.LetGo`: the near end of a stream is let go of.
-/
import Switchboard.Proofs.Proxy.Frame

namespace Switchboard

/-! ### Streams -/

namespace Duplex

/-- The bytes under way are the same, and an end that was closed or let go of stays so. -/
structure Stays (s t : Duplex) : Prop where
  inbound : t.inbound = s.inbound
  outbound : t.outbound = s.outbound
  closed : s.farClosed = true → t.farClosed = true
  gone : s.nearGone = true → t.nearGone = true

/-- An end that was let go of stays so, whatever becomes of the bytes. -/
def Lasts (s t : Duplex) : Prop := s.nearGone = true → t.nearGone = true

theorem lasts_refl (s : Duplex) : s.Lasts s := id

theorem Lasts.trans {s t u : Duplex} (h : s.Lasts t) (h' : t.Lasts u) : s.Lasts u := h' ∘ h

theorem Stays.refl (s : Duplex) : s.Stays s := ⟨rfl, rfl, id, id⟩

theorem Stays.trans {s t u : Duplex} (h : s.Stays t) (h' : t.Stays u) : s.Stays u :=
  ⟨h'.inbound.trans h.inbound, h'.outbound.trans h.outbound, h'.closed ∘ h.closed,
    h'.gone ∘ h.gone⟩

theorem stays_drop (s : Duplex) : s.Stays s.drop := ⟨rfl, rfl, id, fun _ => rfl⟩

theorem lasts_write {s t : Duplex} {bytes : List UInt8} (h : s.write bytes = .ok t) :
    s.Lasts t := by
  unfold write at h
  split at h
  · cases h
  · split at h
    · cases h
    · cases h
      exact id

theorem lasts_shutdown {s t : Duplex} (h : s.shutdown = .ok t) : s.Lasts t := by
  unfold shutdown at h
  split at h
  · cases h
  · cases h
    exact id

theorem lasts_read (s : Duplex) : s.Lasts s.read.2 := by
  unfold read
  split
  · exact id
  · split <;> exact id

theorem lasts_echo {s t : Duplex} (h : s.echo = some t) : s.Lasts t := by
  unfold echo at h
  split at h
  · cases h
  · split at h
    · cases h
      exact id
    · split at h
      · cases h
        exact id
      · cases h

theorem lasts_act (action : FarAction) (s : Duplex) : s.Lasts (action.act s) := by
  cases action with
  | send bytes =>
    unfold FarAction.act send
    dsimp only
    split <;> rename_i heq
    · split at heq
      · cases heq
      · cases heq
        exact id
    · exact id
  | _ => exact id

end Duplex

namespace Proxy

/-- No stream goes away, and each one is related to what it becomes. -/
def Streams (R : Duplex → Duplex → Prop) (p q : Proxy) : Prop :=
  ∀ id s, p.stream? id = some s → ∃ t, q.stream? id = some t ∧ R s t

variable {R : Duplex → Duplex → Prop} {p q r : Proxy}

theorem Streams.of_eq (h : q.streams = p.streams) (refl : ∀ s, R s s) : p.Streams R q :=
  fun id s hs => ⟨s, by rwa [stream?, h], refl s⟩

theorem Streams.mono {R' : Duplex → Duplex → Prop} (h : p.Streams R q)
    (weaker : ∀ s t, R s t → R' s t) : p.Streams R' q := by
  intro id s hs
  obtain ⟨t, ht, hst⟩ := h id s hs
  exact ⟨t, ht, weaker s t hst⟩

theorem Streams.trans (h : p.Streams R q) (h' : q.Streams R r)
    (trans : ∀ s t u, R s t → R t u → R s u) : p.Streams R r := by
  intro id s hs
  obtain ⟨t, ht, hst⟩ := h id s hs
  obtain ⟨u, hu, htu⟩ := h' id t ht
  exact ⟨u, hu, trans s t u hst htu⟩

theorem stream?_changeStream (p : Proxy) (id : StreamId) (f : Duplex → Duplex) (j : StreamId) :
    (p.changeStream id f).stream? j = if id = j then (p.stream? j).map f else p.stream? j := by
  rw [stream?, changeStream, Array.getElem?_modify]
  rfl

theorem stream?_size (p : Proxy) : p.stream? p.streams.size = none := by
  simp [stream?]

/-- A stream is opened. -/
theorem Streams.of_push {s : Duplex} (h : q.streams = p.streams.push s) (refl : ∀ s, R s s) :
    p.Streams R q := by
  intro id t ht
  refine ⟨t, ?_, refl t⟩
  rw [stream?, h, Array.getElem?_push]
  split
  · next hid =>
    rw [hid, stream?_size] at ht
    cases ht
  · exact ht

theorem stream?_of_push {s : Duplex} (h : q.streams = p.streams.push s) :
    q.stream? p.streams.size = some s := by
  simp [stream?, h]

theorem isSome_stream?_of_push {s : Duplex} (h : q.streams = p.streams.push s) :
    (q.stream? p.streams.size).isSome := by
  rw [stream?_of_push h]
  rfl

theorem streams_changeStream (p : Proxy) (id : StreamId) {f : Duplex → Duplex}
    (hf : ∀ s, p.stream? id = some s → R s (f s)) (refl : ∀ s, R s s) :
    p.Streams R (p.changeStream id f) := by
  intro j s hs
  rw [stream?_changeStream]
  split
  · next hj =>
    subst hj
    exact ⟨f s, by rw [hs]; rfl, hf s hs⟩
  · exact ⟨s, hs, refl s⟩

/-- The near end of a stream is let go of. -/
def LetGo (p : Proxy) (id : StreamId) : Prop := ∃ s, p.stream? id = some s ∧ s.nearGone = true

theorem LetGo.streams {id : StreamId} (h : p.LetGo id) (hpq : p.Streams Duplex.Lasts q) :
    q.LetGo id := by
  obtain ⟨s, hs, hgone⟩ := h
  obtain ⟨t, ht, hlasts⟩ := hpq id s hs
  exact ⟨t, ht, hlasts hgone⟩

theorem streams_dropStream (p : Proxy) (id : Option StreamId) (refl : ∀ s, R s s)
    (drop : ∀ s, R s s.drop) : p.Streams R (p.dropStream id) := by
  cases id with
  | none => exact .of_eq rfl refl
  | some id => exact p.streams_changeStream id (fun s _ => drop s) refl

/-- Both ends of a pipe are stored. -/
theorem streams_changeBoth {source destination : StreamId} {s s' d d' : Duplex}
    (hs : p.stream? source = some s) (hd : p.stream? destination = some d) (hs' : R s s')
    (hd' : R d d') (refl : ∀ s, R s s) :
    p.Streams R ((p.changeStream source fun _ => s').changeStream destination fun _ => d') := by
  intro id t ht
  rw [stream?_changeStream, stream?_changeStream]
  split
  · next h =>
    subst h
    rw [hd, Option.some_inj] at ht
    subst ht
    refine ⟨d', ?_, hd'⟩
    rw [hd]
    split <;> rfl
  · split
    · next h =>
      subst h
      rw [hs, Option.some_inj] at ht
      subst ht
      exact ⟨s', by rw [hs]; rfl, hs'⟩
    · exact ⟨t, ht, refl t⟩

/-- A stream that is let go of is gone at once. -/
theorem letGo_dropStream {id : StreamId} (h : (p.stream? id).isSome) :
    (p.dropStream (some id)).LetGo id := by
  obtain ⟨s, hs⟩ := Option.isSome_iff_exists.mp h
  refine ⟨s.drop, ?_, rfl⟩
  rw [dropStream, stream?_changeStream, if_pos rfl, hs]
  rfl

end Proxy

end Switchboard

/-
What a write along a path leaves alone.

An array is seen as the object that its items make under their numbers. So every container has slots
with keys, a place in a document is a list of keys, and turning an array into an object moves
nothing. A segment takes one step at a container, whether the container stays what it is or not.

A write changes the slots on its trail and adds slots to at most one array. The key that another
segment means stays the same: a segment whose own spelling is no key means its canonical number, and
what a write stores has a canonical key or one that was there.

* `step`, `trail`: the keys that segments lead to;
* `find?_slots_put`: the slots of a container after a write of one segment;
* `objectKey_insert_of_isSome`, `child?_put`: what another segment finds afterwards;
* `Diverge`: two lists of segments that take different steps at a container they both reach;
* `set_leaves_alone`: **a write disturbs nothing else and pads at most one array**.
-/
import Switchboard.Proofs.Json.Lens
import Switchboard.Proofs.Number.Numeral

namespace Switchboard

namespace Path

/-! ### Slots of containers -/

/-- The parts of a container with their keys. The items of an array have their numbers for keys. -/
def slots : Json → Table Json
  | .object fields => fields
  | .array items => indexed items
  | _ => []

/-- The value at a place, which is a list of keys. -/
def at? (doc : Json) : List String → Option Json
  | [] => some doc
  | key :: rest => (Table.find? (slots doc) key).bind fun next => at? next rest

/-- The index that a segment is written at, if an array can keep its form. -/
def itemIndex? : Json → String → Option Nat
  | .array items, s => (Numeral.index? s).filter (· ≤ items.length + maxPadding)
  | _, _ => none

/-- The key that a segment leads to: an index, or else a key of the object that the container is or
is turned into. -/
def step (doc : Json) (s : String) : String :=
  match itemIndex? doc s with
  | some i => toString i
  | none => objectKey (slots doc) s

/-- The place that a write along the segments leads to. -/
def trail (doc : Json) : List String → List String
  | [] => []
  | s :: rest => step doc s :: trail ((Table.find? (slots doc) (step doc s)).getD .null) rest

/-- The two take different steps at a container that both reach. -/
inductive Diverge : Json → List String → List String → Prop
  | apart {doc : Json} {s t : String} {ps qs : List String} (hstep : step doc s ≠ step doc t) :
    Diverge doc (s :: ps) (t :: qs)
  | together {doc next : Json} {s t : String} {ps qs : List String} (hstep : step doc s = step doc t)
    (hnext : child? doc t = some next) (hrest : Diverge next ps qs) :
    Diverge doc (s :: ps) (t :: qs)

/-- All indices into arrays of the document are signed words, as they are in any memory. -/
def Indexable (doc : Json) : Prop :=
  doc.Throughout fun part => part.items.length ≤ Numeral.signed64 + 1

section

variable {doc next v u : Json} {items : List Json} {fields : Table Json} {s t key : String}
  {i j : Nat}

/-! ### Items under their numbers -/

theorem indexed_concat (items : List Json) (last : Json) :
    indexed (items ++ [last]) = Table.insert (indexed items) (toString items.length) last := by
  rw [indexed, List.zipIdx_append, List.map_append, Nat.zero_add]
  exact Table.ofList_concat _ _ _

theorem find?_indexed (items : List Json) (i : Nat) :
    Table.find? (indexed items) (toString i) = items[i]? := by
  induction items using List.reverseRecOn with
  | nil => rfl
  | append_singleton init last ih =>
    rw [indexed_concat]
    by_cases hi : i = init.length
    · rw [hi, Table.find?_insert_self, List.getElem?_concat_length]
    · rw [Table.find?_insert_of_ne (mt Numeral.toString_inj.mp hi), ih]
      rcases Nat.lt_or_gt_of_ne hi with hlt | hgt
      · rw [List.getElem?_append_left hlt]
      · rw [List.getElem?_eq_none (Nat.le_of_lt hgt), List.getElem?_eq_none]
        rw [List.length_append]
        exact hgt

theorem exists_of_find?_indexed (h : Table.find? (indexed items) key = some u) :
    ∃ i : Nat, key = toString i ∧ items[i]? = some u := by
  obtain ⟨⟨item, i⟩, hitem, heq⟩ :=
    List.mem_map.mp (Table.mem_of_mem_ofList (Table.mem_of_find? h))
  cases heq
  exact ⟨i, rfl, List.mem_zipIdx_iff_getElem?.mp hitem⟩

theorem find?_indexed_eq_none (h : ∀ i : Nat, key ≠ toString i) :
    Table.find? (indexed items) key = none := by
  cases hfind : Table.find? (indexed items) key with
  | none => rfl
  | some u =>
    obtain ⟨i, hi, -⟩ := exists_of_find?_indexed hfind
    exact absurd hi (h i)

/-! ### Keys that segments mean -/

/-- The key that a segment means is its own meaning. -/
theorem objectKey_objectKey (fields : Table Json) (s : String) :
    objectKey fields (objectKey fields s) = objectKey fields s := by
  by_cases hs : Table.has fields s = true
  · simp only [objectKey, if_pos hs]
  · cases hn : Numeral.integer? s with
    | none => simp only [objectKey, if_neg hs, hn]
    | some n => simp only [objectKey, if_neg hs, hn, Numeral.integer?_toString hn, ite_self]

/-- A segment that leads to a value means the same key after a write. -/
theorem objectKey_insert_of_isSome (h : (Table.find? fields (objectKey fields t)).isSome)
    (s : String) (v : Json) :
    objectKey (Table.insert fields (objectKey fields s) v) t = objectKey fields t := by
  by_cases hkey : objectKey fields t = t
  · rw [hkey] at h ⊢
    exact if_pos (Table.isSome_find?_insert v h)
  · have hfields : Table.has fields t ≠ true := fun h => hkey (if_pos h)
    have hne : t ≠ objectKey fields s := by
      rintro rfl
      exact hkey (objectKey_objectKey fields s)
    have hlater : Table.has (Table.insert fields (objectKey fields s) v) t ≠ true := by
      rwa [Table.has, Table.find?_insert_of_ne hne]
    rw [objectKey, if_neg hlater, objectKey, if_neg hfields]

/-- An index of an array is the same item once the array is an object. -/
theorem objectKey_indexed (hsize : items.length ≤ Numeral.signed64 + 1)
    (hi : Numeral.index? t = some i) (hlt : i < items.length) :
    objectKey (indexed items) t = toString i := by
  by_cases ht : Table.has (indexed items) t = true
  · obtain ⟨item, hitem⟩ := Option.isSome_iff_exists.mp ht
    obtain ⟨j, rfl, hj⟩ := exists_of_find?_indexed hitem
    obtain ⟨hlt, -⟩ := List.getElem?_eq_some_iff.mp hj
    have hword : j ≤ Numeral.word64 := by
      have : Numeral.signed64 ≤ Numeral.word64 := by decide
      omega
    rw [Numeral.index?_toString hword] at hi
    rw [objectKey, if_pos ht, Option.some.inj hi]
  · rw [objectKey, if_neg ht, Numeral.integer?_of_index? hi (by omega)]
    rfl

/-! ### A write of one segment -/

/-- What a write puts into the place of a container. -/
def put (doc : Json) (s : String) (v : Json) : Json := putChild (reshape doc s) s v

/-- An array with room for an index. -/
def grown (items : List Json) (i : Nat) : List Json :=
  items ++ List.replicate (i + 1 - items.length) .null

/-- The keys of the empty items that an array is filled up with. -/
def padding (doc : Json) (s : String) : List String :=
  match itemIndex? doc s with
  | some i => (List.range' doc.items.length (i - doc.items.length)).map toString
  | none => []

theorem itemIndex?_eq_some (h : itemIndex? doc s = some i) :
    Numeral.index? s = some i ∧ slots doc = indexed doc.items ∧
      i ≤ doc.items.length + maxPadding ∧ reshape doc s = .array (grown doc.items i) := by
  cases doc with
  | array items =>
    obtain ⟨hi, hfits⟩ := Option.filter_eq_some_iff.mp h
    have hfits : i ≤ items.length + maxPadding := by simpa using hfits
    refine ⟨hi, rfl, hfits, ?_⟩
    simp only [reshape, hi, if_pos hfits, grown, Json.items_array]
  | object _ | null | bool _ | number _ | string _ => cases h

theorem reshape_of_itemIndex?_eq_none (h : itemIndex? doc s = none) :
    reshape doc s = .object (slots doc) := by
  cases doc with
  | array items =>
    have hfits (i : Nat) (hi : Numeral.index? s = some i) : ¬ i ≤ items.length + maxPadding := by
      simpa using Option.filter_eq_none_iff.mp h i hi
    cases hi : Numeral.index? s with
    | none => simp only [reshape, hi, slots]
    | some i => simp only [reshape, hi, if_neg (hfits i hi), slots]
  | object _ | null | bool _ | number _ | string _ => rfl

theorem put_of_itemIndex? (h : itemIndex? doc s = some i) (v : Json) :
    put doc s v = .array ((grown doc.items i).set i v) := by
  obtain ⟨hi, -, -, hreshape⟩ := itemIndex?_eq_some h
  simp only [put, hreshape, putChild, hi]

theorem put_of_itemIndex?_eq_none (h : itemIndex? doc s = none) (v : Json) :
    put doc s v = .object (Table.insert (slots doc) (objectKey (slots doc) s) v) := by
  rw [put, reshape_of_itemIndex?_eq_none h, putChild]

theorem length_padding (doc : Json) (s : String) : (padding doc s).length ≤ maxPadding := by
  unfold padding
  split
  · next i hi =>
    have hfits := (itemIndex?_eq_some hi).2.2.1
    rw [List.length_map, List.length_range']
    omega
  · exact Nat.zero_le _

theorem getElem?_set_grown_self (items : List Json) (i : Nat) (v : Json) :
    ((grown items i).set i v)[i]? = some v := by
  apply List.getElem?_set_self
  rw [grown, List.length_append, List.length_replicate]
  omega

theorem getElem?_set_grown_of_ne (h : j ≠ i) (v : Json) :
    ((grown items i).set i v)[j]? =
      items[j]?.or (if items.length ≤ j ∧ j < i then some .null else none) := by
  rw [List.getElem?_set_ne (Ne.symm h), grown]
  rcases Nat.lt_or_ge j items.length with hlt | hge
  · rw [List.getElem?_append_left hlt, List.getElem?_eq_getElem hlt, Option.some_or]
  · rw [List.getElem?_append_right hge, List.getElem?_eq_none hge, Option.none_or,
      List.getElem?_replicate]
    have hiff : j - items.length < i + 1 - items.length ↔ items.length ≤ j ∧ j < i := by omega
    simp only [hiff]

theorem find?_slots_put_self (doc : Json) (s : String) (v : Json) :
    Table.find? (slots (put doc s v)) (step doc s) = some v := by
  cases hi : itemIndex? doc s with
  | none =>
    simp only [step, hi, put_of_itemIndex?_eq_none hi]
    exact Table.find?_insert_self ..
  | some i =>
    simp only [step, hi]
    rw [put_of_itemIndex? hi, slots, find?_indexed, getElem?_set_grown_self]

/-- The other slots stay, and those that an array is filled up with are empty. -/
theorem find?_slots_put_of_ne (h : key ≠ step doc s) (v : Json) :
    Table.find? (slots (put doc s v)) key =
      (Table.find? (slots doc) key).or (if key ∈ padding doc s then some .null else none) := by
  cases hi : itemIndex? doc s with
  | none =>
    simp only [step, hi] at h
    simp only [put_of_itemIndex?_eq_none hi, padding, hi, List.not_mem_nil, if_false, Option.or_none]
    exact Table.find?_insert_of_ne h ..
  | some i =>
    simp only [step, hi] at h
    simp only [padding, hi]
    rw [put_of_itemIndex? hi, (itemIndex?_eq_some hi).2.1, slots]
    by_cases hkey : ∃ j : Nat, key = toString j
    · obtain ⟨j, rfl⟩ := hkey
      have hj : j ≠ i := mt Numeral.toString_inj.mpr h
      have hmem : toString j ∈ (List.range' doc.items.length (i - doc.items.length)).map toString ↔
          doc.items.length ≤ j ∧ j < i := by
        simp only [List.mem_map, Numeral.toString_inj, exists_eq_right, List.mem_range'_1]
        omega
      simp only [find?_indexed, getElem?_set_grown_of_ne hj, hmem]
    · have hkey : ∀ j : Nat, key ≠ toString j := not_exists.mp hkey
      have hmem : key ∉ (List.range' doc.items.length (i - doc.items.length)).map toString := by
        rw [List.mem_map]
        rintro ⟨j, -, rfl⟩
        exact hkey j rfl
      rw [find?_indexed_eq_none hkey, find?_indexed_eq_none hkey, if_neg hmem, Option.none_or]

/-! ### What another segment finds -/

theorem step_of_index? (hi : Numeral.index? s = some i) (hlt : i < items.length) :
    step (.array items) s = toString i := by
  have hfits : i ≤ items.length + maxPadding := by omega
  simp [step, itemIndex?, hi, Option.filter_some, hfits]

/-- What is found is in the slot that the segment leads to. -/
theorem find?_slots_of_child? (h : child? doc s = some next) :
    Table.find? (slots doc) (step doc s) = some next := by
  unfold child? at h
  split at h
  · exact h
  · obtain ⟨i, hi, hitem⟩ := Option.bind_eq_some_iff.mp h
    obtain ⟨hlt, -⟩ := List.getElem?_eq_some_iff.mp hitem
    rw [step_of_index? hi hlt, slots, find?_indexed, hitem]
  · cases h

theorem child?_object_insert (h : Table.find? fields (objectKey fields t) = some next) (s : String)
    (v : Json) :
    child? (.object (Table.insert fields (objectKey fields s) v)) t =
      if objectKey fields s = objectKey fields t then some v else some next := by
  rw [child?, objectKey_insert_of_isSome (by rw [h]; rfl)]
  split
  · next heq => rw [heq, Table.find?_insert_self]
  · next hne => rw [Table.find?_insert_of_ne (Ne.symm hne), h]

/-- After a write of one segment another finds what it found, unless both take the same step. -/
theorem child?_put (hsize : doc.items.length ≤ Numeral.signed64 + 1) (h : child? doc t = some next)
    (s : String) (v : Json) :
    child? (put doc s v) t = if step doc s = step doc t then some v else some next := by
  have hslot := find?_slots_of_child? h
  cases doc with
  | object fields => exact child?_object_insert h s v
  | array items =>
    obtain ⟨i, hi, hitem⟩ := Option.bind_eq_some_iff.mp h
    obtain ⟨hlt, -⟩ := List.getElem?_eq_some_iff.mp hitem
    rw [step_of_index? hi hlt]
    cases hs : itemIndex? (.array items) s with
    | none =>
      have hkey : objectKey (indexed items) t = toString i := objectKey_indexed hsize hi hlt
      have hfind : Table.find? (indexed items) (objectKey (indexed items) t) = some next := by
        rw [hkey, find?_indexed, hitem]
      rw [put_of_itemIndex?_eq_none hs, step, hs, slots, child?_object_insert hfind, hkey]
    | some j =>
      rw [put_of_itemIndex? hs, step, hs, child?, hi, Option.bind_some]
      simp only [Numeral.toString_inj]
      split
      · next heq => rw [heq, getElem?_set_grown_self]
      · next hne => rw [getElem?_set_grown_of_ne (Ne.symm hne), Json.items_array, hitem, Option.some_or]
  | null | bool _ | number _ | string _ => cases h

/-! ### Writes along segments -/

/-- A write goes on below the slot that its first segment leads to. -/
theorem setAt_cons (doc : Json) (s : String) (rest : List String) (v : Json) :
    setAt doc (s :: rest) v =
      put doc s (setAt ((Table.find? (slots doc) (step doc s)).getD .null) rest v) := by
  have hbelow : (child? (reshape doc s) s).getD .null =
      (Table.find? (slots doc) (step doc s)).getD .null := by
    cases hi : itemIndex? doc s with
    | none => rw [reshape_of_itemIndex?_eq_none hi, step, hi, child?]
    | some i =>
      obtain ⟨hindex, hslots, -, hreshape⟩ := itemIndex?_eq_some hi
      rw [hreshape, child?, hindex, Option.bind_some, step, hi, hslots, find?_indexed, grown]
      rcases Nat.lt_or_ge i doc.items.length with hlt | hge
      · rw [List.getElem?_append_left hlt]
      · rw [List.getElem?_append_right hge, List.getElem?_eq_none hge, List.getElem?_replicate]
        split <;> rfl
  rw [setAt, hbelow, put]

/-- A write leaves alone what is reached by another step at some container. -/
theorem getAt_setAt_of_diverge (hdoc : Indexable doc) {ps qs : List String}
    (hdiverge : Diverge doc ps qs) (h : getAt doc qs = some u) :
    getAt (setAt doc ps v) qs = some u := by
  induction hdiverge with
  | apart hstep =>
    obtain ⟨next, hnext, h⟩ := Option.bind_eq_some_iff.mp h
    rw [setAt_cons, getAt, child?_put hdoc.here hnext, if_neg hstep]
    exact h
  | together hstep hnext _ ih =>
    rw [getAt, hnext] at h
    rw [setAt_cons, getAt, child?_put hdoc.here hnext, if_pos hstep, hstep,
      find?_slots_of_child? hnext]
    exact ih (hdoc.child? hnext) h

/-! ### Places that a write adds -/

/-- The places that a write fills up with empty items. -/
def padded (doc : Json) : List String → List (List String)
  | [] => []
  | s :: rest =>
    (padding doc s).map ([·]) ++
      (padded ((Table.find? (slots doc) (step doc s)).getD .null) rest).map (step doc s :: ·)

theorem padded_null (segs : List String) : padded .null segs = [] := by
  induction segs with
  | nil => rfl
  | cons s rest ih => exact congrArg (List.map _) ih

/-- An array that has the item is not filled up. -/
theorem padding_of_find? (h : Table.find? (slots doc) (step doc s) = some next) :
    padding doc s = [] := by
  rw [padding]
  split
  · next i hi =>
    simp only [step, hi, (itemIndex?_eq_some hi).2.1, find?_indexed] at h
    obtain ⟨hlt, -⟩ := List.getElem?_eq_some_iff.mp h
    rw [Nat.sub_eq_zero_of_le (Nat.le_of_lt hlt), List.range'_zero, List.map_nil]
  · rfl

/-- Below an array that was filled up there is nothing to be filled up. -/
theorem length_padded (doc : Json) (segs : List String) :
    (padded doc segs).length ≤ maxPadding := by
  induction segs generalizing doc with
  | nil => exact Nat.zero_le _
  | cons s rest ih =>
    rw [padded, List.length_append, List.length_map, List.length_map]
    cases hslot : Table.find? (slots doc) (step doc s) with
    | none =>
      rw [Option.getD_none, padded_null]
      exact length_padding doc s
    | some next =>
      rw [padding_of_find? hslot, List.length_nil, Nat.zero_add]
      exact ih next

theorem at?_setAt_trail (doc : Json) (segs : List String) (v : Json) :
    at? (setAt doc segs v) (trail doc segs) = some v := by
  induction segs generalizing doc with
  | nil => rfl
  | cons s rest ih =>
    rw [setAt_cons, trail, at?, find?_slots_put_self]
    exact ih _

/-- A place holds what it held unless it is on the trail, below its end or filled up. -/
theorem at?_of_setAt {place segs : List String} (h : at? (setAt doc segs v) place = some u) :
    at? doc place = some u ∨ place <+: trail doc segs ∨ trail doc segs <+: place ∨
      (place ∈ padded doc segs ∧ u = .null) := by
  induction segs generalizing doc place with
  | nil => exact .inr (.inr (.inl List.nil_prefix))
  | cons s rest ih =>
    cases place with
    | nil => exact .inr (.inl List.nil_prefix)
    | cons key more =>
      rw [setAt_cons, at?] at h
      rw [at?, trail, padded]
      by_cases hkey : key = step doc s
      · subst hkey
        rw [find?_slots_put_self] at h
        rcases ih h with h | h | h | ⟨h, hu⟩
        · cases hslot : Table.find? (slots doc) (step doc s) with
          | some next =>
            rw [hslot] at h
            exact .inl h
          | none =>
            -- there was nothing, so nothing below it either
            rw [hslot] at h
            cases more with
            | nil => exact .inr (.inl (List.prefix_append [_] _))
            | cons _ _ => cases h
        · exact .inr (.inl (List.cons_prefix_cons.mpr ⟨rfl, h⟩))
        · exact .inr (.inr (.inl (List.cons_prefix_cons.mpr ⟨rfl, h⟩)))
        · exact .inr (.inr (.inr ⟨List.mem_append_right _ (List.mem_map_of_mem h), hu⟩))
      · rw [find?_slots_put_of_ne hkey] at h
        cases hslot : Table.find? (slots doc) key with
        | some next =>
          rw [hslot, Option.some_or] at h
          exact .inl h
        | none =>
          rw [hslot, Option.none_or] at h
          split at h
          · next hpad =>
            cases more with
            | nil =>
              cases h
              exact .inr (.inr (.inr ⟨List.mem_append_left _ (List.mem_map_of_mem hpad), rfl⟩))
            | cons _ _ => cases h
          · cases h

/-- What lies on the way to a value holds something. -/
theorem ne_null_of_prefix {place longer : List String} (hplace : at? doc place = some u)
    (hlonger : at? doc longer = some v) (h : place <+: longer) (hne : place ≠ longer) :
    u ≠ .null := by
  obtain ⟨more, rfl⟩ := h
  induction place generalizing doc with
  | nil =>
    rintro rfl
    cases hplace
    cases more with
    | nil => exact hne rfl
    | cons _ _ => cases hlonger
  | cons key rest ih =>
    obtain ⟨next, hnext, hplace⟩ := Option.bind_eq_some_iff.mp hplace
    rw [List.cons_append, at?, hnext] at hlonger
    exact ih hplace hlonger fun heq => hne (congrArg (key :: ·) heq)

end

/-! ### Paths -/

/-- **A write disturbs nothing else.** What is read at a path that takes another step than the
written one, at some container of the document that both reach, is read there afterwards. The value
is at the end of the trail. Every other place holds what it held, lies on the trail and holds
something, or is one of at most `maxPadding` empty items. -/
theorem set_leaves_alone {doc : Json} (hdoc : Indexable doc) (p : String) (v : Json) :
    (∀ q w, get doc q = some w → Diverge doc (segments p) (segments q) →
      get (set doc p v) q = some w) ∧
    at? (set doc p v) (trail doc (segments p)) = some v ∧
    ∃ added : List (List String), added.length ≤ maxPadding ∧
      ∀ place u, at? (set doc p v) place = some u →
        at? doc place = some u ∨ trail doc (segments p) <+: place ∨
          (place <+: trail doc (segments p) ∧ u ≠ .null) ∨ (place ∈ added ∧ u = .null) := by
  have hwritten : at? (set doc p v) (trail doc (segments p)) = some v := at?_setAt_trail doc _ v
  refine ⟨fun q w hq hdiverge => getAt_setAt_of_diverge hdoc hdiverge hq, hwritten,
    padded doc (segments p), length_padded doc _, fun place u hplace => ?_⟩
  rcases at?_of_setAt hplace with h | h | h | h
  · exact .inl h
  · by_cases heq : place = trail doc (segments p)
    · exact .inr (.inl (heq ▸ List.prefix_rfl))
    · exact .inr (.inr (.inl ⟨h, ne_null_of_prefix hplace hwritten h heq⟩))
  · exact .inr (.inl h)
  · exact .inr (.inr (.inr h))

/-- A negative zero gives an array its numbers for keys, and a signed index is read afterwards. -/
theorem set_leaves_alone_rekeyed :
    let doc := Json.ofFields [("list", .array [.ofFields [("a", .null)], .ofFields [("b", "x")]])]
    get doc "/list/+1/b" = some (.string "x") ∧
    (∃ fields, get (set doc "/list/-0/a" "y") "/list" = some (.object fields)) ∧
    get (set doc "/list/-0/a" "y") "/list/+1/b" = some (.string "x") := by
  intro doc
  have hleaf {leaf : Json} (hitems : leaf.items = []) (hfields : leaf.fields = []) :
      Indexable leaf := by
    refine .intro (by simp [hitems]) fun part hpart => ?_
    rw [Json.parts, hitems, hfields] at hpart
    cases hpart
  have hobject {key : String} {field : Json} (h : Indexable field) :
      Indexable (.ofFields [(key, field)]) :=
    .intro (Nat.zero_le _) (List.forall_mem_singleton.mpr h)
  have hdoc : Indexable doc := by
    refine hobject (.intro (by decide) ?_)
    rw [Json.parts_array]
    exact List.forall_mem_cons.mpr
      ⟨hobject (hleaf rfl rfl), List.forall_mem_singleton.mpr (hobject (hleaf rfl rfl))⟩
  have hread : get doc "/list/+1/b" = some (.string "x") := by rfl
  have hdiverge : Diverge doc (segments "/list/-0/a") (segments "/list/+1/b") := by
    have hp : segments "/list/-0/a" = ["list", "-0", "a"] := by rfl
    have hq : segments "/list/+1/b" = ["list", "+1", "b"] := by rfl
    rw [hp, hq]
    exact .together rfl rfl (.apart (by decide +kernel))
  exact ⟨hread, ⟨_, rfl⟩, (set_leaves_alone hdoc "/list/-0/a" "y").1 _ _ hread hdiverge⟩

end Path

end Switchboard

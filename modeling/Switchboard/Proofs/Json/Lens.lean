/-
Paths as lenses.

A write reshapes what is in its way: a scalar becomes an object, an array grows or gets its numbers
for keys. Reading comes by the same way afterwards, for a container with room for a segment is not
reshaped again, and the key that a segment means stays the same once a value is stored under it.

* `reshape_of_child?`: where there is a value, nothing is reshaped;
* `putChild_putChild`, `putChild_of_child?`: the laws for one segment;
* `setAt_getAt`, `setAt_setAt`, `replaceAt?_eq`: the laws along segments;
* `lens_laws`: **reading, writing and replacing at any path of any document**.
-/
import Switchboard.Proofs.Json.Ordered

namespace Switchboard

namespace Path

variable {doc next u : Json} {s : String} {segs : List String}

/-! ### One segment -/

/-- Where there is a value, there is room for it. -/
theorem reshape_of_child? (h : child? doc s = some next) : reshape doc s = doc := by
  unfold child? at h
  split at h
  · rfl
  · next items =>
    obtain ⟨i, hi, hitem⟩ := Option.bind_eq_some_iff.mp h
    obtain ⟨hlt, -⟩ := List.getElem?_eq_some_iff.mp hitem
    have hfits : i ≤ items.length + maxPadding := by omega
    simp only [reshape, hi, if_pos hfits, Nat.sub_eq_zero_of_le hlt, List.replicate_zero,
      List.append_nil]
  · cases h

/-- Of two values put at one segment the second stays. -/
theorem putChild_putChild (doc : Json) (s : String) (v w : Json) :
    putChild (putChild doc s v) s w = putChild doc s w := by
  cases doc with
  | object fields => simp only [putChild, objectKey_insert, Table.insert_insert]
  | array items =>
    cases hi : Numeral.index? s with
    | none => simp only [putChild, hi]
    | some i => simp only [putChild, hi, List.set_set]
  | null | bool _ | number _ | string _ => rfl

/-- Putting back what is there changes nothing. -/
theorem putChild_of_child? (horder : Table.Ordered doc.fields) (h : child? doc s = some next) :
    putChild doc s next = doc := by
  unfold child? at h
  split at h
  · exact congrArg Json.object (Table.insert_of_find? horder h)
  · obtain ⟨i, hi, hitem⟩ := Option.bind_eq_some_iff.mp h
    obtain ⟨hlt, rfl⟩ := List.getElem?_eq_some_iff.mp hitem
    simp only [putChild, hi, List.set_getElem_self]
  · cases h

/-! ### Any number of segments -/

theorem setAt_cons_of_child? (h : child? doc s = some next) (v : Json) :
    setAt doc (s :: segs) v = putChild doc s (setAt next segs v) := by
  rw [setAt, reshape_of_child? h, h, Option.getD_some]

/-- Writing what is there changes nothing. -/
theorem setAt_getAt (hdoc : doc.Ordered) (h : getAt doc segs = some u) :
    setAt doc segs u = doc := by
  induction segs generalizing doc with
  | nil => exact (Option.some.inj h).symm
  | cons s rest ih =>
    obtain ⟨next, hnext, h⟩ := Option.bind_eq_some_iff.mp h
    rw [setAt_cons_of_child? hnext, ih (hdoc.child? hnext) h]
    exact putChild_of_child? hdoc.fields hnext

/-- Of two writes in one place the second counts. -/
theorem setAt_setAt (doc : Json) (segs : List String) (v w : Json) :
    setAt (setAt doc segs v) segs w = setAt doc segs w := by
  induction segs generalizing doc with
  | nil => rfl
  | cons s rest ih =>
    let next := (child? (reshape doc s) s).getD .null
    have hchild : child? (setAt doc (s :: rest) v) s = some (setAt next rest v) :=
      child?_putChild_reshape doc s _
    calc setAt (setAt doc (s :: rest) v) (s :: rest) w
        = putChild (setAt doc (s :: rest) v) s (setAt (setAt next rest v) rest w) :=
          setAt_cons_of_child? hchild w
      _ = putChild (reshape doc s) s (setAt (setAt next rest v) rest w) :=
          putChild_putChild (reshape doc s) s _ _
      _ = setAt doc (s :: rest) w := by rw [ih, setAt]

/-- A value can be replaced where there is one, and that is a write. -/
theorem replaceAt?_eq (doc : Json) (segs : List String) (v : Json) :
    replaceAt? doc segs v = (getAt doc segs).map fun _ => setAt doc segs v := by
  induction segs generalizing doc with
  | nil => rfl
  | cons s rest ih =>
    rw [replaceAt?, getAt]
    cases hnext : child? doc s with
    | none => rfl
    | some next =>
      rw [Option.bind_some, Option.bind_some, ih, setAt_cons_of_child? hnext, Option.map_map]
      rfl

/-! ### Paths -/

/-- **The laws of a lens.** At any path of any document, what was written is read back; writing what
is there changes nothing, once the tables in the document are in order; of two writes the second
counts; and a value is found for replacing just where one is read, replacing it is writing, and where
none is found the document stays. -/
theorem lens_laws (doc : Json) (path : String) (v w : Json) :
    get (set doc path v) path = some v ∧
    (doc.Ordered → ∀ u, get doc path = some u → set doc path u = doc) ∧
    set (set doc path v) path w = set doc path w ∧
    ((replace? doc path v).isSome ↔ (get doc path).isSome) ∧
    (∀ replaced, replace? doc path v = some replaced → replaced = set doc path v) ∧
    (get doc path = none → (replace? doc path v).getD doc = doc) := by
  have hreplace : replace? doc path v = (get doc path).map fun _ => set doc path v :=
    replaceAt?_eq doc _ v
  refine ⟨getAt_setAt doc _ v, fun hdoc u hu => setAt_getAt hdoc hu, setAt_setAt doc _ v w, ?_, ?_,
    ?_⟩
  · rw [hreplace, Option.isSome_map]
  · intro replaced h
    rw [hreplace] at h
    obtain ⟨-, -, rfl⟩ := Option.map_eq_some_iff.mp h
    rfl
  · intro hnone
    rw [hreplace, hnone]
    rfl

/-- A signed index leads to a key with zeros in front, and a negative zero leads nowhere. -/
theorem lens_laws_spellings :
    let doc := Json.ofFields [("list", .array [.null, .ofFields [("007", "a"), ("7", "b")]])]
    let path := "/list/+1/007"
    get (set doc path "c") path = some (.string "c") ∧
    get doc path = some (.string "a") ∧ set doc path "a" = doc ∧
    set (set doc path "c") path "d" = set doc path "d" ∧
    replace? doc path "c" = some (set doc path "c") ∧
    get doc "/list/-0" = none ∧ (replace? doc "/list/-0" "c").getD doc = doc := by
  intro doc path
  have hleaf (s : String) : (Json.string s).Ordered := .of_parts_eq_nil rfl rfl
  have hdoc : doc.Ordered := by
    refine Json.ordered_ofFields (List.forall_mem_singleton.mpr (.array ?_))
    refine List.forall_mem_cons.mpr ⟨.null, List.forall_mem_singleton.mpr ?_⟩
    exact Json.ordered_ofFields
      (List.forall_mem_cons.mpr ⟨hleaf _, List.forall_mem_singleton.mpr (hleaf _)⟩)
  have hread : get doc path = some (.string "a") := by unfold path; rfl
  have hmissing : get doc "/list/-0" = none := by rfl
  obtain ⟨hget, hput, hlast, hsome, hreplaced, -⟩ := lens_laws doc path "c" "d"
  obtain ⟨replaced, hreplace⟩ := Option.isSome_iff_exists.mp (hsome.mpr (by rw [hread]; rfl))
  refine ⟨hget, hread, hput hdoc _ hread, hlast, ?_, hmissing, ?_⟩
  · rw [hreplace, hreplaced replaced hreplace]
  · exact (lens_laws doc "/list/-0" "c" "d").2.2.2.2.2 hmissing

end Path

end Switchboard

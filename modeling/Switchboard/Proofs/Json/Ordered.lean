/-
Documents whose objects list their fields in order.

The fields of an object are a table, and every way to make or change a document keeps the tables
inside it in order of their names. Such documents are equal once they hold the same fields.

* `Json.Throughout`: what holds of a value and of all values inside it;
* `Json.Ordered`: the tables are in order throughout;
* `Json.ordered_of_parse`: documents that were read are ordered;
* `Json.Ordered.setAt`, `Json.Ordered.removeAt?`: writes and removals along a path keep them so.
-/
import Switchboard.Json.Document
import Switchboard.Proofs.Json.Decode
import Switchboard.Proofs.Json.Path

namespace Switchboard

namespace Json

/-! ### Values inside a value -/

/-- The fields of an object; other values have none. -/
def fields : Json → Table Json
  | .object fields => fields
  | _ => []

/-- The items of an array; other values have none. -/
def items : Json → List Json
  | .array items => items
  | _ => []

/-- The values that a container holds. -/
def parts (doc : Json) : List Json := doc.items ++ Table.values doc.fields

@[simp] theorem fields_object (t : Table Json) : (object t).fields = t := rfl
@[simp] theorem fields_array (l : List Json) : (array l).fields = [] := rfl
@[simp] theorem items_object (t : Table Json) : (object t).items = [] := rfl
@[simp] theorem items_array (l : List Json) : (array l).items = l := rfl
@[simp] theorem parts_object (t : Table Json) : (object t).parts = Table.values t := rfl
@[simp] theorem parts_array (l : List Json) : (array l).parts = l := by simp [parts, Table.values]

/-- `P` holds of a value and of all values inside it. -/
inductive Throughout (P : Json → Prop) : Json → Prop
  | intro {doc : Json} (here : P doc) (inside : ∀ part ∈ doc.parts, Throughout P part) :
    Throughout P doc

section

variable {P : Json → Prop} {doc next : Json} {s : String}

theorem Throughout.here (h : doc.Throughout P) : P doc := by
  cases h with
  | intro here _ => exact here

theorem Throughout.inside (h : doc.Throughout P) : ∀ part ∈ doc.parts, part.Throughout P := by
  cases h with
  | intro _ inside => exact inside

theorem mem_parts_of_child? (h : Path.child? doc s = some next) : next ∈ doc.parts := by
  unfold Path.child? at h
  split at h
  · exact Table.mem_values (Table.mem_of_find? h)
  · obtain ⟨i, -, hi⟩ := Option.bind_eq_some_iff.mp h
    rw [parts_array]
    exact List.mem_of_getElem? hi
  · cases h

theorem Throughout.child? (h : doc.Throughout P) (hnext : Path.child? doc s = some next) :
    next.Throughout P :=
  h.inside next (mem_parts_of_child? hnext)

end

/-! ### Order -/

/-- Every object lists its fields in order of their names. -/
def Ordered (doc : Json) : Prop := doc.Throughout fun part => Table.Ordered part.fields

theorem Ordered.array {items : List Json} (h : ∀ item ∈ items, item.Ordered) :
    (Json.array items).Ordered :=
  .intro .nil (by rwa [parts_array])

theorem Ordered.object {fields : Table Json} (horder : Table.Ordered fields)
    (h : ∀ e ∈ fields, Json.Ordered e.2) : (Json.object fields).Ordered := by
  refine .intro horder fun part hpart => ?_
  obtain ⟨e, he, rfl⟩ := List.mem_map.mp hpart
  exact h e he

/-- A value that holds nothing is ordered. -/
theorem Ordered.of_parts_eq_nil {doc : Json} (hfields : doc.fields = []) (hitems : doc.items = []) :
    doc.Ordered := by
  refine .intro (hfields ▸ .nil) fun part hpart => ?_
  rw [parts, hfields, hitems] at hpart
  cases hpart

theorem Ordered.null : Json.null.Ordered := .of_parts_eq_nil rfl rfl

theorem ordered_ofFields {entries : Table Json} (h : ∀ e ∈ entries, Json.Ordered e.2) :
    (ofFields entries).Ordered :=
  .object (Table.ordered_ofList entries) fun e he => h e (Table.mem_of_mem_ofList he)

/-! ### Documents that were read -/

mutual

theorem ordered_of_toJson {d : Document} {doc : Json} (h : d.toJson = .ok doc) : doc.Ordered := by
  match d with
  | .null | .skipped =>
    cases h
    exact .null
  | .bool _ | .number _ | .string _ =>
    cases h
    exact .of_parts_eq_nil rfl rfl
  | .array items stop =>
    simp only [Document.toJson] at h
    split at h
    · cases h
    · cases h
    · next vs hvs =>
      cases h
      exact .array (ordered_of_toItems hvs)
  | .object fields stop =>
    simp only [Document.toJson] at h
    split at h
    · cases h
    · cases h
    · next es hes =>
      cases h
      exact ordered_ofFields (ordered_of_toFields hes)
  | .broken e => cases h

theorem ordered_of_toItems {ds : List Document} {i : Nat} {items : List Json}
    (h : Document.toItems ds i = .ok items) : ∀ item ∈ items, item.Ordered := by
  match ds with
  | [] =>
    cases h
    simp
  | d :: rest =>
    simp only [Document.toItems] at h
    split at h
    · cases h
    · next v hv =>
      obtain ⟨vs, hvs, rfl⟩ := Except.map_eq_ok.mp h
      exact List.forall_mem_cons.mpr ⟨ordered_of_toJson hv, ordered_of_toItems hvs⟩

theorem ordered_of_toFields {ds : List (String × Document)} {fields : Table Json}
    (h : Document.toFields ds = .ok fields) : ∀ e ∈ fields, e.2.Ordered := by
  match ds with
  | [] =>
    cases h
    simp
  | (name, d) :: rest =>
    simp only [Document.toFields] at h
    split at h
    · cases h
    · cases h
    · cases h
    · next v _ _ hv =>
      obtain ⟨es, hes, rfl⟩ := Except.map_eq_ok.mp h
      exact List.forall_mem_cons.mpr ⟨ordered_of_toJson hv, ordered_of_toFields hes⟩

end

/-- Documents that were read are ordered. -/
theorem ordered_of_parse {text : String} {doc : Json} (h : parse text = .ok doc) :
    doc.Ordered := by
  unfold parse at h
  split at h
  split at h
  · cases h
  · cases h
  · next hdoc _ =>
    cases h
    exact ordered_of_toJson hdoc

/-! ### Documents that are changed -/

section

variable {doc v taken rest : Json} {s : String}

theorem mem_of_mem_indexed {items : List Json} {e : String × Json} (h : e ∈ Path.indexed items) :
    e.2 ∈ items := by
  obtain ⟨⟨item, i⟩, hitem, rfl⟩ := List.mem_map.mp (Table.mem_of_mem_ofList h)
  exact List.fst_mem_of_mem_zipIdx hitem

theorem Ordered.indexed {items : List Json} (h : ∀ item ∈ items, item.Ordered) :
    (Json.object (Path.indexed items)).Ordered :=
  .object (Table.ordered_ofList _) fun _ he => h _ (mem_of_mem_indexed he)

theorem Ordered.fields (h : doc.Ordered) : Table.Ordered doc.fields := h.here

theorem Ordered.part (h : doc.Ordered) {part : Json} (hpart : part ∈ doc.parts) : part.Ordered :=
  h.inside part hpart

theorem Ordered.of_mem_fields {t : Table Json} (h : (Json.object t).Ordered) :
    ∀ e ∈ t, Json.Ordered e.2 :=
  fun _ he => h.part (Table.mem_values he)

theorem Ordered.of_mem_items {items : List Json} (h : (Json.array items).Ordered) :
    ∀ item ∈ items, item.Ordered :=
  fun _ hitem => h.part (by rwa [parts_array])

theorem Ordered.reshape (h : doc.Ordered) (s : String) : (Path.reshape doc s).Ordered := by
  unfold Path.reshape
  split
  · exact h
  · split
    · split
      · refine .array fun item hitem => ?_
        rcases List.mem_append.mp hitem with hitem | hitem
        · exact h.of_mem_items item hitem
        · rw [List.eq_of_mem_replicate hitem]
          exact .null
      · exact .indexed h.of_mem_items
    · exact .indexed h.of_mem_items
  · exact .object .nil (by simp)

theorem Ordered.putChild (h : doc.Ordered) (s : String) (hv : v.Ordered) :
    (Path.putChild doc s v).Ordered := by
  unfold Path.putChild
  split
  · exact .object (h.fields.insert _ v)
      (Table.forall_mem_insert (P := fun e => Json.Ordered e.2) hv h.of_mem_fields)
  · split
    · refine .array fun item hitem => ?_
      rcases List.mem_or_eq_of_mem_set hitem with hitem | rfl
      · exact h.of_mem_items item hitem
      · exact hv
    · exact h
  · exact h

/-- A write keeps a document ordered. -/
theorem Ordered.setAt (h : doc.Ordered) (segs : List String) (hv : v.Ordered) :
    (Path.setAt doc segs v).Ordered := by
  induction segs generalizing doc with
  | nil => exact hv
  | cons s rest ih =>
    have hroom := h.reshape s
    have hnext : ((Path.child? (Path.reshape doc s) s).getD .null).Ordered := by
      cases hchild : Path.child? (Path.reshape doc s) s with
      | none => exact .null
      | some next => exact hroom.child? hchild
    exact hroom.putChild s (ih hnext)

theorem Ordered.removeChild? (h : doc.Ordered)
    (hremove : Path.removeChild? doc s = some (taken, rest)) : taken.Ordered ∧ rest.Ordered := by
  unfold Path.removeChild? at hremove
  split at hremove
  · obtain ⟨v, hv, heq⟩ := Option.map_eq_some_iff.mp hremove
    cases heq
    exact ⟨h.of_mem_fields _ (Table.mem_of_find? hv), .object (h.fields.erase _)
      (Table.forall_mem_erase (P := fun e => Json.Ordered e.2) h.of_mem_fields)⟩
  · obtain ⟨i, -, hi⟩ := Option.bind_eq_some_iff.mp hremove
    obtain ⟨v, hv, heq⟩ := Option.map_eq_some_iff.mp hi
    cases heq
    exact ⟨h.of_mem_items _ (List.mem_of_getElem? hv),
      .array fun item hitem => h.of_mem_items item (List.mem_of_mem_eraseIdx hitem)⟩
  · cases hremove

/-- A removal keeps a document ordered, and what it takes out is ordered too. -/
theorem Ordered.removeAt? (h : doc.Ordered) {segs : List String}
    (hremove : Path.removeAt? doc segs = some (taken, rest)) : taken.Ordered ∧ rest.Ordered := by
  induction segs generalizing doc rest with
  | nil => cases hremove
  | cons s segs ih =>
    cases segs with
    | nil => exact h.removeChild? hremove
    | cons t segs =>
      obtain ⟨next, hnext, hremove⟩ := Option.bind_eq_some_iff.mp hremove
      obtain ⟨r, hr, heq⟩ := Option.map_eq_some_iff.mp hremove
      cases heq
      obtain ⟨htaken, hrest⟩ := ih (h.child? hnext) hr
      exact ⟨htaken, h.putChild s hrest⟩

end

end Json

end Switchboard

/-
What decoders accept.

* `Except.bind_eq_ok`: a computation in steps succeeds if all of its steps do;
* `Record.settle_eq_ok`: an object none of whose fields is at fault is accepted;
* `items_eraseIdx`, `items_map`: lists are read item by item.
-/
import Switchboard.Json.Decode

namespace Switchboard

theorem Except.bind_eq_ok {ε α β : Type} {x : Except ε α} {f : α → Except ε β} {b : β} :
    x >>= f = .ok b ↔ ∃ a, x = .ok a ∧ f a = .ok b := by
  cases x with
  | error e => simp [bind, Except.bind]
  | ok a => simp [bind, Except.bind]

theorem Except.map_eq_ok {ε α β : Type} {x : Except ε α} {f : α → β} {b : β} :
    x.map f = .ok b ↔ ∃ a, x = .ok a ∧ f a = b := by
  cases x with
  | error e => simp [Except.map]
  | ok a => simp [Except.map]

namespace Decode

/-! ### Fields of objects -/

namespace Record

variable {α : Type} {type : RecordType} {fields : List (String × Json)} {name : String}
  {decode : Decoder α} {default : Option α}

theorem field_of_find? {v : Json} (h : Table.find? fields name = some v) :
    (named fields).field type name decode default = decode v := by
  simp only [field, find?, h]

/-- The value of a field with a default: that of the record if it has one. -/
theorem field_eq_ok {r : Record} {a b : α} (h : r.field type name decode (some b) = .ok a) :
    (∃ v, r.find? type name = some v ∧ decode v = .ok a) ∨ a = b := by
  unfold field at h
  split at h
  · next v hfind => exact .inl ⟨v, hfind, h⟩
  · exact .inr (Except.ok.inj h).symm

/-- An object none of whose fields is at fault is accepted. -/
theorem settle_eq_ok {faults : List (String × Option Fault)} (h : ∀ f ∈ faults, f.2 = none) :
    (named fields).settle type faults = .ok () := by
  have hfind (name : String) : (Table.find? faults name).join = none := by
    induction faults with
    | nil => rfl
    | cons f rest ih =>
      obtain ⟨key, fault⟩ := f
      rw [Table.find?]
      split
      · rw [show fault = none from h _ List.mem_cons_self]
        rfl
      · exact ih fun f hf => h f (List.mem_cons_of_mem _ hf)
  have hfirst : ((named fields).order type).findSome?
      (fun name => (Table.find? faults name).join) = none :=
    List.findSome?_eq_none_iff.mpr fun name _ => hfind name
  rw [settle, hfirst]

end Record

/-! ### Lists -/

variable {α β : Type} {item : Decoder α}

theorem items_cons {v : Json} {vs : List Json} {as : List α} :
    items item (v :: vs) = .ok as ↔
      ∃ a rest, item v = .ok a ∧ items item vs = .ok rest ∧ as = a :: rest := by
  rw [items, Except.bind_eq_ok]
  constructor
  · rintro ⟨a, ha, h⟩
    obtain ⟨rest, hrest, h⟩ := Except.bind_eq_ok.mp h
    exact ⟨a, rest, ha, hrest, (Except.ok.inj h).symm⟩
  · rintro ⟨a, rest, ha, hrest, rfl⟩
    exact ⟨a, ha, Except.bind_eq_ok.mpr ⟨rest, hrest, rfl⟩⟩

/-- Without one of the items the same is read, without what was read for it. -/
theorem items_eraseIdx {vs : List Json} {as : List α} (h : items item vs = .ok as) (i : Nat) :
    items item (vs.eraseIdx i) = .ok (as.eraseIdx i) := by
  induction vs generalizing as i with
  | nil =>
    cases h
    rfl
  | cons v rest ih =>
    obtain ⟨a, later, ha, hlater, rfl⟩ := items_cons.mp h
    cases i with
    | zero => exact hlater
    | succ i => exact items_cons.mpr ⟨a, _, ha, ih hlater i, rfl⟩

/-- What was written item by item is read item by item. -/
theorem items_map {encode : β → Json} {value : β → α} {bs : List β}
    (h : ∀ b ∈ bs, item (encode b) = .ok (value b)) :
    items item (bs.map encode) = .ok (bs.map value) := by
  induction bs with
  | nil => rfl
  | cons b rest ih =>
    exact items_cons.mpr
      ⟨_, _, h b List.mem_cons_self, ih fun c hc => h c (List.mem_cons_of_mem _ hc), rfl⟩

/-- Every item that was read is the reading of a value. -/
theorem exists_of_mem_items {vs : List Json} {as : List α} (h : items item vs = .ok as) {a : α}
    (ha : a ∈ as) : ∃ v ∈ vs, item v = .ok a := by
  induction vs generalizing as with
  | nil =>
    cases h
    cases ha
  | cons v rest ih =>
    obtain ⟨b, later, hb, hlater, rfl⟩ := items_cons.mp h
    rcases List.mem_cons.mp ha with rfl | ha
    · exact ⟨v, List.mem_cons_self, hb⟩
    · obtain ⟨w, hw, hwa⟩ := ih hlater ha
      exact ⟨w, List.mem_cons_of_mem _ hw, hwa⟩

/-- Every value in the list can be read. -/
theorem exists_of_mem_of_items {vs : List Json} {as : List α} (h : items item vs = .ok as)
    {v : Json} (hv : v ∈ vs) : ∃ a, item v = .ok a := by
  induction vs generalizing as with
  | nil => cases hv
  | cons w rest ih =>
    obtain ⟨b, later, hb, hlater, rfl⟩ := items_cons.mp h
    rcases List.mem_cons.mp hv with rfl | hv
    · exact ⟨b, hb⟩
    · exact ih hlater hv

end Decode

end Switchboard

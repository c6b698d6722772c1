/-
Tables as they are changed.

* `find?_ofList`: the last entry of a name counts;
* `insert_insert`: so does the last insertion;
* `forall_mem_insert`, `forall_mem_erase`: what holds of all entries still does after a change.
-/
import Mathlib.Data.List.Induction
import Switchboard.Table

namespace Switchboard

namespace Table

variable {α : Type} {t : Table α} {key name : String}

theorem find?_append (t u : Table α) (key : String) :
    find? (t ++ u) key = (find? t key).or (find? u key) := by
  induction t with
  | nil => rfl
  | cons e rest ih =>
    obtain ⟨k, v⟩ := e
    rw [List.cons_append, find?, find?]
    split
    · rfl
    · exact ih

theorem find?_foldl_insert (entries t : Table α) (key : String) :
    find? (entries.foldl (fun t e => insert t e.1 e.2) t) key =
      (find? entries.reverse key).or (find? t key) := by
  induction entries generalizing t with
  | nil => rfl
  | cons e rest ih =>
    obtain ⟨k, v⟩ := e
    rw [List.foldl_cons, ih, List.reverse_cons, find?_append, Option.or_assoc]
    congr 1
    by_cases hk : k = key
    · subst hk
      rw [find?_insert_self]
      simp [find?]
    · rw [find?_insert_of_ne (Ne.symm hk)]
      simp [find?, hk]

/-- Of the entries of a name the last one counts. -/
theorem find?_ofList (entries : Table α) (key : String) :
    find? (ofList entries) key = find? entries.reverse key := by
  rw [ofList, find?_foldl_insert]
  simp

theorem insert_insert (t : Table α) (key : String) (old value : α) :
    insert (insert t key old) key value = insert t key value := by
  induction t with
  | nil => simp [insert]
  | cons e rest ih =>
    obtain ⟨k, v⟩ := e
    by_cases hk : k = key
    · simp [insert, hk]
    · by_cases hlt : key < k
      · simp [insert, hk, hlt]
      · simp [insert, hk, hlt, ih]

theorem ofList_concat (entries : Table α) (key : String) (value : α) :
    ofList (entries ++ [(key, value)]) = insert (ofList entries) key value := by
  rw [ofList, List.foldl_append]
  rfl

theorem mem_of_find? {value : α} (h : find? t key = some value) : (key, value) ∈ t := by
  induction t with
  | nil => simp at h
  | cons e rest ih =>
    obtain ⟨k, v⟩ := e
    rw [find?] at h
    split at h
    · next hk =>
      rw [Option.some_inj] at h
      exact hk ▸ h ▸ List.mem_cons_self
    · exact List.mem_cons_of_mem _ (ih h)

theorem mem_of_mem_ofList {entries : Table α} {e : String × α} (h : e ∈ ofList entries) :
    e ∈ entries := by
  induction entries using List.reverseRecOn with
  | nil => exact h
  | append_singleton init last ih =>
    obtain ⟨k, v⟩ := last
    rw [ofList_concat] at h
    rcases mem_insert h with rfl | h
    · simp
    · exact List.mem_append_left _ (ih h)

theorem ordered_ofList (entries : Table α) : Ordered (ofList entries) := by
  induction entries using List.reverseRecOn with
  | nil => exact .nil
  | append_singleton init last ih =>
    obtain ⟨k, v⟩ := last
    rw [ofList_concat]
    exact ih.insert k v

/-- Where a value is stored already, storing it again changes nothing. -/
theorem insert_of_find? {value : α} (horder : Ordered t) (h : find? t key = some value) :
    insert t key value = t := by
  induction t with
  | nil => cases h
  | cons e rest ih =>
    obtain ⟨k, v⟩ := e
    obtain ⟨hfirst, hrest⟩ := List.pairwise_cons.mp horder
    rw [find?] at h
    rw [insert]
    split at h
    · next hk => rw [if_pos hk, ← hk, Option.some.inj h]
    · next hk =>
      have hlt : k < key := hfirst _ (mem_of_find? h)
      rw [if_neg hk, if_neg (String.lt_asymm hlt), ih hrest h]

theorem find?_eq_none_iff : find? t name = none ↔ name ∉ names t := by
  induction t with
  | nil => simp [names]
  | cons e rest ih =>
    obtain ⟨k, v⟩ := e
    rw [find?, names, List.map_cons, List.mem_cons, not_or, ← names, ← ih]
    by_cases hk : k = name
    · simp [hk]
    · simp [hk, Ne.symm hk]

theorem isSome_find?_insert (value : α) (h : (find? t name).isSome) :
    (find? (insert t key value) name).isSome := by
  by_cases hname : name = key
  · rw [hname, find?_insert_self]
    rfl
  · rwa [find?_insert_of_ne hname]

theorem isSome_find?_erase (hname : name ≠ key) (h : (find? t name).isSome) :
    (find? (erase t key) name).isSome := by
  rwa [find?_erase_of_ne hname]

theorem find?_of_find?_erase {value : α} (h : find? (erase t key) name = some value) :
    find? t name = some value := by
  by_cases hname : name = key
  · rw [hname, find?_erase_self] at h
    cases h
  · rwa [find?_erase_of_ne hname] at h

/-- What is found is what was stored last, or it was there before under another name. -/
theorem find?_insert_eq_some {old value : α} (h : find? (insert t key value) name = some old) :
    name = key ∧ value = old ∨ find? t name = some old := by
  by_cases hname : name = key
  · rw [hname, find?_insert_self] at h
    exact .inl ⟨hname, Option.some.inj h⟩
  · rw [find?_insert_of_ne hname] at h
    exact .inr h

/-- Where every value is stored under its own name, this stays so. -/
theorem own_insert {nameOf : α → String} (value : α)
    (own : ∀ n a, find? t n = some a → nameOf a = n) :
    ∀ n a, find? (insert t (nameOf value) value) n = some a → nameOf a = n := by
  intro n a h
  rcases find?_insert_eq_some h with ⟨rfl, rfl⟩ | h
  · rfl
  · exact own n a h

theorem own_erase {nameOf : α → String} (own : ∀ n a, find? t n = some a → nameOf a = n) :
    ∀ n a, find? (erase t key) n = some a → nameOf a = n :=
  fun n a h => own n a (find?_of_find?_erase h)

theorem mem_of_mem_erase {e : String × α} (h : e ∈ erase t key) : e ∈ t :=
  (erase_sublist t key).mem h

/-- What holds of an entry and of all in the table holds of all after the entry is stored. -/
theorem forall_mem_insert {P : String × α → Prop} {value : α} (hnew : P (key, value))
    (h : ∀ e ∈ t, P e) : ∀ e ∈ insert t key value, P e := by
  intro e he
  rcases mem_insert he with rfl | he
  · exact hnew
  · exact h e he

theorem forall_mem_erase {P : String × α → Prop} (h : ∀ e ∈ t, P e) : ∀ e ∈ erase t key, P e :=
  fun e he => h e (mem_of_mem_erase he)

theorem mem_values {e : String × α} (h : e ∈ t) : e.2 ∈ values t :=
  List.mem_map_of_mem h

theorem exists_mem_values {P : α → Prop} : (∃ a ∈ values t, P a) ↔ ∃ e ∈ t, P e.2 := by
  constructor
  · rintro ⟨a, ha, h⟩
    obtain ⟨e, he, rfl⟩ := List.mem_map.mp ha
    exact ⟨e, he, h⟩
  · rintro ⟨e, he, h⟩
    exact ⟨e.2, mem_values he, h⟩

end Table

end Switchboard

/-
Tables: maps from names to values, kept as a list in order of the names.

Object fields, the registry and the live sessions are all tables, so that every listing comes out
in one order whatever the order of the edits that led to it.

* `find?_insert_self`, `find?_insert_of_ne`: what an insertion changes, with no hypothesis on the
  table;
* `find?_erase_self`, `find?_erase_of_ne`: what a removal changes;
* `Ordered.insert`, `Ordered.erase`: both keep a table in strict order of its names.
-/

namespace Switchboard

universe u v

/-- Entries by name, in ascending order of the names. -/
abbrev Table (α : Type u) := List (String × α)

namespace Table

variable {α : Type u} {β : Type v}

/-- The value stored under `key`. -/
def find? : List (String × α) → String → Option α
  | [], _ => none
  | (k, v) :: rest, key => if k = key then some v else find? rest key

/-- Stores `value` under `key`, in place of the value that was there. -/
def insert : List (String × α) → String → α → List (String × α)
  | [], key, value => [(key, value)]
  | (k, v) :: rest, key, value =>
    if k = key then (key, value) :: rest
    else if key < k then (key, value) :: (k, v) :: rest
    else (k, v) :: insert rest key value

/-- Drops every entry under `key`. -/
def erase : List (String × α) → String → List (String × α)
  | [], _ => []
  | (k, v) :: rest, key => if k = key then erase rest key else (k, v) :: erase rest key

/-- Whether a value is stored under `key`. -/
def has (t : List (String × α)) (key : String) : Bool := (find? t key).isSome

/-- The names, in order. -/
def names (t : List (String × α)) : List String := t.map Prod.fst

/-- The values, in order of their names. -/
def values (t : List (String × α)) : List α := t.map Prod.snd

/-- The table of a list of entries, where the last entry of a name counts. -/
def ofList (entries : List (String × α)) : List (String × α) :=
  entries.foldl (fun t e => insert t e.1 e.2) []

/-! ### Reading after writing -/

@[simp] theorem find?_nil (key : String) : find? ([] : List (String × α)) key = none := rfl

theorem find?_insert_self (t : List (String × α)) (key : String) (value : α) :
    find? (insert t key value) key = some value := by
  induction t with
  | nil => simp [insert, find?]
  | cons e rest ih =>
    obtain ⟨k, v⟩ := e
    rw [insert]
    split
    · simp [find?]
    · split <;> simp [find?, *]

theorem find?_insert_of_ne {key other : String} (h : other ≠ key) (t : List (String × α))
    (value : α) : find? (insert t key value) other = find? t other := by
  induction t with
  | nil => simp [insert, find?, Ne.symm h]
  | cons e rest ih =>
    obtain ⟨k, v⟩ := e
    rw [insert]
    split
    · next hk => subst hk; simp [find?, Ne.symm h]
    · split
      · simp [find?, Ne.symm h]
      · simp [find?, ih]

theorem find?_erase_self (t : List (String × α)) (key : String) :
    find? (erase t key) key = none := by
  induction t with
  | nil => rfl
  | cons e rest ih =>
    obtain ⟨k, v⟩ := e
    by_cases h : k = key <;> simp [erase, find?, h, ih]

theorem find?_erase_of_ne {key other : String} (h : other ≠ key) (t : List (String × α)) :
    find? (erase t key) other = find? t other := by
  induction t with
  | nil => rfl
  | cons e rest ih =>
    obtain ⟨k, v⟩ := e
    by_cases hk : k = key
    · subst hk; simp [erase, find?, Ne.symm h, ih]
    · simp [erase, find?, hk, ih]

/-! ### Order of the names -/

/-- The names ascend strictly, so no name occurs twice. -/
def Ordered (t : List (String × α)) : Prop := t.Pairwise fun a b => a.1 < b.1

theorem Ordered.nil : Ordered ([] : List (String × α)) := List.Pairwise.nil

theorem mem_insert {t : List (String × α)} {key : String} {value : α} {e : String × α}
    (h : e ∈ insert t key value) : e = (key, value) ∨ e ∈ t := by
  induction t with
  | nil => simpa [insert] using h
  | cons d rest ih =>
    obtain ⟨k, v⟩ := d
    rw [insert] at h
    split at h
    · simp only [List.mem_cons] at h ⊢
      exact h.imp_right Or.inr
    · split at h
      · simpa using h
      · simp only [List.mem_cons] at h ⊢
        rcases h with h | h
        · exact Or.inr (Or.inl h)
        · exact (ih h).imp_right Or.inr

theorem Ordered.insert {t : List (String × α)} (h : Ordered t) (key : String) (value : α) :
    Ordered (insert t key value) := by
  induction t with
  | nil => simp [Table.insert, Ordered]
  | cons d rest ih =>
    obtain ⟨k, v⟩ := d
    simp only [Ordered, List.pairwise_cons] at h
    rw [Table.insert]
    split
    · next hk => subst hk; exact List.pairwise_cons.2 h
    · next hne =>
      split
      · next hlt =>
        refine List.pairwise_cons.2 ⟨?_, List.pairwise_cons.2 h⟩
        intro e he
        rcases List.mem_cons.1 he with rfl | he
        · exact hlt
        · exact String.lt_trans hlt (h.1 e he)
      · next hge =>
        refine List.pairwise_cons.2 ⟨?_, ih h.2⟩
        intro e he
        rcases mem_insert he with rfl | he
        · exact Std.lt_of_le_of_ne (String.not_lt.1 hge) hne
        · exact h.1 e he

theorem erase_sublist (t : List (String × α)) (key : String) : (erase t key).Sublist t := by
  induction t with
  | nil => exact List.Sublist.slnil
  | cons e rest ih =>
    obtain ⟨k, v⟩ := e
    rw [erase]
    split
    · exact ih.cons _
    · exact ih.cons_cons _

theorem Ordered.erase {t : List (String × α)} (h : Ordered t) (key : String) :
    Ordered (erase t key) :=
  List.Pairwise.sublist (erase_sublist t key) h

end Table

end Switchboard

/-
Tables that are filled entry by entry.

What a table comes to does not depend on the order in which new entries are stored, since they have
names of their own. If a name comes twice, or one of the entries is none, the table is not filled in
any order.

* `mapValues`: the same names with other values;
* `insert_comm`: entries of different names are stored in any order;
* `fill?`, `fill?_perm`: a table is filled with entries in any order, or in none.
-/
import Switchboard.Proofs.Table

namespace Switchboard

namespace Table

variable {α β γ : Type}

/-! ### Other values -/

/-- The table with `f` of each value in the value's place. -/
def mapValues (f : α → β) (t : Table α) : Table β := t.map fun e => (e.1, f e.2)

theorem find?_mapValues (f : α → β) (t : Table α) (key : String) :
    find? (mapValues f t) key = (find? t key).map f := by
  induction t with
  | nil => rfl
  | cons e rest ih =>
    rw [mapValues, List.map_cons, find?, find?, ← mapValues, ih]
    split <;> rfl

theorem has_mapValues (f : α → β) (t : Table α) (key : String) :
    has (mapValues f t) key = has t key := by
  rw [has, has, find?_mapValues, Option.isSome_map]

theorem mapValues_insert (f : α → β) (t : Table α) (key : String) (value : α) :
    mapValues f (insert t key value) = insert (mapValues f t) key (f value) := by
  induction t with
  | nil => rfl
  | cons e rest ih =>
    simp only [mapValues, List.map_cons, insert]
    split
    · rfl
    · split
      · rfl
      · rw [List.map_cons, ← mapValues, ih, mapValues]

/-! ### New entries -/

theorem has_insert_of_ne {key other : String} (h : other ≠ key) (t : Table α) (value : α) :
    has (insert t key value) other = has t other := by
  rw [has, has, find?_insert_of_ne h]

/-- Entries of different names are stored in any order. -/
theorem insert_comm {key other : String} (h : key ≠ other) (t : Table α) (value next : α) :
    insert (insert t key value) other next = insert (insert t other next) key value := by
  -- the lesser name comes first, wherever it is stored
  wlog hlt : key < other generalizing key other value next
  · have hgt : other < key := Std.lt_of_le_of_ne (String.not_lt.mp hlt) (Ne.symm h)
    exact (this (Ne.symm h) next value hgt).symm
  have hnot : ¬ other < key := String.lt_asymm hlt
  induction t with
  | nil => simp [insert, h, Ne.symm h, hlt, hnot]
  | cons e rest ih =>
    obtain ⟨k, v⟩ := e
    by_cases hk : k = key
    · subst hk
      simp [insert, h, hnot]
    · by_cases hbefore : key < k
      · -- whatever the other one does at `k`, the lesser name goes in front of it
        have hlhs : insert (insert ((k, v) :: rest) key value) other next =
            (key, value) :: insert ((k, v) :: rest) other next := by
          rw [insert, if_neg hk, if_pos hbefore, insert, if_neg h, if_neg hnot]
        rw [hlhs, insert]
        split
        · simp [insert, Ne.symm h, hlt]
        · split
          · simp [insert, Ne.symm h, hlt]
          · simp [insert, hk, hbefore]
      · have hafter : k < key := Std.lt_of_le_of_ne (String.not_lt.mp hbefore) hk
        have hother : k ≠ other := by
          rintro rfl
          exact hnot hafter
        have hlast : ¬ other < k := String.lt_asymm (String.lt_trans hafter hlt)
        simp [insert, hk, hbefore, hother, hlast, ih]

/-! ### Filling -/

/-- Stores a new entry, if it is one and no entry has its name. -/
def put? (t : Table α) : Option (String × α) → Option (Table α)
  | none => none
  | some (name, value) => if has t name then none else some (insert t name value)

/-- Stores new entries one after the other. -/
def fill? (addition? : γ → Option (String × α)) : List γ → Table α → Option (Table α)
  | [], t => some t
  | c :: rest, t => (put? t (addition? c)).bind (fill? addition? rest)

/-- Two entries are stored in any order. -/
theorem put?_comm (t : Table α) (e d : Option (String × α)) :
    ((put? t e).bind fun t => put? t d) = (put? t d).bind fun t => put? t e := by
  rcases e with _ | ⟨key, value⟩
  · cases put? t d <;> rfl
  · rcases d with _ | ⟨other, next⟩
    · cases put? t (some (key, value)) <;> rfl
    · simp only [put?]
      by_cases hname : key = other
      · subst hname
        have htaken (a : α) : has (insert t key a) key = true := by rw [has, find?_insert_self]; rfl
        split
        · rfl
        · simp [htaken]
      · by_cases hkey : has t key = true <;> by_cases hother : has t other = true <;>
          simp [hkey, hother, has_insert_of_ne hname, has_insert_of_ne (Ne.symm hname),
            insert_comm hname]

/-- A table is filled with entries in any order, or in none. -/
theorem fill?_perm (addition? : γ → Option (String × α)) {cs ds : List γ} (h : cs.Perm ds)
    (t : Table α) : fill? addition? cs t = fill? addition? ds t := by
  induction h generalizing t with
  | nil => rfl
  | cons c _ ih =>
    rw [fill?, fill?]
    exact Option.bind_congr fun t _ => ih t
  | swap c d rest =>
    have hcomm := congrArg (Option.bind · (fill? addition? rest))
      (put?_comm t (addition? d) (addition? c))
    simpa only [fill?, Option.bind_assoc] using hcomm
  | trans _ _ ih ih' => exact (ih t).trans (ih' t)

end Table

end Switchboard

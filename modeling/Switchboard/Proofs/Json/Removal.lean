/-
Taking values out along paths.

What is taken out is what is read, and the whole document stays. The container that held the value
loses this one child, so an array closes the gap. Nothing else of the document changes, for below the
last segment a removal is a write of the smaller container.

A removed field may leave another one at the same path. A segment that is a key means itself, and
without that key it means its canonical number, which may be a key as well.

* `removeAt?_concat`: a removal by its last segment;
* `Loses`, `SameBut`: what becomes of the container, and what becomes of the document around it;
* `remove_exact`: **a removal takes the value that is read, and nothing else changes**;
* `Respelled`: a segment that is a key and spells another one;
* `remove_again`: **what the path of a removed field leads to**.
-/
import Switchboard.Proofs.Json.Separation

namespace Switchboard

namespace Path

/-- The document without the value at a path. -/
def removed (doc : Json) (path : String) : Json := (remove? doc path).elim doc Prod.snd

/-- A container that held the child `v` under a segment, and what is left of it. -/
inductive Loses (s : String) (v : Json) : Json → Json → Prop
  | field {fields left : Table Json} (there : Table.find? fields (objectKey fields s) = some v)
    (gone : Table.find? left (objectKey fields s) = none)
    (kept : ∀ key, key ≠ objectKey fields s → Table.find? left key = Table.find? fields key) :
    Loses s v (.object fields) (.object left)
  | item {before after : List Json} (index : Numeral.index? s = some before.length) :
    Loses s v (.array (before ++ v :: after)) (.array (before ++ after))

/-- Two documents that are the same but for what they hold at a place. -/
inductive SameBut : List String → Json → Json → Prop
  | here (doc new : Json) : SameBut [] doc new
  | field {fields new : Table Json} {key : String} {place : List String} {inner changed : Json}
    (old : Table.find? fields key = some inner) (now : Table.find? new key = some changed)
    (kept : ∀ other, other ≠ key → Table.find? new other = Table.find? fields other)
    (inside : SameBut place inner changed) :
    SameBut (key :: place) (.object fields) (.object new)
  | item {before after : List Json} {place : List String} {inner changed : Json}
    (inside : SameBut place inner changed) :
    SameBut (toString before.length :: place) (.array (before ++ inner :: after))
      (.array (before ++ changed :: after))

/-- The segment is a key, and so is the canonical form of the number that it spells otherwise. -/
structure Respelled (fields : Table Json) (s : String) (n : Int) : Prop where
  spells : Numeral.integer? s = some n
  otherwise : toString n ≠ s
  key : Table.has fields s = true
  number : Table.has fields (toString n) = true

section

variable {doc next parent left v : Json} {items : List Json} {fields : Table Json} {s last : String}
  {front : List String} {i : Nat} {n : Int}

/-! ### The last segment -/

/-- What is taken out of a container is what the segment leads to. -/
theorem map_fst_removeChild? (doc : Json) (s : String) :
    (removeChild? doc s).map Prod.fst = child? doc s := by
  cases doc with
  | object fields =>
    rw [removeChild?, child?, Option.map_map]
    exact Option.map_id'
  | array items =>
    cases hi : Numeral.index? s with
    | none => simp only [removeChild?, child?, hi, Option.bind_none, Option.map_none]
    | some i =>
      simp only [removeChild?, child?, hi, Option.bind_some, Option.map_map]
      exact Option.map_id'
  | null | bool _ | number _ | string _ => rfl

theorem exists_split_of_getElem? (h : items[i]? = some next) :
    ∃ before after, items = before ++ next :: after ∧ before.length = i := by
  obtain ⟨hlt, rfl⟩ := List.getElem?_eq_some_iff.mp h
  refine ⟨items.take i, items.drop (i + 1), ?_, List.length_take_of_le (Nat.le_of_lt hlt)⟩
  rw [← List.drop_eq_getElem_cons hlt, List.take_append_drop]

theorem Loses.of_removeChild? (h : removeChild? parent s = some (v, left)) :
    Loses s v parent left := by
  unfold removeChild? at h
  split at h
  · next fields =>
    obtain ⟨_, hv, heq⟩ := Option.map_eq_some_iff.mp h
    cases heq
    exact .field hv (Table.find?_erase_self ..) fun key hkey => Table.find?_erase_of_ne hkey _
  · next items =>
    obtain ⟨i, hi, h⟩ := Option.bind_eq_some_iff.mp h
    obtain ⟨_, hv, heq⟩ := Option.map_eq_some_iff.mp h
    cases heq
    obtain ⟨before, after, rfl, rfl⟩ := exists_split_of_getElem? hv
    rw [List.eraseIdx_append_of_length_le (Nat.le_refl _), Nat.sub_self, List.eraseIdx_cons_zero]
    exact .item hi
  · cases h

/-- Without the child it is another container. -/
theorem Loses.ne (h : Loses s v parent left) : left ≠ parent := by
  cases h with
  | field there gone _ =>
    rintro ⟨⟩
    rw [there] at gone
    cases gone
  | item _ =>
    intro heq
    have hlength := congrArg (fun doc => doc.items.length) heq
    simp at hlength

/-! ### The segments before the last one -/

/-- The last segment takes a value out of what the segments before it lead to, and what is left is
written back there. -/
theorem removeAt?_concat (doc : Json) (front : List String) (last : String) :
    removeAt? doc (front ++ [last]) =
      (getAt doc front).bind fun parent =>
        (removeChild? parent last).map fun r => (r.1, setAt doc front r.2) := by
  induction front generalizing doc with
  | nil => exact Option.map_id'.symm
  | cons s rest ih =>
    have hcons : removeAt? doc (s :: rest ++ [last]) = (child? doc s).bind fun next =>
        (removeAt? next (rest ++ [last])).map fun r => (r.1, putChild doc s r.2) := by
      cases rest <;> rfl
    rw [hcons, getAt]
    cases hnext : child? doc s with
    | none => rfl
    | some next =>
      rw [Option.bind_some, Option.bind_some, ih, Option.map_bind]
      simp only [setAt_cons_of_child? hnext, Function.comp_def, Option.map_map]

/-- What is taken out of a document is what is read there. -/
theorem map_fst_removeAt? (doc : Json) (front : List String) (last : String) :
    (removeAt? doc (front ++ [last])).map Prod.fst = getAt doc (front ++ [last]) := by
  rw [removeAt?_concat, getAt_append, Option.map_bind]
  congr 1
  funext parent
  rw [Function.comp_apply, Option.map_map]
  show (removeChild? parent last).map Prod.fst = (child? parent last).bind some
  rw [map_fst_removeChild?, Option.bind_fun_some]

/-- A write over a value changes the document at the place of that value only. -/
theorem SameBut.of_setAt (h : getAt doc front = some parent) (left : Json) :
    SameBut (trail doc front) doc (setAt doc front left) := by
  induction front generalizing doc with
  | nil => exact .here doc left
  | cons s rest ih =>
    obtain ⟨next, hnext, h⟩ := Option.bind_eq_some_iff.mp h
    have hinside := ih h
    rw [trail, find?_slots_of_child? hnext, Option.getD_some, setAt_cons_of_child? hnext]
    cases doc with
    | object fields =>
      exact .field hnext (Table.find?_insert_self ..)
        (fun other hother => Table.find?_insert_of_ne hother ..) hinside
    | array items =>
      obtain ⟨i, hi, hitem⟩ := Option.bind_eq_some_iff.mp hnext
      obtain ⟨hlt, -⟩ := List.getElem?_eq_some_iff.mp hitem
      rw [step_of_index? hi hlt]
      simp only [putChild, hi]
      obtain ⟨before, after, rfl, rfl⟩ := exists_split_of_getElem? hitem
      rw [List.set_append_right _ _ (Nat.le_refl _), Nat.sub_self, List.set_cons_zero]
      exact .item hinside
    | null | bool _ | number _ | string _ => cases hnext

/-! ### The key that a segment means afterwards -/

/-- Once its field is removed a segment is no key. -/
theorem not_has_erase_objectKey (fields : Table Json) (s : String) :
    Table.has (Table.erase fields (objectKey fields s)) s ≠ true := by
  intro hleft
  obtain ⟨u, hu⟩ := Option.isSome_iff_exists.mp hleft
  have hkey : objectKey fields s = s := objectKey_of_find? (Table.find?_of_find?_erase hu)
  rw [hkey, Table.find?_erase_self] at hu
  cases hu

theorem objectKey_of_not_has (h : Table.has fields s ≠ true) :
    objectKey fields s = ((Numeral.integer? s).map toString).getD s := by
  rw [objectKey, if_neg h]
  cases Numeral.integer? s <;> rfl

/-- It leads to nothing more, unless it spells the number of another key. -/
theorem child?_erase_of_not_respelled (h : ∀ n, ¬ Respelled fields s n) :
    child? (.object (Table.erase fields (objectKey fields s))) s = none := by
  have hs := not_has_erase_objectKey fields s
  rw [child?, objectKey_of_not_has hs]
  cases hn : Numeral.integer? s with
  | none => exact Option.not_isSome_iff_eq_none.mp hs
  | some n =>
    rw [Option.map_some, Option.getD_some]
    by_cases hkey : toString n = objectKey fields s
    · rw [hkey]
      exact Table.find?_erase_self ..
    · -- the segment did not mean the number, so it was a key, and the number is none
      have hself : Table.has fields s = true := by
        by_contra hself
        rw [objectKey_of_not_has hself, hn] at hkey
        exact hkey rfl
      have hnumber : Table.has fields (toString n) ≠ true :=
        fun hnumber => h n ⟨hn, fun heq => hkey (heq.trans (if_pos hself).symm), hself, hnumber⟩
      rw [Table.find?_erase_of_ne hkey]
      exact Option.not_isSome_iff_eq_none.mp hnumber

/-- A segment that spelled the number of another key leads to that key. -/
theorem Respelled.child?_erase (h : Respelled fields s n) :
    child? (.object (Table.erase fields (objectKey fields s))) s =
      Table.find? fields (toString n) := by
  have hkey : objectKey fields s = s := if_pos h.key
  rw [child?, objectKey_of_not_has (not_has_erase_objectKey fields s), h.spells, hkey]
  exact Table.find?_erase_of_ne h.otherwise _

end

/-! ### Paths -/

section

variable {doc rest v : Json} {path last : String} {front : List String} {fields : Table Json}

theorem isRoot_iff (path : String) : isRoot path = true ↔ segments path = [] :=
  List.isEmpty_iff

/-- What is taken out is what is read, and the whole document stays. -/
theorem map_fst_remove? (doc : Json) (path : String) :
    (remove? doc path).map Prod.fst = if isRoot path then none else get doc path := by
  rw [remove?, get]
  by_cases hroot : isRoot path = true
  · rw [if_pos hroot, (isRoot_iff path).mp hroot]
    rfl
  · have hne : segments path ≠ [] := mt (isRoot_iff path).mpr hroot
    rw [if_neg hroot, ← List.dropLast_concat_getLast hne]
    exact map_fst_removeAt? ..

/-- A value can be taken out where one is read, except at the root. -/
theorem exists_remove?_iff : (∃ rest, remove? doc path = some (v, rest)) ↔
    ¬ isRoot path = true ∧ get doc path = some v := by
  have hread := map_fst_remove? doc path
  constructor
  · rintro ⟨rest, h⟩
    rw [h, Option.map_some] at hread
    obtain ⟨hroot, hget⟩ := Option.ite_none_left_eq_some.mp hread.symm
    exact ⟨hroot, hget⟩
  · rintro ⟨hroot, hget⟩
    rw [if_neg hroot, hget] at hread
    obtain ⟨⟨_, rest⟩, h, rfl⟩ := Option.map_eq_some_iff.mp hread
    exact ⟨rest, h⟩

theorem removed_of_none (h : remove? doc path = none) : removed doc path = doc := by
  rw [removed, h]
  rfl

/-- What becomes of the document, by the last segment. -/
theorem exists_of_remove? (h : remove? doc path = some (v, rest)) :
    ∃ front last parent left, segments path = front ++ [last] ∧ getAt doc front = some parent ∧
      removeChild? parent last = some (v, left) ∧ rest = setAt doc front left := by
  have hne : segments path ≠ [] := by
    intro hnil
    rw [remove?, hnil] at h
    cases h
  have hpath := (List.dropLast_concat_getLast hne).symm
  rw [remove?, hpath, removeAt?_concat] at h
  obtain ⟨parent, hparent, h⟩ := Option.bind_eq_some_iff.mp h
  obtain ⟨⟨_, left⟩, hchild, heq⟩ := Option.map_eq_some_iff.mp h
  cases heq
  exact ⟨_, _, parent, left, hpath, hparent, hchild, rfl⟩

/-- **A removal is exact.** A value is taken out at a path just where one is read, except at the
root, and if none is taken out the document stays. What is left differs at the place of one container
only, which is the one before the last segment, and that has lost the child that the segment leads
to: an object the key, an array the item, and the items after it move down by one. -/
theorem remove_exact (doc : Json) (path : String) :
    (∀ v, (∃ rest, remove? doc path = some (v, rest)) ↔
      ¬ isRoot path = true ∧ get doc path = some v) ∧
    (removed doc path = doc ↔ remove? doc path = none) ∧
    ∀ v rest, remove? doc path = some (v, rest) →
      ∃ front last parent left, segments path = front ++ [last] ∧ getAt doc front = some parent ∧
        getAt rest front = some left ∧ Loses last v parent left ∧
        SameBut (trail doc front) doc rest := by
  refine ⟨fun v => exists_remove?_iff, ⟨fun hsame => ?_, removed_of_none⟩, fun v rest h => ?_⟩
  · by_contra hsome
    obtain ⟨⟨v, rest⟩, h⟩ := Option.ne_none_iff_exists'.mp hsome
    obtain ⟨front, last, parent, left, -, hparent, hchild, rfl⟩ := exists_of_remove? h
    -- the container is read from both documents, and it has lost a child in the one
    have hleft := getAt_setAt doc front left
    have hrest : setAt doc front left = doc := by rwa [removed, h] at hsame
    rw [hrest, hparent] at hleft
    exact (Loses.of_removeChild? hchild).ne (Option.some.inj hleft).symm
  · obtain ⟨front, last, parent, left, hpath, hparent, hchild, rfl⟩ := exists_of_remove? h
    exact ⟨front, last, parent, left, hpath, hparent, getAt_setAt doc front left,
      .of_removeChild? hchild, .of_setAt hparent left⟩

/-- Taking an item out by a signed index closes the gap, and a negative one takes nothing. -/
theorem remove_exact_item :
    let doc := Json.ofFields [("list", .array ["a", "b", "c"]), ("name", "x")]
    let rest := Json.ofFields [("list", .array ["a", "c"]), ("name", "x")]
    remove? doc "/list/+1" = some (.string "b", rest) ∧ removed doc "/list/-1" = doc ∧
    ∃ front last parent left, segments "/list/+1" = front ++ [last] ∧
      getAt doc front = some parent ∧ getAt rest front = some left ∧ Loses last "b" parent left ∧
      SameBut (trail doc front) doc rest := by
  intro doc rest
  have hremove : remove? doc "/list/+1" = some (.string "b", rest) := by unfold doc; rfl
  have hmissing : remove? doc "/list/-1" = none := by unfold doc; rfl
  exact ⟨hremove, (remove_exact doc "/list/-1").2.1.mpr hmissing,
    (remove_exact doc "/list/+1").2.2 _ _ hremove⟩

/-- What is read in an object by the last segment, and what is left there by a removal. -/
theorem get_concat (hpath : segments path = front ++ [last])
    (hparent : getAt doc front = some (.object fields)) :
    get doc path = child? (.object fields) last := by
  rw [get, hpath, getAt_append, hparent]
  exact Option.bind_fun_some _

theorem getAt_of_remove? (hpath : segments path = front ++ [last])
    (hparent : getAt doc front = some (.object fields)) (h : remove? doc path = some (v, rest)) :
    getAt rest front = some (.object (Table.erase fields (objectKey fields last))) := by
  rw [remove?, hpath, removeAt?_concat, hparent, Option.bind_some] at h
  obtain ⟨⟨_, left⟩, hchild, heq⟩ := Option.map_eq_some_iff.mp h
  obtain ⟨_, -, hleft⟩ := Option.map_eq_some_iff.mp hchild
  cases heq
  cases hleft
  exact getAt_setAt ..

theorem remove?_eq_none (hget : get doc path = none) : remove? doc path = none := by
  rw [← Option.map_eq_none_iff (f := Prod.fst), map_fst_remove?, hget, ite_self]

/-- **What the path of a removed field leads to.** Nothing, so that a second removal takes nothing
and changes nothing, as long as the last segment was not a key that spells the number of another key.
If it was, the path leads to that other key, a second removal takes its value, and then the path leads
to nothing and a third removal changes nothing. -/
theorem remove_again (hpath : segments path = front ++ [last])
    (hparent : getAt doc front = some (.object fields))
    (hremove : remove? doc path = some (v, rest)) :
    ((∀ n, ¬ Respelled fields last n) →
      get rest path = none ∧ remove? rest path = none ∧ removed rest path = rest) ∧
    ∀ n, Respelled fields last n →
      get rest path = Table.find? fields (toString n) ∧
      ∃ other again, remove? rest path = some (other, again) ∧
        Table.find? fields (toString n) = some other ∧
        get again path = none ∧ remove? again path = none ∧ removed again path = again := by
  have hleft := getAt_of_remove? hpath hparent hremove
  have hnothing {doc : Json} (hget : get doc path = none) :
      get doc path = none ∧ remove? doc path = none ∧ removed doc path = doc :=
    have hnone := remove?_eq_none hget
    ⟨hget, hnone, removed_of_none hnone⟩
  refine ⟨fun h => hnothing ?_, fun n h => ?_⟩
  · rw [get_concat hpath hleft]
    exact child?_erase_of_not_respelled h
  · have hget : get rest path = Table.find? fields (toString n) := by
      rw [get_concat hpath hleft]
      exact h.child?_erase
    obtain ⟨other, hother⟩ := Option.isSome_iff_exists.mp h.number
    have hroot : ¬ isRoot path = true := by
      rw [isRoot_iff, hpath]
      exact List.append_ne_nil_of_right_ne_nil _ (List.cons_ne_nil _ _)
    obtain ⟨again, hagain⟩ := exists_remove?_iff.mpr ⟨hroot, hget.trans hother⟩
    refine ⟨hget, other, again, hagain, hother, hnothing ?_⟩
    -- the segment is no key any more, so it cannot be taken for another one again
    have hkey := not_has_erase_objectKey fields last
    rw [get_concat hpath (getAt_of_remove? hpath hleft hagain)]
    exact child?_erase_of_not_respelled fun m hm => hkey hm.key

/-- A key with zeros in front is gone after one removal, and its number after another. A key that is
no number is gone after one. -/
theorem remove_again_respelled :
    let fields : Table Json := [("007", "literal"), ("7", "seven"), ("x", "letter")]
    let rest := Json.object [("7", "seven"), ("x", "letter")]
    let again := Json.object [("x", "letter")]
    remove? (.object fields) "/007" = some (.string "literal", rest) ∧
    get rest "/007" = some (.string "seven") ∧
    remove? rest "/007" = some (.string "seven", again) ∧ get again "/007" = none ∧
    removed again "/007" = again ∧
    remove? again "/x" = some (.string "letter", .object []) ∧
    removed (.object []) "/x" = .object [] := by
  intro fields rest again
  have hzeros : segments "/007" = [] ++ ["007"] := by rfl
  have hletter : segments "/x" = [] ++ ["x"] := by rfl
  have hfirst : remove? (.object fields) "/007" = some (.string "literal", rest) := by
    unfold fields; rfl
  have hsecond : remove? rest "/007" = some (.string "seven", again) := by unfold rest; rfl
  have hthird : remove? again "/x" = some (.string "letter", .object []) := by unfold again; rfl
  have hrespelled : Respelled fields "007" 7 := ⟨by rfl, by decide, by rfl, by rfl⟩
  have hplain (n : Int) : ¬ Respelled [("x", "letter")] "x" n := fun h => by cases h.spells
  obtain ⟨hget, other, left, hleft, -, hgone, -, hsame⟩ :=
    (remove_again hzeros rfl hfirst).2 7 hrespelled
  rw [hsecond] at hleft
  cases hleft
  exact ⟨hfirst, hget, hsecond, hgone, hsame, hthird, ((remove_again hletter rfl hthird).1 hplain).2.2⟩

/-- Removing a field twice is not the same as removing it once. -/
theorem not_forall_remove_twice : ¬ ∀ (doc rest v : Json) (path last : String)
    (front : List String) (fields : Table Json), segments path = front ++ [last] →
    getAt doc front = some (.object fields) → remove? doc path = some (v, rest) →
    get rest path = none ∧ remove? rest path = none ∧ removed rest path = rest := by
  intro h
  let fields : Table Json := [("007", "literal"), ("7", "seven")]
  have hremove : remove? (.object fields) "/007" =
      some (.string "literal", .object [("7", "seven")]) := by unfold fields; rfl
  have hread : get (.object [("7", "seven")]) "/007" = some (.string "seven") := by rfl
  obtain ⟨hget, -⟩ := h (.object fields) _ _ "/007" "007" [] fields (by rfl) rfl hremove
  rw [hread] at hget
  cases hget

end

end Path

end Switchboard

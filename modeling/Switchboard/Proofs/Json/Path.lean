/-
Paths written and read back, and values written and read back along them.

The segments of a path hold no slash, so a path can be put together from them again. What is read
back is the same unless the last segment is empty: its slash is taken for a trailing one.

* `segments_join`: the segments of a path that is put together from segments;
* `getAt_setAt`: what was written is read back, wherever it was written;
* `eraseIdx_of_setAt`, `eraseIdx_of_removeAt?`: an edit below an index leaves the other items alone;
* `sizeOf_lt_of_getAt`: what is found inside a document is smaller than the document.
-/
import Switchboard.Json.Path
import Switchboard.Proofs.Table

namespace Switchboard

namespace Path

/-! ### Splitting at slashes -/

theorem splitSlash_ne_nil (cs : List Char) : splitSlash cs ≠ [] := by
  cases cs with
  | nil => simp [splitSlash]
  | cons c rest =>
    rw [splitSlash]
    split
    · simp
    · split <;> simp

theorem not_mem_splitSlash {cs part : List Char} (h : part ∈ splitSlash cs) : '/' ∉ part := by
  induction cs generalizing part with
  | nil => simp_all [splitSlash]
  | cons c rest ih =>
    rw [splitSlash] at h
    split at h
    · rcases List.mem_cons.mp h with rfl | h
      · simp
      · exact ih h
    · next hc =>
      split at h
      · next hrest => exact absurd hrest (splitSlash_ne_nil rest)
      · next first parts hrest =>
        rw [hrest] at ih
        rcases List.mem_cons.mp h with rfl | h
        · simpa [Ne.symm hc] using ih List.mem_cons_self
        · exact ih (List.mem_cons_of_mem _ h)

theorem splitSlash_eq_singleton {part : List Char} (h : '/' ∉ part) :
    splitSlash part = [part] := by
  induction part with
  | nil => rfl
  | cons c rest ih =>
    obtain ⟨hc, hrest⟩ := not_or.mp (mt List.mem_cons.mpr h)
    rw [splitSlash, if_neg (Ne.symm hc), ih hrest]

theorem splitSlash_append {part : List Char} (h : '/' ∉ part) (cs : List Char) :
    splitSlash (part ++ '/' :: cs) = part :: splitSlash cs := by
  induction part with
  | nil => simp [splitSlash]
  | cons c rest ih =>
    obtain ⟨hc, hrest⟩ := not_or.mp (mt List.mem_cons.mpr h)
    rw [List.cons_append, splitSlash, if_neg (Ne.symm hc), ih hrest]

/-- The text with slashes between the parts. -/
def joinSlash (parts : List (List Char)) : List Char := ['/'].intercalate parts

theorem joinSlash_cons {parts : List (List Char)} (h : parts ≠ []) (part : List Char) :
    joinSlash (part :: parts) = part ++ '/' :: joinSlash parts := by
  obtain ⟨next, rest, rfl⟩ := List.exists_cons_of_ne_nil h
  simp [joinSlash, List.intercalate]

theorem splitSlash_joinSlash {parts : List (List Char)} (hne : parts ≠ [])
    (h : ∀ part ∈ parts, '/' ∉ part) : splitSlash (joinSlash parts) = parts := by
  induction parts with
  | nil => exact absurd rfl hne
  | cons part rest ih =>
    have hpart : '/' ∉ part := h part List.mem_cons_self
    by_cases hrest : rest = []
    · subst hrest
      simpa [joinSlash, List.intercalate] using splitSlash_eq_singleton hpart
    · rw [joinSlash_cons hrest, splitSlash_append hpart,
        ih hrest fun p hp => h p (List.mem_cons_of_mem _ hp)]

theorem joinSlash_concat {parts : List (List Char)} (h : parts ≠ []) (part : List Char) :
    joinSlash (parts ++ [part]) = joinSlash parts ++ '/' :: part := by
  induction parts with
  | nil => exact absurd rfl h
  | cons first rest ih =>
    by_cases hrest : rest = []
    · subst hrest
      simp [joinSlash, List.intercalate]
    · rw [List.cons_append, joinSlash_cons (by simp), ih hrest, joinSlash_cons hrest]
      simp

theorem joinSlash_eq_nil {parts : List (List Char)} (h : parts ≠ []) :
    joinSlash parts = [] ↔ parts = [[]] := by
  obtain ⟨part, rest, rfl⟩ := List.exists_cons_of_ne_nil h
  by_cases hrest : rest = []
  · subst hrest
    simp [joinSlash, List.intercalate]
  · rw [joinSlash_cons hrest]
    simp [hrest]

/-! ### Paths put together from segments -/

theorem not_mem_segments {path s : String} (h : s ∈ segments path) : '/' ∉ s.toList := by
  rw [segments] at h
  split at h
  · cases h
  · obtain ⟨part, hpart, rfl⟩ := List.mem_map.mp h
    rw [String.toList_ofList]
    exact not_mem_splitSlash hpart

theorem dropTrailing_slash (cs : List Char) : dropTrailing (cs ++ ['/']) = cs := by
  simp [dropTrailing, dropLeading]

theorem dropTrailing_of_ne {c : Char} (h : c ≠ '/') (cs : List Char) :
    dropTrailing (cs ++ [c]) = cs ++ [c] := by
  simp [dropTrailing, dropLeading, h]

/-- What is left of segments that are written as a path and read again. An empty segment at the end
gets lost, and so does one that is then alone. -/
def reread (segs : List String) : List String :=
  if segs.getLast? = some "" then if segs.dropLast = [""] then [] else segs.dropLast
  else segs

theorem reread_of_getLast?_ne {segs : List String} (h : segs.getLast? ≠ some "") :
    reread segs = segs := if_neg h

theorem exists_append_of_getLast?_eq {segs : List String} (h : segs.getLast? = some "") :
    ∃ s rest, segs = reread segs ++ s :: rest := by
  obtain ⟨init, rfl⟩ := List.getLast?_eq_some_iff.mp h
  rw [reread, if_pos h, List.dropLast_concat]
  split
  · next hinit => exact ⟨"", [""], by rw [hinit]; rfl⟩
  · exact ⟨"", [], rfl⟩

/-- The segments of a text with slashes between parts, once the slashes at its ends are dropped. -/
theorem segments_eq {path : String} {segs : List String} (hne : segs ≠ [])
    (h : ∀ s ∈ segs, '/' ∉ s.toList)
    (hpath : dropTrailing (dropLeading path.toList) = joinSlash (segs.map String.toList)) :
    segments path = if segs = [""] then [] else segs := by
  have hmap : segs.map String.toList ≠ [] := by simpa using hne
  have hnil : joinSlash (segs.map String.toList) = [] ↔ segs = [""] := by
    rw [joinSlash_eq_nil hmap]
    constructor
    · intro heq
      obtain ⟨s, rfl, hs⟩ := List.map_eq_singleton_iff.mp heq
      rw [String.toList_eq_nil_iff.mp hs]
    · rintro rfl
      rfl
  rw [segments, hpath]
  split
  · next hjoin => rw [if_pos (hnil.mp hjoin)]
  · next hjoin =>
    rw [if_neg (mt hnil.mpr hjoin), splitSlash_joinSlash hmap (by simpa using h), List.map_map]
    simp [Function.comp_def]

/-- The segments of a path that is put together from segments. -/
theorem segments_join {segs : List String} (hne : segs ≠ []) (h : ∀ s ∈ segs, '/' ∉ s.toList) :
    segments ("/" ++ "/".intercalate segs) = reread segs := by
  have hlead : dropLeading ("/" ++ "/".intercalate segs).toList =
      joinSlash (segs.map String.toList) := by
    simp [joinSlash, dropLeading]
  obtain ⟨init, last, rfl⟩ : ∃ init last, segs = init ++ [last] :=
    ⟨_, _, (List.dropLast_concat_getLast hne).symm⟩
  have hinit : ∀ s ∈ init, '/' ∉ s.toList := fun s hs => h s (List.mem_append_left _ hs)
  by_cases hlast : last = ""
  · subst hlast
    rw [reread, if_pos (by simp), List.dropLast_concat]
    by_cases hnil : init = []
    · subst hnil
      rw [segments, hlead]
      rfl
    · rw [segments_eq hnil hinit]
      -- the slash in front of the empty segment is at the end of the text
      rw [hlead, List.map_append, List.map_singleton, String.toList_empty,
        joinSlash_concat (by simpa using hnil), dropTrailing_slash]
  · obtain ⟨cs, c, hcs⟩ : ∃ cs c, last.toList = cs ++ [c] :=
      ⟨_, _, (List.dropLast_concat_getLast (by simpa using hlast)).symm⟩
    have hc : c ≠ '/' := by
      rintro rfl
      exact h last (by simp) (by simp [hcs])
    have hends : ∃ front, joinSlash ((init ++ [last]).map String.toList) = front ++ [c] := by
      by_cases hnil : init = []
      · exact ⟨cs, by simp [hnil, hcs, joinSlash, List.intercalate]⟩
      · refine ⟨joinSlash (init.map String.toList) ++ '/' :: cs, ?_⟩
        rw [List.map_append, List.map_singleton, joinSlash_concat (by simpa using hnil), hcs]
        simp
    obtain ⟨front, hfront⟩ := hends
    have hsegs : (init ++ [last]).getLast? ≠ some "" := by simpa using hlast
    rw [reread_of_getLast?_ne hsegs, segments_eq hne h, if_neg fun heq => hsegs (by rw [heq]; rfl)]
    rw [hlead, hfront, dropTrailing_of_ne hc]

/-! ### Reading after writing -/

/-- Writing under the key that a segment means does not change which key that is. -/
theorem objectKey_insert (fields : List (String × Json)) (s : String) (v : Json) :
    objectKey (Table.insert fields (objectKey fields s) v) s = objectKey fields s := by
  by_cases hkey : objectKey fields s = s
  · rw [hkey, objectKey, if_pos]
    rw [Table.has, Table.find?_insert_self]
    rfl
  · have hfields : Table.has fields s ≠ true := fun h => hkey (if_pos h)
    have hlater : Table.has (Table.insert fields (objectKey fields s) v) s ≠ true := by
      rwa [Table.has, Table.find?_insert_of_ne (Ne.symm hkey)]
    rw [objectKey, if_neg hlater, objectKey, if_neg hfields]

theorem child?_putChild_object (fields : List (String × Json)) (s : String) (v : Json) :
    child? (putChild (.object fields) s v) s = some v := by
  rw [putChild, child?, objectKey_insert, Table.find?_insert_self]

/-- A container with room for a segment holds what is put there. -/
theorem child?_putChild_reshape (doc : Json) (s : String) (v : Json) :
    child? (putChild (reshape doc s) s v) s = some v := by
  unfold reshape
  split
  · exact child?_putChild_object _ s v
  · next items =>
    split
    · next i hi =>
      split
      · have hroom : i < (items ++ List.replicate (i + 1 - items.length) Json.null).length := by
          rw [List.length_append, List.length_replicate]
          omega
        simp only [putChild, child?, hi, Option.bind_some]
        exact List.getElem?_set_self hroom
      · exact child?_putChild_object _ s v
    · exact child?_putChild_object _ s v
  · exact child?_putChild_object _ s v

/-- What was written is read back. -/
theorem getAt_setAt (doc : Json) (segs : List String) (v : Json) :
    getAt (setAt doc segs v) segs = some v := by
  induction segs generalizing doc with
  | nil => rfl
  | cons s rest ih =>
    rw [setAt, getAt, child?_putChild_reshape]
    exact ih _

theorem getAt_append (doc : Json) (segs more : List String) :
    getAt doc (segs ++ more) = (getAt doc segs).bind fun v => getAt v more := by
  induction segs generalizing doc with
  | nil => rfl
  | cons s rest ih =>
    rw [List.cons_append, getAt, getAt]
    cases child? doc s with
    | none => rfl
    | some next => exact ih next

/-! ### Edits below a field -/

theorem objectKey_of_find? {fields : List (String × Json)} {key : String} {v : Json}
    (h : Table.find? fields key = some v) : objectKey fields key = key := by
  rw [objectKey, if_pos]
  rw [Table.has, h]
  rfl

theorem setAt_field {fields : List (String × Json)} {key : String} {old : Json}
    (h : Table.find? fields key = some old) (segs : List String) (v : Json) :
    setAt (.object fields) (key :: segs) v =
      .object (Table.insert fields key (setAt old segs v)) := by
  rw [setAt, reshape, child?, putChild, objectKey_of_find? h, h]
  rfl

/-- A write into the last field of a document. -/
theorem setAt_last (fields : List (String × Json)) (key : String) (old : Json)
    (segs : List String) (v : Json) :
    setAt (.ofFields (fields ++ [(key, old)])) (key :: segs) v =
      .ofFields (fields ++ [(key, setAt old segs v)]) := by
  rw [Json.ofFields, Json.ofFields, Table.ofList_concat, Table.ofList_concat,
    setAt_field (Table.find?_insert_self ..), Table.insert_insert]

theorem removeAt?_field {fields : List (String × Json)} {key s : String} {old : Json}
    (h : Table.find? fields key = some old) (rest : List String) :
    removeAt? (.object fields) (key :: s :: rest) =
      (removeAt? old (s :: rest)).map fun r => (r.1, .object (Table.insert fields key r.2)) := by
  rw [removeAt?, child?, objectKey_of_find? h, h, Option.bind_some]
  · simp only [putChild, objectKey_of_find? h]
  · simp

/-! ### Edits below an index -/

section

variable {items after : List Json} {s : String} {i : Nat}

/-- A write below an index of an array leaves the other items alone, unless it adds empty ones. -/
theorem eraseIdx_of_setAt (hi : Numeral.index? s = some i) {rest : List String} {v : Json}
    (h : setAt (.array items) (s :: rest) v = .array after) (hnull : .null ∉ after) :
    after.eraseIdx i = items.eraseIdx i := by
  simp only [setAt, reshape, hi] at h
  split at h
  · simp only [putChild, hi, Json.array.injEq] at h
    subst h
    rw [List.eraseIdx_set_eq]
    -- the array grows by one item at most, for else empty ones would be left
    rcases Nat.lt_trichotomy i items.length with hlt | heq | hgt
    · rw [Nat.sub_eq_zero_of_le hlt, List.replicate_zero, List.append_nil]
    · subst heq
      rw [List.eraseIdx_append_of_length_le (Nat.le_refl _), List.eraseIdx_of_length_le
        (Nat.le_refl _)]
      simp
    · refine absurd (List.mem_of_getElem? (i := items.length) ?_) hnull
      rw [List.getElem?_set_ne (Nat.ne_of_gt hgt), List.getElem?_append_right (Nat.le_refl _),
        Nat.sub_self, List.getElem?_replicate, if_pos (by omega)]
  · simp [putChild] at h

theorem eq_eraseIdx_of_removeAt? (hi : Numeral.index? s = some i) {v : Json}
    (h : removeAt? (.array items) [s] = some (v, .array after)) : after = items.eraseIdx i := by
  simp only [removeAt?, removeChild?, hi, Option.bind_some, Option.map_eq_some_iff,
    Prod.mk.injEq, Json.array.injEq] at h
  obtain ⟨-, -, -, rfl⟩ := h
  rfl

theorem eraseIdx_of_removeAt? (hi : Numeral.index? s = some i) {t : String} {rest : List String}
    {v : Json} (h : removeAt? (.array items) (s :: t :: rest) = some (v, .array after)) :
    after.eraseIdx i = items.eraseIdx i := by
  simp only [removeAt?, Option.bind_eq_some_iff, Option.map_eq_some_iff, putChild, hi,
    Prod.mk.injEq, Json.array.injEq] at h
  obtain ⟨-, -, -, -, -, rfl⟩ := h
  exact List.eraseIdx_set_eq

end

/-! ### Sizes -/

theorem sizeOf_lt_of_find? {fields : List (String × Json)} {key : String} {v : Json}
    (h : Table.find? fields key = some v) : sizeOf v < sizeOf fields := by
  induction fields with
  | nil => cases h
  | cons e rest ih =>
    obtain ⟨k, w⟩ := e
    rw [Table.find?] at h
    split at h
    · cases h
      simp
      omega
    · have hrest := ih h
      simp
      omega

theorem sizeOf_lt_of_child? {doc v : Json} {s : String} (h : child? doc s = some v) :
    sizeOf v < sizeOf doc := by
  unfold child? at h
  split at h
  · have hfields := sizeOf_lt_of_find? h
    simp
    omega
  · obtain ⟨i, -, hi⟩ := Option.bind_eq_some_iff.mp h
    have hitems := List.sizeOf_lt_of_mem (List.mem_of_getElem? hi)
    simp
    omega
  · cases h

/-- What is found inside a document is smaller than the document. -/
theorem sizeOf_lt_of_getAt {doc v : Json} {s : String} {rest : List String}
    (h : getAt doc (s :: rest) = some v) : sizeOf v < sizeOf doc := by
  induction rest generalizing doc s with
  | nil =>
    obtain ⟨next, hnext, h⟩ := Option.bind_eq_some_iff.mp h
    cases h
    exact sizeOf_lt_of_child? hnext
  | cons t rest ih =>
    obtain ⟨next, hnext, h⟩ := Option.bind_eq_some_iff.mp h
    exact Nat.lt_trans (ih h) (sizeOf_lt_of_child? hnext)

end Path

end Switchboard

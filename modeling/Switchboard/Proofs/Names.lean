/-
Names that are free.

The default names that are counted through are all different, so that one more of them than there
are taken names cannot all be taken. A wished name has no more than twenty numbered variants, so that
there may be none left.

* `numbered_inj`: different numbers give different names;
* `Names.nextFree_not_mem`: the default name that is found is not taken;
* `uniqueName_eq_some_iff`, `uniqueName_eq_none_iff`: the first variant that is not taken.
-/
import Mathlib.Data.List.Nodup
import Switchboard.Names

namespace Switchboard

theorem numbered_inj {base : String} {m n : Nat} (h : numbered base m = numbered base n) :
    m = n := by
  have hdigits : m.repr.toList = n.repr.toList :=
    congrArg String.toList ((String.append_right_inj _).mp h)
  rw [Nat.toList_repr, Nat.toList_repr] at hdigits
  rw [← Nat.ofDigitChars_ten_toDigits (n := m), hdigits, Nat.ofDigitChars_ten_toDigits]

namespace Names

/-- If the number that is found is taken, then so are all that were tried. -/
theorem mem_of_firstFree_mem {kind : NameKind} {taken : List String} {tries start : Nat}
    (h : numbered kind.text (firstFree kind taken tries start) ∈ taken) :
    ∀ i ≤ tries, numbered kind.text (start + i) ∈ taken := by
  induction tries generalizing start with
  | zero =>
    intro i hi
    obtain rfl : i = 0 := by omega
    exact h
  | succ tries ih =>
    rw [firstFree] at h
    by_cases hstart : numbered kind.text start ∈ taken
    · rw [if_pos hstart] at h
      intro i hi
      by_cases hzero : i = 0
      · rw [hzero]
        exact hstart
      · have hlater := ih h (i - 1) (by omega)
        rwa [show start + 1 + (i - 1) = start + i by omega] at hlater
    · rw [if_neg hstart] at h
      exact absurd h hstart

/-- The default name that is found is not taken. -/
theorem nextFree_not_mem (names : Names) (kind : NameKind) (taken : List String) :
    (names.nextFree kind taken).1 ∉ taken := by
  intro h
  have hall := mem_of_firstFree_mem (show numbered kind.text
    (firstFree kind taken (taken.length + 1) (names.counter kind)) ∈ taken from h)
  -- so many different names do not fit into the list
  let tried := (List.range (taken.length + 1)).map fun i =>
    numbered kind.text (names.counter kind + i)
  have hnodup : tried.Nodup := by
    refine List.Nodup.map (fun i j hij => ?_) List.nodup_range
    have := numbered_inj hij
    omega
  have hsubset : tried ⊆ taken := by
    intro name hname
    obtain ⟨i, hi, rfl⟩ := List.mem_map.mp hname
    exact hall i (Nat.le_of_lt (List.mem_range.mp hi))
  have hlength := hnodup.length_le_of_subset hsubset
  simp only [tried, List.length_map, List.length_range] at hlength
  omega

end Names

/-! ### Variants of a wished name -/

/-- What is tried for a wished name: the name itself, and then with the numbers from one on. -/
def variant (base : String) (k : Nat) : String := if k = 0 then base else numbered base k

section

variable {base name : String} {taken : String → Bool}

theorem uniqueName_eq (base : String) (taken : String → Bool) :
    uniqueName base taken =
      ((List.range (maxNameNumber + 1)).find? fun k => !taken (variant base k)).map
        (variant base) := by
  have hvariants : (base :: (List.range maxNameNumber).map fun i => numbered base (i + 1)) =
      (List.range (maxNameNumber + 1)).map (variant base) := by
    rw [List.range_succ_eq_map, List.map_cons, List.map_map]
    rfl
  rw [uniqueName, hvariants, List.find?_map]
  rfl

theorem uniqueName_eq_some_iff : uniqueName base taken = some name ↔
    ∃ k ≤ maxNameNumber, variant base k = name ∧ taken name = false ∧
      ∀ j < k, taken (variant base j) = true := by
  rw [uniqueName_eq, Option.map_eq_some_iff]
  refine exists_congr fun k => ?_
  rw [List.find?_range_eq_some, List.mem_range, Nat.lt_succ_iff]
  simp only [Bool.not_eq_eq_eq_not, Bool.not_true, Bool.not_false]
  constructor
  · rintro ⟨⟨hfree, hk, hearlier⟩, rfl⟩
    exact ⟨hk, rfl, hfree, hearlier⟩
  · rintro ⟨hk, rfl, hfree, hearlier⟩
    exact ⟨⟨hfree, hk, hearlier⟩, rfl⟩

theorem uniqueName_eq_none_iff : uniqueName base taken = none ↔
    ∀ k ≤ maxNameNumber, taken (variant base k) = true := by
  rw [uniqueName_eq, Option.map_eq_none_iff, List.find?_range_eq_none]
  simp only [Nat.lt_succ_iff, Bool.not_not]

end

end Switchboard

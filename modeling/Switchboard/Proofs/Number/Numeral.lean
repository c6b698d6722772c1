/-
Numerals that are read.

A number is read from digits whose value stays within the limit, and its own numeral is among the
texts it is read from. An index that is no larger than a signed word is read as an integer from the
same texts.

* `readDigits_eq_ok_iff`: what digits are read as;
* `index?_toString`, `integer?_toString`: numbers are read back from their numerals;
* `integer?_of_index?`: an index within a signed word is the same integer.
-/
import Switchboard.Number.Numeral
import Switchboard.Proofs.Json.Decode

namespace Switchboard

namespace Numeral

variable {limit value n : Nat} {excess : Fault} {cs : List Char} {s : String}

/-! ### Digits -/

theorem digit?_eq_some_iff {c : Char} {d : Nat} :
    digit? c = some d ↔ c.isDigit ∧ c.toNat - '0'.toNat = d := by
  rw [digit?, Option.ite_none_right_eq_some, Option.some_inj, Char.isDigit_iff_toNat]
  rfl

theorem le_ofDigitChars (cs : List Char) (value : Nat) : value ≤ Nat.ofDigitChars 10 cs value := by
  induction cs generalizing value with
  | nil => simp
  | cons c rest ih =>
    rw [Nat.ofDigitChars_cons]
    exact Nat.le_trans (by omega) (ih _)

/-- Digits are read to the end if their value is within the limit. -/
theorem readDigits_eq_ok_iff (hvalue : value ≤ limit) :
    readDigits limit excess cs value = .ok n ↔
      (∀ c ∈ cs, c.isDigit) ∧ Nat.ofDigitChars 10 cs value = n ∧ n ≤ limit := by
  induction cs generalizing value with
  | nil =>
    simp only [readDigits, Except.ok.injEq, Nat.ofDigitChars_nil]
    constructor
    · rintro rfl
      simp [hvalue]
    · exact fun h => h.2.1
  | cons c rest ih =>
    rw [readDigits, Nat.ofDigitChars_cons, Nat.mul_comm 10 value]
    cases hc : digit? c with
    | none =>
      have hnot : ¬ c.isDigit = true := fun hdigit => by
        rw [digit?_eq_some_iff.mpr ⟨hdigit, rfl⟩] at hc
        cases hc
      simp [hnot]
    | some d =>
      obtain ⟨hdigit, rfl⟩ := digit?_eq_some_iff.mp hc
      dsimp only
      split
      · next hfits =>
        rw [ih hfits]
        simp [hdigit]
      · next hlarge =>
        have hleast := le_ofDigitChars rest (value * 10 + (c.toNat - '0'.toNat))
        constructor
        · intro h
          cases h
        · rintro ⟨-, rfl, hn⟩
          omega

/-- Different numbers have different numerals. -/
theorem toString_inj {m n : Nat} : toString m = toString n ↔ m = n := by
  refine ⟨fun h => ?_, congrArg toString⟩
  rw [Nat.toString_eq_ofList_toDigits, Nat.toString_eq_ofList_toDigits, String.ofList_inj] at h
  calc m = Nat.ofDigitChars 10 (Nat.toDigits 10 m) 0 := Nat.ofDigitChars_ten_toDigits.symm
    _ = Nat.ofDigitChars 10 (Nat.toDigits 10 n) 0 := by rw [h]
    _ = n := Nat.ofDigitChars_ten_toDigits

theorem readDigits_toDigits (h : n ≤ limit) :
    readDigits limit excess (Nat.toDigits 10 n) 0 = .ok n :=
  (readDigits_eq_ok_iff (Nat.zero_le _)).mpr
    ⟨fun _ => Nat.isDigit_of_mem_toDigits (by decide) (by decide), Nat.ofDigitChars_ten_toDigits, h⟩

/-! ### Texts of digits -/

section

variable (hne : cs ≠ []) (hdigits : ∀ c ∈ cs, c.isDigit)
include hne hdigits

theorem exists_cons_of_digits : ∃ c rest, cs = c :: rest ∧ c ≠ '+' ∧ c ≠ '-' := by
  obtain ⟨c, rest, rfl⟩ := List.exists_cons_of_ne_nil hne
  have hc := hdigits c List.mem_cons_self
  refine ⟨c, rest, rfl, ?_, ?_⟩ <;> rintro rfl <;> cases hc

theorem readNat_ofList : readNat limit (String.ofList cs) = readDigits limit .tooLarge cs 0 := by
  obtain ⟨c, rest, rfl, hplus, hminus⟩ := exists_cons_of_digits hne hdigits
  unfold readNat
  split <;> simp_all

theorem readInt_ofList :
    readInt limit (String.ofList cs) = (readDigits limit .tooLarge cs 0).map Int.ofNat := by
  obtain ⟨c, rest, rfl, hplus, hminus⟩ := exists_cons_of_digits hne hdigits
  unfold readInt
  split <;> simp_all

theorem readInt_minus :
    readInt limit (String.ofList ('-' :: cs)) =
      (readDigits (limit + 1) .tooSmall cs 0).map fun n => -(n : Int) := by
  obtain ⟨c, rest, rfl, -, -⟩ := exists_cons_of_digits hne hdigits
  rw [readInt, String.toList_ofList]
  rfl

end

/-! ### Numbers and their numerals -/

theorem toOption_eq_some_iff {α : Type} {r : Except Fault α} {a : α} :
    r.toOption = some a ↔ r = .ok a := by
  cases r <;> simp [Except.toOption]

theorem index?_toString (h : n ≤ word64) : index? (toString n) = some n := by
  rw [index?, Nat.toString_eq_ofList_toDigits, readNat_ofList Nat.toDigits_ne_nil
    fun _ => Nat.isDigit_of_mem_toDigits (by decide) (by decide), readDigits_toDigits h]
  rfl

theorem integer?_natCast (h : n ≤ signed64) : integer? (toString n) = some (n : Int) := by
  rw [integer?, Nat.toString_eq_ofList_toDigits, readInt_ofList Nat.toDigits_ne_nil
    fun _ => Nat.isDigit_of_mem_toDigits (by decide) (by decide), readDigits_toDigits h]
  rfl

theorem integer?_negSucc (h : n ≤ signed64) :
    integer? (toString (Int.negSucc n)) = some (Int.negSucc n) := by
  have htext : toString (Int.negSucc n) = String.ofList ('-' :: Nat.toDigits 10 (n + 1)) := by
    apply String.toList_injective
    rw [String.toList_ofList]
    show ("-" ++ toString (n + 1)).toList = _
    rw [Nat.toString_eq_ofList_toDigits]
    simp
  rw [integer?, htext, readInt_minus Nat.toDigits_ne_nil
    fun _ => Nat.isDigit_of_mem_toDigits (by decide) (by decide), readDigits_toDigits (by omega)]
  rfl

/-- An index that is no larger than a signed word is an integer. -/
theorem integer?_of_index? (h : index? s = some n) (hn : n ≤ signed64) :
    integer? s = some (n : Int) := by
  have hread {cs : List Char} (h : readDigits word64 .tooLarge cs 0 = .ok n) :
      readDigits signed64 .tooLarge cs 0 = .ok n := by
    obtain ⟨hdigits, hvalue, -⟩ := (readDigits_eq_ok_iff (Nat.zero_le _)).mp h
    exact (readDigits_eq_ok_iff (Nat.zero_le _)).mpr ⟨hdigits, hvalue, hn⟩
  rw [index?, toOption_eq_some_iff] at h
  rw [integer?, toOption_eq_some_iff]
  unfold readNat at h
  split at h
  · cases h
  · cases h
  · cases h
  · next digits hne hs =>
    obtain ⟨c, rest, rfl⟩ := List.exists_cons_of_ne_nil hne
    rw [readInt, hs]
    show (readDigits signed64 .tooLarge (c :: rest) 0).map Int.ofNat = .ok (n : Int)
    rw [hread h]
    rfl
  · next hne _ _ _ =>
    have hdigits := ((readDigits_eq_ok_iff (Nat.zero_le _)).mp h).1
    rw [← String.ofList_toList (s := s), readInt_ofList hne hdigits, hread h]
    rfl

theorem integer?_bounds {m : Int} (h : integer? s = some m) :
    -(signed64 + 1 : Int) ≤ m ∧ m ≤ signed64 := by
  have hread {limit n : Nat} {excess : Fault} {cs : List Char}
      (h : readDigits limit excess cs 0 = .ok n) : n ≤ limit :=
    ((readDigits_eq_ok_iff (Nat.zero_le _)).mp h).2.2
  rw [integer?, toOption_eq_some_iff] at h
  unfold readInt at h
  split at h
  · cases h
  · cases h
  · cases h
  · obtain ⟨n, hn, rfl⟩ := Except.map_eq_ok.mp h
    have := hread hn
    simp only [Int.ofNat_eq_natCast]
    omega
  · obtain ⟨_, hcast, rfl⟩ := Except.map_eq_ok.mp h
    obtain ⟨n, hn, heq⟩ := Except.bind_eq_ok.mp hcast
    cases heq
    have := hread hn
    omega
  · obtain ⟨n, hn, rfl⟩ := Except.map_eq_ok.mp h
    have := hread hn
    simp only [Int.ofNat_eq_natCast]
    omega

/-- An integer is read again from its numeral. -/
theorem integer?_toString {m : Int} (h : integer? s = some m) :
    integer? (toString m) = some m := by
  obtain ⟨hleast, hmost⟩ := integer?_bounds h
  cases m with
  | ofNat n => exact integer?_natCast (Int.ofNat_le.mp hmost)
  | negSucc n => exact integer?_negSucc (by omega)

end Numeral

end Switchboard

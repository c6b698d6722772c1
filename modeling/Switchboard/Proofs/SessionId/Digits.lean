/-
Digits of session ids.

A list of digits stands for a number in base 32, the first digit being the most significant one, and
each digit is written as a character. Numbers, digits and characters have one order.

* `number`, `places`: the number of digits, and the digits of a number;
* `number_lt_number_iff`: numbers of equally many digits are in the order of their digits;
* `digitValue?_eq_some_iff`: a character is read as a digit if it is the digit in either case;
* `readDigits_eq_ok_iff`: digits that are read one by one make up their number, as far as that fits.
-/
import Mathlib.Data.Nat.Bitwise
import Mathlib.Order.Basic
import Mathlib.Tactic.Ring
import Switchboard.SessionId

namespace Switchboard

namespace SessionId

/-! ### Numbers and their digits -/

/-- The number that has the digits `ds` behind those of `start`. -/
def numberFrom (start : Nat) (ds : List Nat) : Nat := ds.foldl (fun n d => n * 32 + d) start

/-- The number of some digits. -/
def number (ds : List Nat) : Nat := numberFrom 0 ds

/-- The last `k` digits of a number. -/
def places (k n : Nat) : List Nat := (List.range k).map fun i => n / Nat.pow 32 (k - 1 - i) % 32

/-- All of them are digits in base 32. -/
def AreDigits (ds : List Nat) : Prop := ∀ d ∈ ds, d < 32

section

variable {ds es : List Nat}

theorem numberFrom_eq (start : Nat) (ds : List Nat) :
    numberFrom start ds = start * 32 ^ ds.length + number ds := by
  induction ds generalizing start with
  | nil => simp [number, numberFrom]
  | cons d rest ih =>
    have hrest (start : Nat) :
        numberFrom start (d :: rest) = numberFrom (start * 32 + d) rest := rfl
    rw [number, hrest, hrest, ih, ih (0 * 32 + d), List.length_cons, Nat.pow_succ]
    ring

theorem number_cons (d : Nat) (ds : List Nat) :
    number (d :: ds) = d * 32 ^ ds.length + number ds := by
  rw [← numberFrom_eq]
  show numberFrom (0 * 32 + d) ds = _
  rw [Nat.zero_mul, Nat.zero_add]

theorem number_concat (ds : List Nat) (d : Nat) : number (ds ++ [d]) = number ds * 32 + d :=
  List.foldl_append

theorem number_lt (h : AreDigits ds) : number ds < 32 ^ ds.length := by
  induction ds with
  | nil => exact Nat.one_pos
  | cons d rest ih =>
    obtain ⟨hd, hrest⟩ := List.forall_mem_cons.mp h
    calc number (d :: rest) = d * 32 ^ rest.length + number rest := number_cons d rest
      _ < d * 32 ^ rest.length + 32 ^ rest.length := Nat.add_lt_add_left (ih hrest) _
      _ = (d + 1) * 32 ^ rest.length := by ring
      _ ≤ 32 * 32 ^ rest.length := Nat.mul_le_mul_right _ hd
      _ = 32 ^ (d :: rest).length := by rw [List.length_cons, Nat.pow_succ, Nat.mul_comm]

/-- What comes first counts for more than all that follows. -/
theorem add_lt_add_of_first_lt {d e x y size : Nat} (hde : d < e) (hx : x < size) :
    d * size + x < e * size + y :=
  calc d * size + x < d * size + size := Nat.add_lt_add_left hx _
    _ = (d + 1) * size := by ring
    _ ≤ e * size := Nat.mul_le_mul_right _ hde
    _ ≤ e * size + y := Nat.le_add_right _ _

/-- Numbers of equally many digits are in the order of their digits. -/
theorem number_lt_number_iff (hd : AreDigits ds) (he : AreDigits es)
    (hlength : ds.length = es.length) : number ds < number es ↔ ds < es := by
  induction ds generalizing es with
  | nil =>
    obtain rfl := List.length_eq_zero_iff.mp hlength.symm
    simp
  | cons d ds ih =>
    cases es with
    | nil => cases hlength
    | cons e es =>
      obtain ⟨-, hds⟩ := List.forall_mem_cons.mp hd
      obtain ⟨-, hes⟩ := List.forall_mem_cons.mp he
      have hlen : ds.length = es.length := Nat.succ.inj hlength
      have hx : number ds < 32 ^ es.length := hlen ▸ number_lt hds
      have hy : number es < 32 ^ es.length := number_lt hes
      rw [number_cons, number_cons, hlen, List.cons_lt_cons_iff, ← ih hds hes hlen]
      -- the first digits decide, unless they are the same
      rcases Nat.lt_trichotomy d e with hde | rfl | hde
      · exact iff_of_true (add_lt_add_of_first_lt hde hx) (.inl hde)
      · simp
      · have hlt := add_lt_add_of_first_lt (y := number ds) hde hy
        exact iff_of_false (Nat.lt_asymm hlt) (by omega)

/-- Equally many digits with the same number are the same digits. -/
theorem number_inj (hd : AreDigits ds) (he : AreDigits es) (hlength : ds.length = es.length)
    (h : number ds = number es) : ds = es := by
  have hlt : ¬ ds < es := by
    rw [← number_lt_number_iff hd he hlength]
    omega
  have hgt : ¬ es < ds := by
    rw [← number_lt_number_iff he hd hlength.symm]
    omega
  exact List.le_antisymm hgt hlt

end

/-! ### The digits of a number -/

@[simp] theorem length_places (k n : Nat) : (places k n).length = k := by simp [places]

theorem areDigits_places (k n : Nat) : AreDigits (places k n) := by
  intro d hd
  obtain ⟨i, -, rfl⟩ := List.mem_map.mp hd
  exact Nat.mod_lt _ (by decide)

theorem places_succ (k n : Nat) : places (k + 1) n = places k (n / 32) ++ [n % 32] := by
  rw [places, places, List.range_succ, List.map_append]
  congr 1
  · refine List.map_congr_left fun i hi => ?_
    have hi : k + 1 - 1 - i = k - 1 - i + 1 := by
      have := List.mem_range.mp hi
      omega
    rw [hi, Nat.div_div_eq_div_mul]
    congr 2
    exact (Nat.pow_succ ..).trans (Nat.mul_comm ..)
  · simp

theorem number_places (k n : Nat) : number (places k n) = n % 32 ^ k := by
  induction k generalizing n with
  | zero => simp [places, number, numberFrom, Nat.mod_one]
  | succ k ih =>
    rw [places_succ, number_concat, ih, Nat.pow_succ', Nat.mod_mul]
    omega

theorem places_number {ds : List Nat} (h : AreDigits ds) : places ds.length (number ds) = ds := by
  refine number_inj (areDigits_places _ _) h (length_places _ _) ?_
  rw [number_places, Nat.mod_eq_of_lt (number_lt h)]

/-! ### Digits as characters -/

/-- The character of a digit. -/
def digit (d : Nat) : Char := digits.getD d '0'

theorem digit_lt_digit_iff : ∀ d < 32, ∀ e < 32, (digit d).toNat < (digit e).toNat ↔ d < e := by
  decide +kernel

theorem digit_ascii : ∀ d < 32, (digit d).toNat < 128 := by decide +kernel

theorem digit_plain : ∀ d < 32, digit d ≠ '_' ∧ upper (digit d) = digit d := by decide +kernel

theorem digit_inj {d e : Nat} (hd : d < 32) (he : e < 32) (h : digit d = digit e) : d = e := by
  have hlt := digit_lt_digit_iff d hd e he
  have hgt := digit_lt_digit_iff e he d hd
  rw [h] at hlt hgt
  omega

/-- A character is read as a digit if it is the digit in either case. -/
theorem digitValue?_eq_some_iff {c : Char} {d : Nat} :
    digitValue? c = some d ↔ d < 32 ∧ upper c = digit d := by
  rw [digitValue?, List.idxOf?_eq_some_iff]
  constructor
  · rintro ⟨hd, heq, -⟩
    refine ⟨hd, ?_⟩
    rw [digit, List.getD_eq_getElem _ _ hd, heq]
  · rintro ⟨hd, heq⟩
    have hget {i : Nat} (hi : i < 32) : digits[i] = digit i := (List.getD_eq_getElem _ _ hi).symm
    refine ⟨hd, by rw [hget hd, heq], fun j hj hsame => ?_⟩
    have hlt := Nat.lt_trans hj hd
    exact Nat.ne_of_lt hj (digit_inj hlt hd ((hget hlt).symm.trans (hsame.trans heq)))

/-! ### Reading -/

/-- One more digit moves those before it by a place. -/
theorem shift_or_eq (value : BitVec 128) {d : Nat} (hd : d < 32) :
    value <<< 5 ||| BitVec.ofNat 128 d = BitVec.ofNat 128 (value.toNat * 32 + d) := by
  apply BitVec.eq_of_toNat_eq
  rw [BitVec.toNat_or, BitVec.toNat_shiftLeft, BitVec.toNat_ofNat, BitVec.toNat_ofNat,
    ← Nat.or_mod_two_pow, ← Nat.shiftLeft_add_eq_or_of_lt hd, Nat.shiftLeft_eq]

/-- The characters are the digits `ds`, each in either case. -/
def Spell (cs : List Char) (ds : List Nat) : Prop :=
  List.Forall₂ (fun c d => digitValue? c = some d) cs ds

theorem Spell.areDigits {cs : List Char} {ds : List Nat} (h : Spell cs ds) : AreDigits ds := by
  induction h with
  | nil => nofun
  | cons hc _ ih => exact List.forall_mem_cons.mpr ⟨(digitValue?_eq_some_iff.mp hc).1, ih⟩

/-- Digits that are read one by one make up their number, as far as that fits into 128 bits. -/
theorem readDigits_eq_ok_iff {cs : List Char} {start value : BitVec 128} :
    readDigits cs start = .ok value ↔
      ∃ ds, Spell cs ds ∧ value = BitVec.ofNat 128 (numberFrom start.toNat ds) := by
  induction cs generalizing start with
  | nil =>
    rw [readDigits, Except.ok.injEq]
    constructor
    · rintro rfl
      exact ⟨[], .nil, by simp [numberFrom]⟩
    · rintro ⟨_, ⟨⟩, rfl⟩
      simp [numberFrom]
  | cons c rest ih =>
    rw [readDigits]
    -- what no longer fits is dropped after each digit, or after all of them
    have hstep {d : Nat} (hd : d < 32) (ds : List Nat) :
        BitVec.ofNat 128 (numberFrom (start <<< 5 ||| BitVec.ofNat 128 d).toNat ds) =
          BitVec.ofNat 128 (numberFrom start.toNat (d :: ds)) := by
      apply BitVec.eq_of_toNat_eq
      rw [shift_or_eq start hd, BitVec.toNat_ofNat, BitVec.toNat_ofNat, BitVec.toNat_ofNat]
      rw [show numberFrom start.toNat (d :: ds) = numberFrom (start.toNat * 32 + d) ds from rfl,
        numberFrom_eq, numberFrom_eq (start.toNat * 32 + d), Nat.add_mod, Nat.mod_mul_mod,
        ← Nat.add_mod]
    cases hc : digitValue? c with
    | none =>
      refine iff_of_false nofun ?_
      rintro ⟨_, h, -⟩
      cases h with
      | cons hd _ => rw [hc] at hd; cases hd
    | some d =>
      have hd : d < 32 := (digitValue?_eq_some_iff.mp hc).1
      dsimp only
      rw [ih]
      constructor
      · rintro ⟨ds, hds, rfl⟩
        exact ⟨d :: ds, .cons hc hds, hstep hd ds⟩
      · rintro ⟨_, h, rfl⟩
        cases h with
        | @cons _ e _ ds he hds =>
          obtain rfl : d = e := Option.some.inj (hc.symm.trans he)
          exact ⟨ds, hds, (hstep hd ds).symm⟩

end SessionId

end Switchboard

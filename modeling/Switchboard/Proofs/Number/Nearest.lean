/-
Whole numbers as doubles.

A double has fifty-three significant bits. So the doubles around a large whole number are multiples
of a power of two, and the number is rounded to one of them; up to `2 ^ 53` every whole number is a
double itself. Rounding keeps the order, but it may make different numbers equal.

* `nearest`: the whole number that the double of a whole number stands for;
* `toRat_ofInt`: it is what the bit pattern stands for;
* `same_ofInt`, `less_ofInt`: comparing the doubles of whole numbers;
* `isNearest_nearest`: no double is nearer.
-/
import Mathlib.Algebra.Order.Field.Power
import Mathlib.Data.Rat.Cast.Order
import Mathlib.Tactic.Linarith
import Mathlib.Tactic.Ring
import Switchboard.Number.Binary64

namespace Switchboard

namespace Binary64

/-- The step from one double to the next around a natural number, and one where that is less. -/
def spacing (n : Nat) : Nat := 2 ^ (n.log2 - 52)

/-- The natural number rounded to a multiple of its spacing, a tie to the even multiple. -/
def nearestNat (n : Nat) : Nat := roundDiv n (spacing n) * spacing n

/-- The number rounded to fifty-three significant bits. -/
def nearest (n : Int) : Int := n.sign * nearestNat n.natAbs

/-- A whole number that is a double, and that no other double is nearer to `n`. -/
def IsNearest (n m : Int) : Prop :=
  (∃ x : Binary64, x.toRat = m) ∧ ∀ x : Binary64, |(n : Rat) - m| ≤ |(n : Rat) - x.toRat|

variable {a b d k n : Nat}

/-! ### Rounding a quotient -/

theorem roundDiv_bounds (a d : Nat) : a / d ≤ roundDiv a d ∧ roundDiv a d ≤ a / d + 1 := by
  simp only [roundDiv]
  split_ifs <;> omega

theorem roundDiv_one (n : Nat) : roundDiv n 1 = n := by
  simp [roundDiv, Nat.mod_one]

theorem roundDiv_mono (h : a ≤ b) : roundDiv a d ≤ roundDiv b d := by
  obtain ⟨-, ha⟩ := roundDiv_bounds a d
  obtain ⟨hb, -⟩ := roundDiv_bounds b d
  rcases Nat.lt_or_eq_of_le (Nat.div_le_div_right (c := d) h) with hlt | heq
  · omega
  · have hmod : a % d ≤ b % d := by
      have hdiva := Nat.div_add_mod a d
      have hdivb := Nat.div_add_mod b d
      rw [heq] at hdiva
      omega
    simp only [roundDiv, heq]
    split_ifs <;> omega

/-- Rounding is off by at most half a unit. -/
theorem two_mul_dist_roundDiv (hd : 0 < d) (n : Nat) :
    2 * ((n : Int) - (roundDiv n d * d : Nat)).natAbs ≤ d := by
  have hdiv := Nat.div_add_mod' n d
  have hmod := Nat.mod_lt n hd
  have hsucc : (n / d + 1) * d = n / d * d + d := Nat.succ_mul _ _
  simp only [roundDiv]
  split_ifs <;> omega

/-- No other multiple is nearer. -/
theorem dist_roundDiv_le (hd : 0 < d) (n : Nat) (t : Int) :
    |(n : Int) - (roundDiv n d * d : Nat)| ≤ |(n : Int) - t * d| := by
  have hhalf := two_mul_dist_roundDiv hd n
  by_cases ht : (roundDiv n d : Int) = t
  · rw [← ht]
    push_cast
    exact le_refl _
  · have hapart : d ≤ (((roundDiv n d : Int) - t) * d).natAbs := by
      rw [Int.natAbs_mul, Int.natAbs_natCast]
      exact Nat.le_mul_of_pos_left d (Int.natAbs_pos.mpr (by omega))
    rw [Int.sub_mul] at hapart
    rw [Nat.cast_mul] at hhalf ⊢
    rw [Int.abs_eq_natAbs, Int.abs_eq_natAbs]
    omega

/-! ### The spacing -/

theorem spacing_pos (n : Nat) : 0 < spacing n := Nat.two_pow_pos _

theorem log2_le_of_lt (h : n < 2 ^ (k + 1)) : n.log2 ≤ k := by
  by_cases hn : n = 0
  · rw [hn]
    exact Nat.zero_le k
  · exact Nat.le_of_lt_succ ((Nat.log2_lt hn).mpr h)

theorem log2_mono (h : a ≤ b) : a.log2 ≤ b.log2 :=
  log2_le_of_lt (Nat.lt_of_le_of_lt h Nat.lt_log2_self)

theorem spacing_of_lt (h : n < 2 ^ 53) : spacing n = 1 := by
  rw [spacing, Nat.sub_eq_zero_of_le (log2_le_of_lt h), Nat.pow_zero]

theorem two_pow_log2 (h : 52 ≤ n.log2) : 2 ^ n.log2 = 2 ^ 52 * spacing n := by
  rw [spacing, ← Nat.pow_add, Nat.add_sub_cancel' h]

/-- In units of its spacing a number has fifty-three bits. -/
theorem div_spacing (h : 52 ≤ n.log2) :
    2 ^ 52 ≤ n / spacing n ∧ n / spacing n < 2 ^ 53 := by
  have hn : n ≠ 0 := by
    rintro rfl
    simp at h
  have hpower := two_pow_log2 h
  rw [Nat.le_div_iff_mul_le (spacing_pos n), Nat.div_lt_iff_lt_mul (spacing_pos n), ← hpower]
  refine ⟨Nat.log2_self_le hn, ?_⟩
  calc n < 2 ^ (n.log2 + 1) := Nat.lt_log2_self
    _ = 2 ^ 53 * spacing n := by rw [Nat.pow_succ, hpower]; omega

/-! ### Rounding whole numbers -/

theorem nearestNat_of_le (h : n ≤ 2 ^ 53) : nearestNat n = n := by
  rcases Nat.lt_or_eq_of_le h with hlt | rfl
  · rw [nearestNat, spacing_of_lt hlt, roundDiv_one, Nat.mul_one]
  · decide

/-- Rounding stays between the powers of two around a number. -/
theorem nearestNat_bounds (hn : n ≠ 0) :
    2 ^ n.log2 ≤ nearestNat n ∧ nearestNat n ≤ 2 ^ (n.log2 + 1) := by
  by_cases h : 52 ≤ n.log2
  · obtain ⟨hlow, hhigh⟩ := div_spacing h
    obtain ⟨hge, hle⟩ := roundDiv_bounds n (spacing n)
    have hdouble : 2 ^ 52 * spacing n * 2 = 2 ^ 53 * spacing n := by omega
    rw [Nat.pow_succ, two_pow_log2 h, nearestNat, hdouble]
    exact ⟨Nat.mul_le_mul_right _ (by omega), Nat.mul_le_mul_right _ (by omega)⟩
  · have hsmall : n < 2 ^ 53 := (Nat.log2_lt hn).mp (by omega)
    rw [nearestNat_of_le hsmall.le]
    exact ⟨Nat.log2_self_le hn, Nat.lt_log2_self.le⟩

theorem nearestNat_mono (h : a ≤ b) : nearestNat a ≤ nearestNat b := by
  by_cases ha : a = 0
  · rw [ha]
    exact Nat.zero_le _
  rcases Nat.lt_or_eq_of_le (log2_mono h) with hlt | heq
  · calc nearestNat a ≤ 2 ^ (a.log2 + 1) := (nearestNat_bounds ha).2
      _ ≤ 2 ^ b.log2 := Nat.pow_le_pow_right (by decide) hlt
      _ ≤ nearestNat b := (nearestNat_bounds (by omega)).1
  · have hspacing : spacing a = spacing b := by rw [spacing, spacing, heq]
    rw [nearestNat, nearestNat, hspacing]
    exact Nat.mul_le_mul_right _ (roundDiv_mono h)

theorem nearest_natCast (n : Nat) : nearest n = nearestNat n := by
  by_cases hn : n = 0
  · rw [hn]
    decide
  · rw [nearest, Int.natAbs_natCast, Int.sign_natCast_of_ne_zero hn, Int.one_mul]

theorem nearest_neg (n : Int) : nearest (-n) = -nearest n := by
  rw [nearest, nearest, Int.sign_neg, Int.natAbs_neg, Int.neg_mul]

theorem nearest_mono {a b : Int} (h : a ≤ b) : nearest a ≤ nearest b := by
  rcases Int.eq_nat_or_neg a with ⟨m, rfl | rfl⟩ <;> rcases Int.eq_nat_or_neg b with ⟨n, rfl | rfl⟩
  all_goals simp only [nearest_neg, nearest_natCast]
  · have hmono : nearestNat m ≤ nearestNat n := nearestNat_mono (by omega)
    omega
  · obtain ⟨rfl, rfl⟩ : m = 0 ∧ n = 0 := by omega
    decide
  · omega
  · have hmono : nearestNat n ≤ nearestNat m := nearestNat_mono (by omega)
    omega

theorem nearest_of_natAbs_le {n : Int} (h : n.natAbs ≤ 2 ^ 53) : nearest n = n := by
  rw [nearest, nearestNat_of_le h, Int.sign_mul_natAbs]

/-- Rounding tells a number below `2 ^ 53` from all others. -/
theorem nearest_inj_of_natAbs_lt {a b : Int} (ha : a.natAbs < 2 ^ 53) :
    nearest a = nearest b ↔ a = b := by
  refine ⟨fun h => ?_, fun h => h ▸ rfl⟩
  rw [nearest_of_natAbs_le ha.le] at h
  by_cases hb : b.natAbs ≤ 2 ^ 53
  · rwa [nearest_of_natAbs_le hb] at h
  · -- otherwise `b` is rounded to a number beyond `2 ^ 53`, on one side or the other
    have hlimit : nearest (2 ^ 53) = 2 ^ 53 := nearest_of_natAbs_le (by decide)
    have hlow : nearest (-2 ^ 53) = -2 ^ 53 := nearest_of_natAbs_le (by decide)
    rcases Int.le_total 0 b with hpos | hneg
    · have hmono : nearest (2 ^ 53) ≤ nearest b := nearest_mono (by omega)
      omega
    · have hmono : nearest b ≤ nearest (-2 ^ 53) := nearest_mono (by omega)
      omega

/-! ### Bit patterns -/

theorem toRat_eq (x : Binary64) :
    x.toRat = (if x.isNegative then -1 else 1) * (x.significand * (2 : Rat) ^ x.exponent) := by
  have hvalue : (if x.exponent ≥ 0 then (x.significand : Rat) * Nat.pow 2 x.exponent.toNat
      else x.significand / Nat.pow 2 (-x.exponent).toNat) =
      x.significand * (2 : Rat) ^ x.exponent := by
    split_ifs with h
    · obtain ⟨k, hk⟩ := Int.eq_ofNat_of_zero_le h
      rw [hk, zpow_natCast]
      simp
    · obtain ⟨k, hk⟩ := Int.eq_ofNat_of_zero_le (show 0 ≤ -x.exponent by omega)
      rw [show x.exponent = -(k : Int) by omega, zpow_neg, zpow_natCast, Int.neg_neg]
      simp [div_eq_mul_inv]
  rw [toRat]
  simp only [hvalue]
  split_ifs <;> ring

theorem significand_lt (x : Binary64) : x.significand < 2 ^ 53 := by
  unfold significand
  split
  · next h =>
    simp only [hiddenBit] at h
    omega
  · simp only [hiddenBit]
    omega

/-- A pattern put together from an exponent and a significand. The significand may be one too large,
which carries into the exponent. -/
theorem toRat_of_pattern {x : Binary64} {e : Int} {q : Nat} (least : -1074 ≤ e) (most : e ≤ 970)
    (low : hiddenBit ≤ q) (high : q ≤ 2 * hiddenBit)
    (pattern : x.bits.toNat = (e + 1074).toNat * hiddenBit + q) :
    x.toRat = q * (2 : Rat) ^ e := by
  obtain ⟨k, hk⟩ := Int.eq_ofNat_of_zero_le (show 0 ≤ e + 1074 by omega)
  rw [hk, Int.toNat_natCast] at pattern
  have hsign : x.isNegative = false := by
    simp only [isNegative, pattern, signBit, hiddenBit] at *
    simp
    omega
  have hmagnitude : x.magnitude = k * hiddenBit + q := by
    rw [magnitude, pattern]
    simp only [signBit, hiddenBit] at *
    omega
  have hnormal : ¬ x.magnitude < hiddenBit := by omega
  rw [toRat_eq, hsign, significand, exponent, if_neg hnormal, if_neg hnormal, hmagnitude]
  rcases Nat.lt_or_eq_of_le high with hlt | rfl
  · have hmod : (k * hiddenBit + q) % hiddenBit + hiddenBit = q := by
      simp only [hiddenBit] at *
      omega
    have hdiv : (((k * hiddenBit + q) / hiddenBit : Nat) : Int) - 1075 = e := by
      simp only [hiddenBit] at *
      omega
    rw [hmod, hdiv]
    simp
  · have hmod : (k * hiddenBit + 2 * hiddenBit) % hiddenBit + hiddenBit = hiddenBit := by
      simp only [hiddenBit] at *
      omega
    have hdiv : (((k * hiddenBit + 2 * hiddenBit) / hiddenBit : Nat) : Int) - 1075 = e + 1 := by
      simp only [hiddenBit] at *
      omega
    rw [hmod, hdiv, zpow_add_one₀ two_ne_zero]
    push_cast
    simp
    ring

/-- The double of a fraction that is a normal number. -/
theorem toRat_ofRatio {num den q : Nat} {e : Int} (hnum : num ≠ 0)
    (exponent : floorLog2 num den - 52 = e) (least : -1074 ≤ e) (most : e ≤ 970)
    (quotient : (if e ≥ 0 then roundDiv num (den * Nat.pow 2 e.toNat)
      else roundDiv (num * Nat.pow 2 (-e).toNat) den) = q)
    (low : hiddenBit ≤ q) (high : q ≤ 2 * hiddenBit) :
    (ofRatio num den).toRat = q * (2 : Rat) ^ e := by
  refine toRat_of_pattern least most low high ?_
  have hfinite : (e + 1074).toNat * hiddenBit + q ≤ infinity := by
    simp only [infinity, hiddenBit] at *
    omega
  rw [ofRatio, if_neg hnum]
  simp only [exponent, max_eq_left least, quotient, min_eq_left hfinite]
  refine UInt64.toNat_ofNat_of_lt' ?_
  simp only [infinity, hiddenBit, UInt64.size] at *
  omega

theorem floorLog2_one (hn : n ≠ 0) : floorLog2 n 1 = n.log2 := by
  have hone : Nat.log2 1 = 0 := by decide
  simp [floorLog2, hone, Nat.log2_self_le hn]

theorem toRat_ofRatio_one (h : n < 2 ^ 64) : (ofRatio n 1).toRat = nearestNat n := by
  by_cases hn : n = 0
  · have hzero : zero.toRat = 0 := by decide +kernel
    rw [hn, ofRatio, if_pos rfl, hzero, nearestNat_of_le (by decide)]
    rfl
  have hlog : n.log2 < 64 := (Nat.log2_lt hn).mpr h
  have hfloor := floorLog2_one hn
  by_cases hlarge : 52 ≤ n.log2
  · obtain ⟨hlow, hhigh⟩ := div_spacing hlarge
    obtain ⟨hge, hle⟩ := roundDiv_bounds n (spacing n)
    rw [toRat_ofRatio (e := (n.log2 - 52 : Nat)) (q := roundDiv n (spacing n)) hn (by omega)
      (by omega) (by omega) ?_ (hlow.trans hge) (by rw [hiddenBit]; omega)]
    · rw [zpow_natCast, nearestNat, spacing]
      push_cast
      rfl
    · rw [if_pos (Int.natCast_nonneg _), Nat.one_mul]
      rfl
  · -- a small number is shifted up to fifty-three bits, and nothing is lost
    obtain ⟨k, hk⟩ := Nat.exists_eq_add_of_le (Nat.le_of_not_le hlarge)
    have hsmall : n < 2 ^ 53 := (Nat.log2_lt hn).mp (by omega)
    have hlow : 2 ^ n.log2 * 2 ^ k ≤ n * 2 ^ k := Nat.mul_le_mul_right _ (Nat.log2_self_le hn)
    have hhigh : n * 2 ^ k ≤ 2 ^ (n.log2 + 1) * 2 ^ k :=
      Nat.mul_le_mul_right _ Nat.lt_log2_self.le
    rw [← Nat.pow_add, ← hk] at hlow
    rw [← Nat.pow_add, show n.log2 + 1 + k = 53 by omega] at hhigh
    rw [toRat_ofRatio (e := -(k : Int)) (q := n * 2 ^ k) hn (by omega) (by omega) (by omega) ?_ hlow
      hhigh]
    · rw [nearestNat_of_le hsmall.le, zpow_neg, zpow_natCast]
      push_cast
      rw [mul_assoc, mul_inv_cancel₀ (by positivity), mul_one]
    · rw [if_neg (by omega), Int.neg_neg, Int.toNat_natCast, roundDiv_one]
      rfl

theorem isNegative_ofRatio (num den : Nat) : (ofRatio num den).isNegative = false := by
  rw [ofRatio]
  split_ifs with hnum
  · decide
  · -- no pattern lies above that of the infinity
    rw [isNegative, decide_eq_false_iff_not, Nat.not_le]
    refine Nat.lt_of_le_of_lt ?_ (show infinity < signBit by decide)
    refine Nat.le_trans (Nat.le_of_eq (UInt64.toNat_ofNat_of_lt' ?_)) (Nat.min_le_right _ _)
    exact Nat.lt_of_le_of_lt (Nat.min_le_right _ _) (show infinity < UInt64.size by decide)

theorem xor_signBit (h : n < signBit) : n ^^^ signBit = n + signBit := by
  have hor : signBit + n = signBit ||| n := by
    simpa [signBit] using Nat.two_pow_add_eq_or_of_lt (i := 63) h 1
  rw [Nat.add_comm, hor, show signBit = 2 ^ 63 from rfl]
  refine Nat.eq_of_testBit_eq fun i => ?_
  rw [Nat.testBit_or, Nat.testBit_xor, Nat.testBit_two_pow]
  by_cases hi : 63 = i
  · rw [← hi, Nat.testBit_lt_two_pow h]
    rfl
  · simp [hi]

theorem toRat_neg {x : Binary64} (h : x.isNegative = false) : x.neg.toRat = -x.toRat := by
  have hlt : x.bits.toNat < signBit := by
    simpa [isNegative] using h
  have hbits : x.neg.bits.toNat = x.bits.toNat + signBit := by
    rw [neg, UInt64.toNat_xor]
    exact xor_signBit hlt
  have hsign : x.neg.isNegative = true := by
    simp [isNegative, hbits]
  have hmagnitude : x.neg.magnitude = x.magnitude := by
    rw [magnitude, magnitude, hbits, Nat.add_mod_right]
  have hsignificand : x.neg.significand = x.significand := by
    rw [significand, hmagnitude, ← significand]
  have hexponent : x.neg.exponent = x.exponent := by
    rw [exponent, hmagnitude, ← exponent]
  rw [toRat_eq, toRat_eq x, hsign, h, hsignificand, hexponent]
  simp

/-! ### Doubles of whole numbers -/

/-- The double of a whole number stands for the number rounded to fifty-three bits. -/
theorem toRat_ofInt {n : Int} (h : n.natAbs < 2 ^ 64) : (ofInt n).toRat = nearest n := by
  rw [ofInt]
  rcases Int.eq_nat_or_neg n with ⟨m, rfl | rfl⟩
  · rw [Int.natAbs_natCast] at h ⊢
    rw [if_neg (by omega), toRat_ofRatio_one h, nearest_natCast]
    rfl
  · rw [Int.natAbs_neg, Int.natAbs_natCast] at h ⊢
    rw [nearest_neg, nearest_natCast]
    split_ifs with hm
    · rw [toRat_neg (isNegative_ofRatio m 1), toRat_ofRatio_one h]
      push_cast
      rfl
    · obtain rfl : m = 0 := by omega
      rw [toRat_ofRatio_one h, nearestNat_of_le (by decide)]
      rfl

theorem same_ofInt {a b : Int} (ha : a.natAbs < 2 ^ 64) (hb : b.natAbs < 2 ^ 64) :
    (ofInt a).same (ofInt b) = decide (nearest a = nearest b) := by
  rw [same, toRat_ofInt ha, toRat_ofInt hb]
  simp [beq_eq_decide]

theorem less_ofInt {a b : Int} (ha : a.natAbs < 2 ^ 64) (hb : b.natAbs < 2 ^ 64) :
    (ofInt a).less (ofInt b) = decide (a < b ∧ nearest a ≠ nearest b) := by
  rw [less, toRat_ofInt ha, toRat_ofInt hb]
  simp only [Int.cast_lt, decide_eq_decide]
  constructor
  · intro hlt
    refine ⟨Int.not_le.mp fun hle => ?_, hlt.ne⟩
    exact Int.not_le.mpr hlt (nearest_mono hle)
  · rintro ⟨hlt, hne⟩
    exact lt_of_le_of_ne (nearest_mono hlt.le) hne

/-! ### No double is nearer -/

/-- No number with fifty-three bits is nearer, whatever power of two it is multiplied by. -/
theorem dist_nearestNat_le (n : Nat) {t : Int} (ht : t ≤ 2 ^ 53) (e : Int) :
    |(n : Rat) - nearestNat n| ≤ |(n : Rat) - t * 2 ^ e| := by
  by_cases hsmall : n < 2 ^ 53
  · rw [nearestNat_of_le hsmall.le, sub_self, abs_zero]
    exact abs_nonneg _
  have hn : n ≠ 0 := by omega
  have hlog : 53 ≤ n.log2 := (Nat.le_log2 hn).mpr (Nat.not_lt.mp hsmall)
  have hmultiple (k : Int) : |(n : Rat) - nearestNat n| ≤ |(n : Rat) - k * spacing n| := by
    exact_mod_cast dist_roundDiv_le (spacing_pos n) n k
  by_cases he : (n.log2 : Int) - 52 ≤ e
  · -- then the other number is a multiple of the spacing
    obtain ⟨k, hk⟩ := Int.eq_ofNat_of_zero_le (show 0 ≤ e - (n.log2 - 52 : Nat) by omega)
    have hexp : (2 : Rat) ^ e = 2 ^ k * spacing n := by
      rw [spacing, show e = (k : Int) + (n.log2 - 52 : Nat) by omega, zpow_add₀ two_ne_zero,
        zpow_natCast, zpow_natCast]
      push_cast
      rfl
    have hdist := hmultiple (t * 2 ^ k)
    push_cast at hdist
    rwa [hexp, ← mul_assoc]
  · -- then it lies below the power of two under `n`, which is a multiple
    have hpower : (2 : Rat) ^ n.log2 ≤ n := by exact_mod_cast Nat.log2_self_le hn
    have hbelow : (t : Rat) * 2 ^ e ≤ 2 ^ n.log2 := by
      have hfactor : (t : Rat) ≤ 2 ^ (53 : Int) := by exact_mod_cast ht
      calc (t : Rat) * 2 ^ e ≤ 2 ^ (53 : Int) * 2 ^ e := by gcongr
        _ = 2 ^ (53 + e) := (zpow_add₀ two_ne_zero _ _).symm
        _ ≤ 2 ^ (n.log2 : Int) := zpow_le_zpow_right₀ one_le_two (by omega)
        _ = 2 ^ n.log2 := zpow_natCast _ _
    have hself : ((2 ^ 52 : Int) : Rat) * spacing n = 2 ^ n.log2 := by
      exact_mod_cast (two_pow_log2 (by omega)).symm
    calc |(n : Rat) - nearestNat n| ≤ |(n : Rat) - ((2 ^ 52 : Int) : Rat) * spacing n| :=
          hmultiple _
      _ = n - 2 ^ n.log2 := by rw [hself, abs_of_nonneg (by linarith)]
      _ ≤ n - t * 2 ^ e := by linarith
      _ ≤ |(n : Rat) - t * 2 ^ e| := le_abs_self _

/-- Every whole number of a 64-bit word is rounded to a nearest double. -/
theorem isNearest_nearest {n : Int} (h : n.natAbs < 2 ^ 64) : IsNearest n (nearest n) := by
  refine ⟨⟨ofInt n, toRat_ofInt h⟩, fun x => ?_⟩
  obtain ⟨t, ht, hx⟩ : ∃ t : Int, t.natAbs ≤ 2 ^ 53 ∧ x.toRat = t * 2 ^ x.exponent := by
    have hlt := x.significand_lt
    rw [toRat_eq]
    split_ifs
    · exact ⟨-x.significand, by omega, by push_cast; ring⟩
    · exact ⟨x.significand, by omega, by push_cast; ring⟩
  rw [hx]
  rcases Int.eq_nat_or_neg n with ⟨m, rfl | rfl⟩
  · rw [nearest_natCast]
    exact_mod_cast dist_nearestNat_le m (show t ≤ 2 ^ 53 by omega) x.exponent
  · have hdist := dist_nearestNat_le m (show -t ≤ 2 ^ 53 by omega) x.exponent
    rw [nearest_neg, nearest_natCast, ← abs_neg, ← abs_neg (_ - (t : Rat) * _)]
    push_cast at hdist ⊢
    convert hdist using 2 <;> ring

end Binary64

end Switchboard

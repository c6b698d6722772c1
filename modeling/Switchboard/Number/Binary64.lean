/-
Double-precision numbers as bit patterns, with exact arithmetic behind them.

A finite pattern stands for the rational `m · 2 ^ e`, and every operation here is "compute exactly,
then round once to the nearest pattern, a tie going to the even one". No operation of the machine's
floating point is used, so a closed statement about doubles is decided by evaluation.
-/

namespace Switchboard

/-- A double in its interchange format: sign, eleven exponent bits, fifty-two fraction bits. -/
structure Binary64 where
  bits : UInt64
deriving DecidableEq, Repr, Inhabited

namespace Binary64

/-- The highest bit, `2 ^ 63`, which is the sign. -/
def signBit : Nat := 0x8000000000000000

/-- The bit in front of the fraction, `2 ^ 52`, which patterns of normal numbers leave out. -/
def hiddenBit : Nat := 0x10000000000000

/-- The pattern of the infinity without a sign; what is above it is no number. -/
def infinity : Nat := 0x7ff * hiddenBit

def isNegative (x : Binary64) : Bool := x.bits.toNat ≥ signBit

/-- The pattern without its sign. -/
def magnitude (x : Binary64) : Nat := x.bits.toNat % signBit

/-- Neither an infinity nor a NaN. -/
def isFinite (x : Binary64) : Bool := x.magnitude < infinity

/-- The significand `m` of `m · 2 ^ exponent`. -/
def significand (x : Binary64) : Nat :=
  if x.magnitude < hiddenBit then x.magnitude else x.magnitude % hiddenBit + hiddenBit

/-- The power of two that the significand is multiplied by. -/
def exponent (x : Binary64) : Int :=
  if x.magnitude < hiddenBit then -1074 else (x.magnitude / hiddenBit : Nat) - 1075

/-- The number that a finite pattern stands for. -/
def toRat (x : Binary64) : Rat :=
  let m : Rat := x.significand
  let v := if x.exponent ≥ 0 then m * Nat.pow 2 x.exponent.toNat
    else m / Nat.pow 2 (-x.exponent).toNat
  if x.isNegative then -v else v

/-- The absolute value as a fraction. -/
def toRatio (x : Binary64) : Nat × Nat :=
  if x.exponent ≥ 0 then (x.significand * Nat.pow 2 x.exponent.toNat, 1)
  else (x.significand, Nat.pow 2 (-x.exponent).toNat)

def zero : Binary64 := ⟨0⟩

/-- The pattern with its sign turned. -/
def neg (x : Binary64) : Binary64 := ⟨x.bits ^^^ 0x8000000000000000⟩

/-- The largest `e` with `2 ^ e ≤ num / den`. -/
def floorLog2 (num den : Nat) : Int :=
  let e : Int := (num.log2 : Int) - den.log2
  let fits := if e ≥ 0 then den * Nat.pow 2 e.toNat ≤ num else den ≤ num * Nat.pow 2 (-e).toNat
  if fits then e else e - 1

/-- `num / den` rounded to a whole number, a tie to the even neighbour. -/
def roundDiv (num den : Nat) : Nat :=
  let q := num / den
  let r := num % den
  if 2 * r < den then q
  else if den < 2 * r then q + 1
  else if q % 2 = 0 then q else q + 1

/-- The double nearest to `num / den`, which is an infinity if the quotient is too large. -/
def ofRatio (num den : Nat) : Binary64 :=
  if num = 0 then zero
  else
    let e := max (floorLog2 num den - 52) (-1074)
    let q := if e ≥ 0 then roundDiv num (den * Nat.pow 2 e.toNat)
      else roundDiv (num * Nat.pow 2 (-e).toNat) den
    -- the hidden bit of a normal number, and a carry out of the fraction, add one to the exponent
    let pattern := (e + 1074).toNat * hiddenBit + q
    ⟨UInt64.ofNat (min pattern infinity)⟩

/-- The double nearest to a whole number. -/
def ofInt (n : Int) : Binary64 :=
  let x := ofRatio n.natAbs 1
  if n < 0 then x.neg else x

/-- The product of the absolute values. -/
def mul (x y : Binary64) : Binary64 :=
  let (a, b) := x.toRatio
  let (c, d) := y.toRatio
  ofRatio (a * c) (b * d)

/-- The quotient of the absolute values; the divisor is not zero. -/
def div (x y : Binary64) : Binary64 :=
  let (a, b) := x.toRatio
  let (c, d) := y.toRatio
  ofRatio (a * d) (b * c)

/-- The double nearest to `10 ^ k`. -/
def powerOfTen (k : Nat) : Binary64 := ofRatio (Nat.pow 10 k) 1

/-- Numeric equality, under which the two zeros are equal. -/
def same (x y : Binary64) : Bool := x.toRat == y.toRat

/-- Numeric order. -/
def less (x y : Binary64) : Bool := x.toRat < y.toRat

/-- `x` scaled by `10 ^ k` in steps of at most 308 places, each rounded once. `none` if the result
is too large. -/
def scale (x : Binary64) (k : Int) : Option Binary64 :=
  if k ≥ 0 then
    if k ≤ 308 then
      let y := x.mul (powerOfTen k.toNat)
      if y.isFinite then some y else none
    else if x.magnitude = 0 then some x
    else none
  else shrink x (-k).toNat
where
  /-- Divides by `10 ^ k`. -/
  shrink (x : Binary64) (k : Nat) : Option Binary64 :=
    if k ≤ 308 then some (x.div (powerOfTen k))
    else if x.magnitude = 0 then some x
    else shrink (x.div (powerOfTen 308)) (k - 308)
  termination_by k

end Binary64

end Switchboard

/-
The shortest decimal that reads back as a given double.

The reals that round to a double form an interval around it, with its ends included iff the
significand is even. The digits sought lie on the coarsest decimal grid that has a point in that
interval; of two such points the nearer one is taken, and of two equally near ones the even one.

* `shortest`: digits and exponent;
* `render`: the text, positional for moderate exponents and scientific otherwise.
-/
import Switchboard.Number.Binary64

namespace Switchboard

namespace Binary64

/-- A decimal `digits · 10 ^ exponent`. -/
structure Decimal where
  digits : Nat
  exponent : Int
deriving DecidableEq, Repr

namespace Shortest

/-- `num / den` scaled by `10 ^ k`. -/
def scale10 (num den : Nat) (k : Int) : Nat × Nat :=
  if k ≥ 0 then (num * Nat.pow 10 k.toNat, den) else (num, den * Nat.pow 10 (-k).toNat)

/-- The interval that rounds to `m · 2 ^ e`, as its lower end, the value and its upper end over one
denominator. Below a power of two the next double is half as far. -/
def bounds (x : Binary64) : Nat × Nat × Nat × Nat :=
  let m := x.significand
  let e := x.exponent - 2
  let below := if m = hiddenBit ∧ x.magnitude ≥ 2 * hiddenBit then 4 * m - 1 else 4 * m - 2
  let f := if e ≥ 0 then Nat.pow 2 e.toNat else 1
  (below * f, 4 * m * f, (4 * m + 2) * f, if e ≥ 0 then 1 else Nat.pow 2 (-e).toNat)

/-- The largest `p` with `10 ^ p ≤ num / den`, found by counting digits. -/
def floorLog10 (num den : Nat) : Int :=
  if den ≤ num then ((toString (num / den)).length : Int) - 1
  else
    -- shift left until the quotient is at least one
    let k := (toString (den / num)).length
    if den ≤ num * Nat.pow 10 (k - 1) then -((k : Int) - 1) else -(k : Int)

/-- The candidate with step `10 ^ -k`, if one of the two neighbours on that grid reads back. -/
def onGrid (x : Binary64) (k : Int) : Option Decimal :=
  let (lo, v, hi, den) := bounds x
  let even := x.significand % 2 = 0
  let (num, d) := scale10 v den k
  let down := num / d
  let inside (c : Nat) : Bool :=
    -- compare `c` with both ends in units of the grid
    let (a, da) := scale10 lo den k
    let (b, db) := scale10 hi den k
    if even then a ≤ c * da && c * db ≤ b else a < c * da && c * db < b
  match inside down, inside (down + 1) with
  | true, true => some ⟨roundDiv num d, -k⟩
  | true, false => some ⟨down, -k⟩
  | false, true => some ⟨down + 1, -k⟩
  | false, false => none

/-- Moves trailing zeros of the digits into the exponent. -/
def trim : Nat → Decimal → Decimal
  | 0, d => d
  | fuel + 1, d =>
    if d.digits ≠ 0 ∧ d.digits % 10 = 0 then trim fuel ⟨d.digits / 10, d.exponent + 1⟩ else d

end Shortest

/-- The shortest decimal that reads back as the absolute value of `x`, the nearest one if there are
several. Seventeen digits always suffice. -/
def shortest (x : Binary64) : Decimal :=
  if x.magnitude = 0 then ⟨0, 0⟩
  else
    let (num, den) := x.toRatio
    let p := Shortest.floorLog10 num den
    let found := (List.range 17).findSome? fun (n : Nat) => Shortest.onGrid x (n - p)
    Shortest.trim 20 (found.getD ⟨0, 0⟩)

/-- How a decimal is laid out as text. -/
structure Layout where
  /-- Positional notation is used while the point stands after more than this many places ... -/
  lowest : Int
  /-- ... and after at most this many places. -/
  highest : Int
  /-- Written between digits and exponent. -/
  mark : String
  /-- Written before a positive exponent. -/
  plus : String

/-- Numbers keep a digit on either side of the point, and from seventeen places or from six leading
zeros on they are written with an exponent. -/
def layout : Layout := ⟨-5, 16, "e", "+"⟩

/-- The text of a finite double. -/
def render (x : Binary64) (l : Layout := layout) : String :=
  let d := x.shortest
  let digits := toString d.digits
  let n : Int := digits.length
  -- the point stands after `point` digits
  let point := n + d.exponent
  let sign := if x.isNegative then "-" else ""
  let zeros (k : Int) : String := String.ofList (List.replicate k.toNat '0')
  let cut (k : Nat) : String × String :=
    (String.ofList (digits.toList.take k), String.ofList (digits.toList.drop k))
  let body :=
    if x.magnitude = 0 then "0.0"
    else if l.lowest < point ∧ point ≤ l.highest then
      if d.exponent ≥ 0 then digits ++ zeros d.exponent ++ ".0"
      else if point > 0 then
        let (a, b) := cut point.toNat
        a ++ "." ++ b
      else "0." ++ zeros (-point) ++ digits
    else
      let (a, b) := cut 1
      let e := point - 1
      a ++ (if b.isEmpty then "" else "." ++ b) ++ l.mark
        ++ (if e ≥ 0 then l.plus else "-") ++ toString e.natAbs
  sign ++ body

end Binary64

end Switchboard

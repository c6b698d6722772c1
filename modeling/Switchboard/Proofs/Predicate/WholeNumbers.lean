/-
Comparisons of whole numbers.

Numbers count by their value, whether they are written as whole numbers or not. For that they are
compared as doubles, which tell whole numbers apart up to `2 ^ 53` only. Beyond, neighbours may have
one nearest double. Then they are equal, and none is less than the other.

* `integers_compared`: **whole numbers are compared by the doubles that they are rounded to**;
* `not_integers_exact`: they are not compared exactly.
-/
import Switchboard.Proofs.Number.Nearest
import Switchboard.Proofs.Predicate.Expression

namespace Switchboard

namespace Predicate

open Binary64 (nearest)

/-- A whole number of a 64-bit word, with a sign or without. -/
def IsWord (n : Int) : Prop := -2 ^ 63 ≤ n ∧ n < 2 ^ 64

instance : DecidablePred IsWord := fun _ => inferInstanceAs (Decidable (_ ∧ _))

theorem IsWord.natAbs_lt {n : Int} (h : IsWord n) : n.natAbs < 2 ^ 64 := by
  obtain ⟨hlow, hhigh⟩ := h
  omega

/-- A whole number as an operand or as a part of a document. -/
def whole (n : Int) : Json := .number (.int n)

section

variable {a b : Int} {table : PatternTable} {ignoreCase : Bool}

/-! ### Single operations -/

theorem equals_whole (ha : IsWord a) (hb : IsWord b) :
    equals ignoreCase (whole a) (whole b) = decide (nearest a = nearest b) := by
  show (a == b || (Binary64.ofInt a).same (Binary64.ofInt b)) = _
  rw [Binary64.same_ofInt ha.natAbs_lt hb.natAbs_lt, Bool.eq_iff_iff]
  simp only [Bool.or_eq_true, beq_iff_eq, decide_eq_true_eq, or_iff_right_iff_imp]
  exact congrArg nearest

theorem satisfies_test (ha : IsWord a) (hb : IsWord b) :
    satisfies table .test ignoreCase (whole b) (some (whole a)) =
      .ok (decide (nearest a = nearest b)) := by
  show Except.ok (equals ignoreCase (whole a) (whole b)) = _
  rw [equals_whole ha hb]

theorem satisfies_isIn {bs : List Int} (ha : IsWord a) (hbs : ∀ b ∈ bs, IsWord b) :
    satisfies table .isIn ignoreCase (.array (bs.map whole)) (some (whole a)) =
      .ok (decide (∃ b ∈ bs, nearest a = nearest b)) := by
  refine congrArg Except.ok ?_
  rw [Option.any_some, List.any_map, Bool.eq_iff_iff, List.any_eq_true, decide_eq_true_eq]
  refine exists_congr fun b => and_congr_right fun hb => ?_
  rw [Function.comp_apply, equals_whole ha (hbs b hb), decide_eq_true_eq]

theorem satisfies_less (ha : IsWord a) (hb : IsWord b) :
    satisfies table .less ignoreCase (whole b) (some (whole a)) =
      .ok (decide (a < b ∧ nearest a ≠ nearest b)) :=
  congrArg Except.ok (Binary64.less_ofInt ha.natAbs_lt hb.natAbs_lt)

theorem satisfies_more (ha : IsWord a) (hb : IsWord b) :
    satisfies table .more ignoreCase (whole b) (some (whole a)) =
      .ok (decide (b < a ∧ nearest b ≠ nearest a)) :=
  congrArg Except.ok (Binary64.less_ofInt hb.natAbs_lt ha.natAbs_lt)

end

/-! ### Expressions -/

section

variable {table : PatternTable} {doc target operand : Json} {base path : String} {op : Op}
  {fields : List (String × Json)}

/-- An operation on a value judges it by its operand. -/
theorem evaluateAt_eq_satisfies (hop : opOf fields = .ok op) (simple : op.isCompound = false)
    (takes : op.takesOperand = true) (hpath : textField? fields "path" = some path)
    (hoperand : Table.find? fields "value" = some operand)
    (htarget : Path.get doc (joinPaths base path) = some target) :
    evaluateAt table doc (.object fields) base =
      satisfies table op (ignoresCase fields) operand (some target) := by
  rw [evaluateAt, hop]
  simp only [simple, evaluateLeaf, hpath, takes, if_true, hoperand, htarget]
  rfl

/-- **Whole numbers are compared by the doubles that they are rounded to.** An operation finds the
number `a` at its place, wherever it stands in a predicate. It takes the number for equal to an
operand if both are rounded to one double, and for less or more if it is so and they are rounded to
different ones. The double is a nearest one. Below `2 ^ 53` it is the number itself, so that such a
number is compared exactly. -/
theorem integers_compared {a : Int} (word : IsWord a)
    (hpath : textField? fields "path" = some path)
    (htarget : Path.get doc (joinPaths base path) = some (whole a)) :
    (∀ b, IsWord b → Table.find? fields "value" = some (whole b) →
      (opOf fields = .ok .test → evaluateAt table doc (.object fields) base =
        .ok (decide (nearest a = nearest b))) ∧
      (opOf fields = .ok .less → evaluateAt table doc (.object fields) base =
        .ok (decide (a < b ∧ nearest a ≠ nearest b))) ∧
      (opOf fields = .ok .more → evaluateAt table doc (.object fields) base =
        .ok (decide (b < a ∧ nearest b ≠ nearest a)))) ∧
    (∀ bs : List Int, (∀ b ∈ bs, IsWord b) →
      Table.find? fields "value" = some (.array (bs.map whole)) →
      opOf fields = .ok .isIn → evaluateAt table doc (.object fields) base =
        .ok (decide (∃ b ∈ bs, nearest a = nearest b))) ∧
    Binary64.IsNearest a (nearest a) ∧
    ∀ b : Int, a.natAbs < 2 ^ 53 ∨ b.natAbs < 2 ^ 53 → (nearest a = nearest b ↔ a = b) := by
  refine ⟨fun b hb hoperand => ⟨fun hop => ?_, fun hop => ?_, fun hop => ?_⟩,
    fun bs hbs hoperand hop => ?_, Binary64.isNearest_nearest word.natAbs_lt, fun b hsmall => ?_⟩
  · rw [evaluateAt_eq_satisfies hop rfl rfl hpath hoperand htarget, satisfies_test word hb]
  · rw [evaluateAt_eq_satisfies hop rfl rfl hpath hoperand htarget, satisfies_less word hb]
  · rw [evaluateAt_eq_satisfies hop rfl rfl hpath hoperand htarget, satisfies_more word hb]
  · rw [evaluateAt_eq_satisfies hop rfl rfl hpath hoperand htarget, satisfies_isIn word hbs]
  · rcases hsmall with ha | hb
    · exact Binary64.nearest_inj_of_natAbs_lt ha
    · rw [eq_comm, Binary64.nearest_inj_of_natAbs_lt hb, eq_comm]

end

/-- A comparison of the number in the field `n`. -/
def comparison (op : Op) (operand : Json) : List (String × Json) :=
  [("op", .string op.text), ("path", .string "/n"), ("value", operand)]

/-- A document with a number. -/
def holding (n : Int) : Json := .object [("n", whole n)]

theorem get_holding (n : Int) : Path.get (holding n) (joinPaths "" "/n") = some (whole n) := rfl

/-- The largest number of a word is rounded up, and so is the one halfway between that double and the
one below. The next number is rounded down, and is told from it. -/
theorem integers_compared_largest :
    (ofJson (.object (comparison .test (whole 0xffffffffffffffff)))).evaluate
        (holding 0xfffffffffffffc00) = .ok true ∧
      (ofJson (.object (comparison .less (whole 0xffffffffffffffff)))).evaluate
        (holding 0xfffffffffffffbff) = .ok true ∧
      (ofJson (.object (comparison .isIn (.array ([-1, 0xffffffffffffffff].map whole))))).evaluate
        (holding 0xfffffffffffffbff) = .ok false := by
  have hlargest : IsWord 0xffffffffffffffff := by decide
  have hhalfway : IsWord 0xfffffffffffffc00 := by decide
  have hbelow : IsWord 0xfffffffffffffbff := by decide
  have hpath : ∀ op operand, textField? (comparison op operand) "path" = some "/n" :=
    fun _ _ => rfl
  refine ⟨?_, ?_, ?_⟩
  · exact ((integers_compared hhalfway (hpath _ _) (get_holding _)).1 _ hlargest rfl).1 rfl
  · exact ((integers_compared hbelow (hpath _ _) (get_holding _)).1 _ hlargest rfl).2.1 rfl
  · exact (integers_compared hbelow (hpath _ _) (get_holding _)).2.1 _ (by decide) rfl rfl

/-- Neighbours beyond `2 ^ 53` are taken for equal, and neither of them for less. -/
theorem not_integers_exact :
    ¬ ∀ a b : Int, IsWord a → IsWord b →
      (ofJson (.object (comparison .test (whole b)))).evaluate (holding a) =
        .ok (decide (a = b)) ∧
      (ofJson (.object (comparison .isIn (.array [whole b])))).evaluate (holding a) =
        .ok (decide (a = b)) ∧
      (ofJson (.object (comparison .less (whole b)))).evaluate (holding a) =
        .ok (decide (a < b)) ∧
      (ofJson (.object (comparison .more (whole b)))).evaluate (holding a) =
        .ok (decide (b < a)) := by
  intro h
  obtain ⟨htest, -⟩ := h 9007199254740993 9007199254740992 (by decide) (by decide)
  have hequal : (ofJson (.object (comparison .test (whole 9007199254740992)))).evaluate
      (holding 9007199254740993) = .ok true :=
    (evaluateAt_eq_satisfies rfl rfl rfl rfl rfl (get_holding _)).trans
      (satisfies_test (by decide) (by decide))
  rw [hequal] at htest
  cases htest

end Predicate

end Switchboard

/-
What an expression means.

Evaluation goes through the parts of a compound operation one by one and stops where the result is
clear, so a part behind that may be anything. Where an expression is well formed and each of its
leaves has a result, stopping early makes no difference: the result is told by quantifiers over the
parts.

* `Holds`: an expression, with its leaves left open, as a proposition;
* `evaluateAlong_of_check`: evaluation finds out whether a well-formed expression holds.
-/
import Switchboard.Proofs.Predicate.Expression

namespace Switchboard

namespace Predicate

/-! ### Compound operations -/

/-- Whether a compound operation holds, from what its parts mean. -/
def Op.HoldsOf {α : Type} (op : Op) (parts : List α) (means : α → Prop) : Prop :=
  match op with
  | .and => ∀ v ∈ parts, means v
  | .or => ∃ v ∈ parts, means v
  | _ => ∀ v ∈ parts, ¬ means v

section

variable {items : List Json} {result : Json → Except Fault Bool} {means : Json → Prop}

theorem allOf_map (h : ∀ v ∈ items, ∃ b, result v = .ok b ∧ (b = true ↔ means v)) :
    ∃ b, allOf (items.map result) = .ok b ∧ (b = true ↔ ∀ v ∈ items, means v) := by
  induction items with
  | nil => exact ⟨true, rfl, by simp⟩
  | cons v rest ih =>
    obtain ⟨⟨first, hfirst, hmeans⟩, hrest⟩ := List.forall_mem_cons.mp h
    rw [List.map_cons, hfirst]
    cases first with
    | true =>
      obtain ⟨b, hb, hall⟩ := ih hrest
      exact ⟨b, hb, by rw [hall]; simp [← hmeans]⟩
    | false => exact ⟨false, rfl, by simp [← hmeans]⟩

theorem anyOf_map (h : ∀ v ∈ items, ∃ b, result v = .ok b ∧ (b = true ↔ means v)) :
    ∃ b, anyOf (items.map result) = .ok b ∧ (b = true ↔ ∃ v ∈ items, means v) := by
  induction items with
  | nil => exact ⟨false, rfl, by simp⟩
  | cons v rest ih =>
    obtain ⟨⟨first, hfirst, hmeans⟩, hrest⟩ := List.forall_mem_cons.mp h
    rw [List.map_cons, hfirst]
    cases first with
    | true => exact ⟨true, rfl, by simp [← hmeans]⟩
    | false =>
      obtain ⟨b, hb, hany⟩ := ih hrest
      exact ⟨b, hb, by rw [hany]; simp [← hmeans]⟩

/-- Where all parts have a result, so has the operation, whatever it does not look at. -/
theorem combine_map (op : Op) (h : ∀ v ∈ items, ∃ b, result v = .ok b ∧ (b = true ↔ means v)) :
    ∃ b, op.combine (items.map result) = .ok b ∧ (b = true ↔ op.HoldsOf items means) := by
  obtain ⟨found, hfound, hany⟩ := anyOf_map h
  have hnot : ∃ b, (anyOf (items.map result)).map (fun found => !found) = .ok b ∧
      (b = true ↔ ∀ v ∈ items, ¬ means v) := by
    refine ⟨!found, by rw [hfound]; rfl, ?_⟩
    rw [Bool.not_eq_true', ← Bool.not_eq_true, hany]
    simp
  cases op with
  | and => exact allOf_map h
  | or => exact ⟨found, hfound, hany⟩
  | _ => exact hnot

end

/-! ### Expressions -/

/-- Whether an expression holds that stands inside of compound operations with the paths `above`.
What a leaf comes to is told by `leaf`. -/
def Holds (leaf : List String → Op → List (String × Json) → Except Fault Bool) (expr : Json)
    (above : List String) : Prop :=
  match _ : shape expr with
  | .compound op added items => op.HoldsOf items.attach fun v => Holds leaf v.1 (above ++ added)
  | .leaf op fields => leaf above op fields = .ok true
  | .malformed _ => False
termination_by sizeOf expr
decreasing_by exact sizeOf_lt_of_shape ‹_› v.2

section

variable {leaf : List String → Op → List (String × Json) → Except Fault Bool} {expr : Json}
  {above : List String}

theorem Op.holdsOf_attach (op : Op) (items : List Json) (means : Json → Prop) :
    op.HoldsOf items.attach (fun v => means v.1) ↔ op.HoldsOf items means := by
  cases op <;> simp [HoldsOf]

theorem holds_iff : Holds leaf expr above ↔
    match shape expr with
    | .compound op added items => op.HoldsOf items fun v => Holds leaf v (above ++ added)
    | .leaf op fields => leaf above op fields = .ok true
    | .malformed _ => False := by
  rw [Holds]
  split
  · next op added items hshape =>
    rw [hshape]
    exact op.holdsOf_attach items fun v => Holds leaf v (above ++ added)
  · next hshape => rw [hshape]
  · next hshape => rw [hshape]

/-- Evaluation finds out whether a well-formed expression holds, if every leaf has a result. -/
theorem evaluateAlong_of_check (h : check expr = .ok ())
    (total : ∀ inner op fields, Within expr inner op fields →
      ∃ b, leaf (above ++ inner) op fields = .ok b) :
    ∃ b, evaluateAlong leaf expr above = .ok b ∧ (b = true ↔ Holds leaf expr above) := by
  induction expr using induct generalizing above with
  | compound expr op added items hshape ih =>
    -- every part is checked, and every leaf of a part is one of the expression
    rw [check_eq_ok_iff, hshape] at h
    rw [evaluateAlong_eq, holds_iff, hshape]
    refine combine_map op fun v hv => ih v hv (h v hv) fun inner own fields hwithin => ?_
    rw [List.append_assoc]
    exact total (added ++ inner) own fields (.inside hshape hv hwithin)
  | leaf expr op fields hshape =>
    obtain ⟨b, hb⟩ := total [] op fields (.here hshape)
    rw [List.append_nil] at hb
    rw [evaluateAlong_eq, holds_iff, hshape]
    exact ⟨b, hb, by simp [hb]⟩
  | malformed expr f hshape =>
    rw [check_eq_ok_iff, hshape] at h
    exact h.elim

end

end Predicate

end Switchboard

/-
The order of the parts of an expression, and how often each stands there.

A well-formed predicate has a result on every document, and the result is told by quantifiers over
the parts of each compound operation. So the parts may be put in another order or be repeated,
anywhere in the expression.

* `Rearranged`: the expressions that one comes to by rearranging parts;
* `Rearranged.iff_of_listed`: what does not change under a rearrangement;
* `evaluate_decides`: **a well-formed predicate is a total function with two values, whatever the
  order of its parts is**.
-/
import Switchboard.Proofs.Predicate.Validation

namespace Switchboard

namespace Predicate

/-! ### Other expressions in a list -/

/-- The expression with others in place of those that it lists. -/
def withListed : Json → List Json → Json
  | .array _, others => .array others
  | .object fields, others => .object (Table.insert fields "apply" (.array others))
  | expr, _ => expr

/-- The shape with other parts. A leaf has what it lists among its fields and makes no use of it. -/
def Shape.withParts (others : List Json) : Shape → Shape
  | compound op added _ => compound op added others
  | leaf op fields => leaf op (Table.insert fields "apply" (.array others))
  | malformed f => malformed f

section

variable (fields : List (String × Json)) (v : Json)

theorem textField?_insert_apply {name : String} (h : name ≠ "apply") :
    textField? (Table.insert fields "apply" v) name = textField? fields name := by
  rw [textField?, Table.find?_insert_of_ne h, textField?]

theorem ignoresCase_insert_apply :
    ignoresCase (Table.insert fields "apply" v) = ignoresCase fields := by
  rw [ignoresCase, Table.find?_insert_of_ne (by decide), ignoresCase]

theorem opOf_insert_apply : opOf (Table.insert fields "apply" v) = opOf fields := by
  rw [opOf, textField?_insert_apply fields v (by decide), opOf]

theorem ownKeys_insert_apply : ownKeys (Table.insert fields "apply" v) = ownKeys fields := by
  rw [ownKeys, textField?_insert_apply fields v (by decide),
    textField?_insert_apply fields v (by decide), ignoresCase_insert_apply, ownKeys]

theorem checkLeaf_insert_apply (op : Op) :
    checkLeaf op (Table.insert fields "apply" v) = checkLeaf op fields := by
  rw [checkLeaf, textField?_insert_apply fields v (by decide),
    Table.find?_insert_of_ne (by decide), checkLeaf]

theorem evaluateLeaf_insert_apply (table : PatternTable) (doc : Json) (op : Op) (base : String) :
    evaluateLeaf table doc op (Table.insert fields "apply" v) base =
      evaluateLeaf table doc op fields base := by
  rw [evaluateLeaf, textField?_insert_apply fields v (by decide),
    Table.find?_insert_of_ne (by decide), ignoresCase_insert_apply, evaluateLeaf]

end

theorem applied?_insert (fields : List (String × Json)) (others : List Json) :
    applied? (Table.insert fields "apply" (.array others)) = some others := by
  rw [applied?, Table.find?_insert_self]
  rfl

theorem shape_withListed {expr : Json} {items : List Json} (h : listed? expr = some items)
    (others : List Json) : shape (withListed expr others) = (shape expr).withParts others := by
  cases expr with
  | array own => rfl
  | object fields =>
    have hfields : applied? fields = some items := h
    rw [withListed, shape, shape, opOf_insert_apply,
      textField?_insert_apply fields _ (by decide), applied?_insert, hfields]
    cases opOf fields with
    | error f => rfl
    | ok op => cases hop : op.isCompound <;> simp [Shape.withParts, hop]
  | null | bool _ | number _ | string _ => cases h

/-! ### Rearrangements -/

/-- `Rearranged expr other`: in `other` the parts of `expr`, or parts of its parts, stand in another
order, more often or less often, but none is left out and none is new. -/
inductive Rearranged : Json → Json → Prop
  | refl (expr : Json) : Rearranged expr expr
  | trans {expr other last : Json} (first : Rearranged expr other)
      (second : Rearranged other last) : Rearranged expr last
  | parts {expr : Json} {items others : List Json} (listed : listed? expr = some items)
      (same : ∀ v, v ∈ items ↔ v ∈ others) : Rearranged expr (withListed expr others)
  | inside {expr v w : Json} {before after : List Json}
      (listed : listed? expr = some (before ++ v :: after)) (part : Rearranged v w) :
      Rearranged expr (withListed expr (before ++ w :: after))

section

variable {op : Op} {items others : List Json} {means : Json → Prop}

theorem Op.holdsOf_congr (same : ∀ v, v ∈ items ↔ v ∈ others) :
    op.HoldsOf items means ↔ op.HoldsOf others means := by
  cases op <;> simp [HoldsOf, same]

theorem Op.holdsOf_replace {before after : List Json} {v w : Json} (h : means v ↔ means w) :
    op.HoldsOf (before ++ v :: after) means ↔ op.HoldsOf (before ++ w :: after) means := by
  cases op <;> simp [HoldsOf, List.mem_append, or_imp, forall_and, or_and_right, exists_or, h]

end

/-- What compound operations tell from their parts does not change. -/
theorem Rearranged.iff_of_listed {ι : Type} (means : ι → Json → Prop)
    (congr : ∀ {expr items others}, listed? expr = some items →
      (∀ i (op : Op), op.HoldsOf items (means i) ↔ op.HoldsOf others (means i)) →
      ∀ i, means i expr ↔ means i (withListed expr others))
    {expr other : Json} (h : Rearranged expr other) (i : ι) : means i expr ↔ means i other := by
  -- on the rearrangement, for all indices at once: a part may stand under another path
  induction h generalizing i with
  | refl => exact Iff.rfl
  | trans _ _ first second => exact (first i).trans (second i)
  | parts listed same => exact congr listed (fun _ _ => Op.holdsOf_congr same) i
  | inside listed _ ih => exact congr listed (fun j _ => Op.holdsOf_replace (ih j)) i

section

variable {expr other : Json} (h : Rearranged expr other)
include h

theorem Rearranged.mem_patternKeys_iff (key : PatternKey) :
    key ∈ patternKeys expr ↔ key ∈ patternKeys other := by
  refine iff_of_listed (fun key expr => key ∈ patternKeys expr) ?_ h key
  intro expr items others listed same key
  have hitems : key ∈ patternKeysOfItems items ↔ key ∈ patternKeysOfItems others := by
    rw [mem_patternKeysOfItems, mem_patternKeysOfItems]
    exact same key .or
  cases expr with
  | array own =>
    cases listed
    rw [withListed, patternKeys, patternKeys]
    exact hitems
  | object fields =>
    have hfields : applied? fields = some items := listed
    rw [withListed, patternKeys_object, patternKeys_object, ownKeys_insert_apply, applied?_insert,
      hfields, List.mem_append, List.mem_append]
    exact or_congr_left hitems
  | null | bool _ | number _ | string _ => cases listed

theorem Rearranged.check_iff : check expr = .ok () ↔ check other = .ok () := by
  refine iff_of_listed (fun (_ : Unit) expr => check expr = .ok ()) ?_ h ()
  intro expr items others listed same _
  rw [check_eq_ok_iff, check_eq_ok_iff, shape_withListed listed]
  cases hshape : shape expr with
  | compound op added own =>
    obtain rfl : own = items := Option.some.inj ((listed?_of_shape hshape).symm.trans listed)
    exact same () .and
  | leaf op fields =>
    dsimp only [Shape.withParts]
    rw [checkLeaf_insert_apply]
  | malformed f => exact Iff.rfl

theorem Rearranged.holds_iff
    {leaf : List String → Op → List (String × Json) → Except Fault Bool}
    (blind : ∀ above op fields v,
      leaf above op (Table.insert fields "apply" v) = leaf above op fields) (above : List String) :
    Holds leaf expr above ↔ Holds leaf other above := by
  refine iff_of_listed (fun above expr => Holds leaf expr above) ?_ h above
  intro expr items others listed same above
  rw [Predicate.holds_iff, Predicate.holds_iff, shape_withListed listed]
  cases hshape : shape expr with
  | compound op added own =>
    obtain rfl : own = items := Option.some.inj ((listed?_of_shape hshape).symm.trans listed)
    exact same (above ++ added) op
  | leaf op fields =>
    dsimp only [Shape.withParts]
    rw [blind]
  | malformed f => exact Iff.rfl

end

/-! ### Leaves and their patterns -/

/-- Of a table of patterns, an operation needs the entry of its own pattern only. -/
theorem satisfies_congr {table other : PatternTable} {op : Op} {ignoreCase : Bool}
    {operand : Json} (same : ∀ pattern, op = .matchesPattern → operand = .string pattern →
      table.find? (pattern, ignoreCase) = other.find? (pattern, ignoreCase))
    (target : Option Json) :
    satisfies table op ignoreCase operand target =
      satisfies other op ignoreCase operand target := by
  cases op with
  | matchesPattern =>
    cases operand with
    | string pattern =>
      simp only [satisfies, operandString, bind, Except.bind, same pattern rfl rfl]
    | _ => rfl
  | _ => rfl

theorem evaluateLeaf_congr {table other : PatternTable} {op : Op}
    {fields : List (String × Json)} (named : opOf fields = .ok op)
    (same : ∀ key ∈ patternKeys (.object fields), table.find? key = other.find? key) (doc : Json)
    (base : String) :
    evaluateLeaf table doc op fields base = evaluateLeaf other doc op fields base := by
  rcases evaluateLeaf_cases named doc base with
    ⟨field, hleaf⟩ | ⟨ignoreCase, operand, target, hown, hleaf⟩
  · rw [hleaf, hleaf]
  · rw [hleaf, hleaf]
    exact satisfies_congr (fun pattern hop hvalue => same _ (hown pattern hop hvalue)) target

/-- Evaluation of a rearranged expression, with the patterns of the first one. -/
theorem Rearranged.leafAt_eq {expr other : Json} (h : Rearranged expr other) (doc : Json)
    {above : List String} {op : Op} {fields : List (String × Json)}
    (within : Within other above op fields) :
    leafAt (ofJson other).patterns doc above op fields =
      leafAt (ofJson expr).patterns doc above op fields := by
  refine evaluateLeaf_congr within.opOf_eq.1 (fun key hkey => ?_) doc _
  have hother := mem_patternKeys_of_within within hkey
  have hexpr := (h.mem_patternKeys_iff key).mpr hother
  exact (PatternTable.find?_ofKeys hother).trans (PatternTable.find?_ofKeys hexpr).symm

/-- Rearranging the parts of a well-formed predicate does not change what it comes to. -/
theorem Rearranged.evaluate_eq {expr other : Json} (h : Rearranged expr other)
    (checked : (ofJson expr).validate = .ok ()) (blind : (ofJson expr).CaseBlind) (doc : Json) :
    (ofJson other).evaluate doc = (ofJson expr).evaluate doc := by
  have hchecked : (ofJson other).validate = .ok () := h.check_iff.mp checked
  have hblind : (ofJson other).CaseBlind := fun key hkey =>
    blind key ((h.mem_patternKeys_iff key).mpr hkey)
  -- both tables have the patterns of all leaves, so the first one will do for both expressions
  have hevaluate : (ofJson other).evaluate doc =
      evaluateAlong (leafAt (ofJson expr).patterns doc) other [] := by
    rw [evaluate_eq_evaluateAlong]
    exact evaluateAlong_congr fun inner op fields within => h.leafAt_eq doc within
  obtain ⟨b, hb, hholds⟩ := evaluate_eq_ok checked blind doc
  obtain ⟨c, hc, hother⟩ : ∃ c, evaluateAlong (leafAt (ofJson expr).patterns doc) other [] = .ok c ∧
      (c = true ↔ Holds (leafAt (ofJson expr).patterns doc) other []) :=
    evaluateAlong_of_check hchecked fun inner op fields within =>
      h.leafAt_eq doc within ▸ leafAt_of_validate hchecked hblind doc within
  have hsame : c = true ↔ b = true := by
    rw [hother, hholds]
    exact (h.holds_iff (fun _ _ _ _ => evaluateLeaf_insert_apply ..) []).symm
  rw [hevaluate, hc, hb, Bool.eq_iff_iff.mpr hsame]

/-- **A well-formed predicate is a total function with two values.** On every document each of its
leaves has a result, and so has the predicate: whether it holds, where an array and `and` hold if
all of their parts do, `or` if some part does and `not` if none does. The result does not change
when parts are put in another order or are repeated, anywhere in the expression. -/
theorem evaluate_decides (expr : Json) (checked : (ofJson expr).validate = .ok ())
    (blind : (ofJson expr).CaseBlind) :
    (∀ doc, ∃ b, (ofJson expr).evaluate doc = .ok b ∧
      (b = true ↔ Holds (leafAt (ofJson expr).patterns doc) expr [])) ∧
    (∀ doc above op fields, Within expr above op fields →
      ∃ b, leafAt (ofJson expr).patterns doc above op fields = .ok b) ∧
    ∀ other, Rearranged expr other → (ofJson other).validate = .ok () ∧
      ∀ doc, (ofJson other).evaluate doc = (ofJson expr).evaluate doc := by
  refine ⟨fun doc => evaluate_eq_ok checked blind doc, ?_, ?_⟩
  · intro doc above op fields within
    exact leafAt_of_validate checked blind doc within
  · intro other hother
    exact ⟨hother.check_iff.mp checked, fun doc => hother.evaluate_eq checked blind doc⟩

/-- Someone whose name starts with `bob`. Case is to be disregarded, which the pattern undoes. -/
def likeBob : Json :=
  .ofFields [("op", .string "matches"), ("path", .string "name"), ("value", .string "(?-i)^bob"),
    ("ignore_case", .bool true)]

/-- Someone below eighteen. -/
def young : Json :=
  .ofFields [("op", .string "less"), ("path", .string "age"), ("value", .number (.int 18))]

/-- The user is none of the unwanted ones. -/
def noneOf (unwanted : List Json) : Json :=
  .ofFields [("op", .string "not"), ("path", .string "/user"), ("apply", .array unwanted)]

/-- There is a key, and the user is none of the unwanted ones. -/
def guarded (unwanted : List Json) : Json :=
  .array [.ofFields [("op", .string "defined"), ("path", .string "/key")], noneOf unwanted]

theorem evaluate_decides_guarded :
    (ofJson (guarded [likeBob, young])).validate = .ok () ∧
    (ofJson (guarded [likeBob, young])).CaseBlind ∧
    ∀ doc, (∃ b, (ofJson (guarded [likeBob, young])).evaluate doc = .ok b) ∧
      (ofJson (guarded [young, likeBob, young])).evaluate doc =
        (ofJson (guarded [likeBob, young])).evaluate doc := by
  have hchecked : (ofJson (guarded [likeBob, young])).validate = .ok () := by
    have hok : (ofJson (guarded [likeBob, young])).validate.isOk = true := by decide +kernel
    cases hresult : (ofJson (guarded [likeBob, young])).validate with
    | ok _ => rfl
    | error f =>
      rw [hresult] at hok
      cases hok
  have hblind : (ofJson (guarded [likeBob, young])).CaseBlind := by decide +kernel
  have hswapped : Rearranged (guarded [likeBob, young]) (guarded [young, likeBob, young]) := by
    have hlisted : listed? (noneOf [likeBob, young]) = some [likeBob, young] := rfl
    have hinner : Rearranged (noneOf [likeBob, young]) (noneOf [young, likeBob, young]) :=
      .parts hlisted fun v => by simp [or_left_comm, or_comm]
    exact .inside (show listed? (guarded _) = some ([_] ++ noneOf _ :: []) from rfl) hinner
  obtain ⟨htotal, -, hrearranged⟩ := evaluate_decides (guarded [likeBob, young]) hchecked hblind
  refine ⟨hchecked, hblind, fun doc => ⟨?_, (hrearranged _ hswapped).2 doc⟩⟩
  obtain ⟨b, hb, -⟩ := htotal doc
  exact ⟨b, hb⟩

end Predicate

end Switchboard

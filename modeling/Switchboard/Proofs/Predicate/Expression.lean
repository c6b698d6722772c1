/-
Expressions as trees.

An expression is compound, it is an operation on a place, which is a leaf, or it is malformed. An
array is a conjunction that adds nothing to the paths of its parts. Evaluation, the check and the
collection of patterns look at an expression in the same way and then go on with its parts, so what
is proved about leaves goes up the tree in one way for all of them.

* `shape`: what an expression is, one level deep, and `induct`: induction along parts;
* `evaluateAt_eq`, `check_eq_ok_iff`: evaluation and check by shape;
* `Within`: the leaves of an expression, with the paths of the compound operations around each;
* `evaluateAlong`: evaluation with the leaves left open;
* `evaluate_eq_evaluateAlong`: evaluation hands each leaf the joined paths around it.
-/
import Switchboard.Predicate
import Switchboard.Proofs.Json.Path

namespace Switchboard

namespace Predicate

/-! ### Shapes -/

/-- What an expression is, one level deep. A compound one has the paths that it puts in front of
those of its parts: a compound operation has one, an array has none. -/
inductive Shape
  | compound (op : Op) (added : List String) (items : List Json)
  | leaf (op : Op) (fields : List (String × Json))
  | malformed (f : Fault)

/-- The expressions that an operation lists in `apply`. -/
def applied? (fields : List (String × Json)) : Option (List Json) :=
  (Table.find? fields "apply").bind Json.array?

def shape : Json → Shape
  | .array items => .compound .and [] items
  | .object fields =>
    match opOf fields with
    | .error f => .malformed f
    | .ok op =>
      if op.isCompound then
        match applied? fields with
        | none => .malformed (.missingField op "apply")
        | some items => .compound op [(textField? fields "path").getD ""] items
      else .leaf op fields
  | _ => .malformed .notAnObject

/-- The expressions that an array or an object lists, whether its operation is compound or not. -/
def listed? : Json → Option (List Json)
  | .array items => some items
  | .object fields => applied? fields
  | _ => none

section

variable {expr v : Json} {items : List Json} {op : Op} {added : List String}
  {fields : List (String × Json)}

/-- What an object can be. -/
theorem shape_object (fields : List (String × Json)) :
    (∃ f, shape (.object fields) = .malformed f) ∨
    (∃ op, opOf fields = .ok op ∧ op.isCompound = false ∧
      shape (.object fields) = .leaf op fields) ∨
    ∃ op items, applied? fields = some items ∧
      shape (.object fields) = .compound op [(textField? fields "path").getD ""] items := by
  rw [shape]
  cases opOf fields with
  | error f => exact .inl ⟨f, rfl⟩
  | ok op =>
    cases hop : op.isCompound with
    | false => exact .inr (.inl ⟨op, rfl, hop, by simp [hop]⟩)
    | true =>
      cases applied? fields with
      | none => exact .inl ⟨.missingField op "apply", by simp [hop]⟩
      | some items => exact .inr (.inr ⟨op, items, rfl, by simp [hop]⟩)

theorem eq_of_shape_eq_leaf (h : shape expr = .leaf op fields) :
    expr = .object fields ∧ opOf fields = .ok op ∧ op.isCompound = false := by
  cases expr with
  | object own =>
    rcases shape_object own with ⟨f, heq⟩ | ⟨op, hop, hsimple, heq⟩ | ⟨op, items, -, heq⟩
    · rw [heq] at h
      cases h
    · rw [heq] at h
      cases h
      exact ⟨rfl, hop, hsimple⟩
    · rw [heq] at h
      cases h
  | array _ | null | bool _ | number _ | string _ => cases h

theorem listed?_of_shape (h : shape expr = .compound op added items) :
    listed? expr = some items := by
  cases expr with
  | array own =>
    cases h
    rfl
  | object fields =>
    rcases shape_object fields with ⟨f, heq⟩ | ⟨op, -, -, heq⟩ | ⟨op, items, happlied, heq⟩
    · rw [heq] at h
      cases h
    · rw [heq] at h
      cases h
    · rw [heq] at h
      cases h
      exact happlied
  | null | bool _ | number _ | string _ => cases h

theorem find?_of_applied? (h : applied? fields = some items) :
    Table.find? fields "apply" = some (.array items) := by
  obtain ⟨v, hv, hitems⟩ := Option.bind_eq_some_iff.mp h
  cases v with
  | array own =>
    cases hitems
    exact hv
  | _ => cases hitems

theorem sizeOf_lt_of_listed? (h : listed? expr = some items) (hv : v ∈ items) :
    sizeOf v < sizeOf expr := by
  have hitem := List.sizeOf_lt_of_mem hv
  cases expr with
  | array own =>
    cases h
    simp only [Json.array.sizeOf_spec]
    omega
  | object fields =>
    have harray := Path.sizeOf_lt_of_find? (find?_of_applied? h)
    simp only [Json.array.sizeOf_spec, Json.object.sizeOf_spec] at harray ⊢
    omega
  | null | bool _ | number _ | string _ => cases h

theorem sizeOf_lt_of_shape (h : shape expr = .compound op added items) (hv : v ∈ items) :
    sizeOf v < sizeOf expr :=
  sizeOf_lt_of_listed? (listed?_of_shape h) hv

end

/-- Induction along the parts of an expression. -/
@[elab_as_elim]
theorem induct {P : Json → Prop}
    (compound : ∀ expr op added items, shape expr = .compound op added items →
      (∀ v ∈ items, P v) → P expr)
    (leaf : ∀ expr op fields, shape expr = .leaf op fields → P expr)
    (malformed : ∀ expr f, shape expr = .malformed f → P expr) (expr : Json) : P expr :=
  match h : shape expr with
  | .compound op added items =>
    compound expr op added items h fun v _ => induct compound leaf malformed v
  | .leaf op fields => leaf expr op fields h
  | .malformed f => malformed expr f h
termination_by sizeOf expr
decreasing_by exact sizeOf_lt_of_shape ‹_› ‹_›

/-! ### Results of parts -/

/-- Whether all results are that something holds; the first that is not decides. -/
def allOf : List (Except Fault Bool) → Except Fault Bool
  | [] => .ok true
  | .ok true :: rest => allOf rest
  | first :: _ => first

/-- Whether some result is that something holds; the first that is not that it fails decides. -/
def anyOf : List (Except Fault Bool) → Except Fault Bool
  | [] => .ok false
  | .ok false :: rest => anyOf rest
  | first :: _ => first

/-- The result of a compound operation from the results of its parts. -/
def Op.combine (op : Op) (results : List (Except Fault Bool)) : Except Fault Bool :=
  match op with
  | .and => allOf results
  | .or => anyOf results
  | _ => (anyOf results).map fun found => !found

section

variable {results : List (Except Fault Bool)} {f : Fault}

theorem mem_of_allOf_eq_error (h : allOf results = .error f) : .error f ∈ results := by
  induction results with
  | nil => cases h
  | cons first rest ih =>
    rw [List.mem_cons]
    cases first with
    | error g => exact .inl h.symm
    | ok b =>
      cases b with
      | true => exact .inr (ih h)
      | false => cases h

theorem mem_of_anyOf_eq_error (h : anyOf results = .error f) : .error f ∈ results := by
  induction results with
  | nil => cases h
  | cons first rest ih =>
    rw [List.mem_cons]
    cases first with
    | error g => exact .inl h.symm
    | ok b =>
      cases b with
      | true => cases h
      | false => exact .inr (ih h)

/-- A compound operation has no faults of its own. -/
theorem mem_of_combine_eq_error {op : Op} (h : op.combine results = .error f) :
    .error f ∈ results := by
  unfold Op.combine at h
  split at h
  · exact mem_of_allOf_eq_error h
  · exact mem_of_anyOf_eq_error h
  · cases hany : anyOf results with
    | error g =>
      rw [hany] at h
      cases h
      exact mem_of_anyOf_eq_error hany
    | ok b =>
      rw [hany] at h
      cases h

end

/-! ### Evaluation by shape -/

section

variable (table : PatternTable) (doc : Json)

theorem evaluateAll_eq (items : List Json) (base : String) :
    evaluateAll table doc items base = allOf (items.map fun v => evaluateAt table doc v base) := by
  induction items with
  | nil => rw [evaluateAll, List.map_nil, allOf]
  | cons v rest ih =>
    rw [evaluateAll, List.map_cons]
    split
    · next hv => rw [hv, allOf, ih]
    · next hv => rw [allOf.eq_3 _ _ hv]

theorem evaluateAny_eq (items : List Json) (base : String) :
    evaluateAny table doc items base = anyOf (items.map fun v => evaluateAt table doc v base) := by
  induction items with
  | nil => rw [evaluateAny, List.map_nil, anyOf]
  | cons v rest ih =>
    rw [evaluateAny, List.map_cons]
    split
    · next hv => rw [hv, anyOf, ih]
    · next hv => rw [anyOf.eq_3 _ _ hv]

theorem evaluateParts_eq (op : Op) (fields : List (String × Json)) (base : String) :
    evaluateParts table doc op fields base =
      match applied? fields with
      | none => .error (.missingField op "apply")
      | some items => op.combine (items.map fun v => evaluateAt table doc v base) := by
  induction fields with
  | nil =>
    rw [evaluateParts]
    rfl
  | cons e rest ih =>
    obtain ⟨name, v⟩ := e
    unfold evaluateParts
    rw [applied?, Table.find?]
    by_cases hname : name = "apply"
    · rw [if_pos hname, if_pos hname]
      cases v with
      | array items =>
        simp only [evaluateAll_eq, evaluateAny_eq]
        rfl
      | _ => rfl
    · rw [if_neg hname, if_neg hname]
      exact ih

theorem evaluateAt_eq (expr : Json) (base : String) :
    evaluateAt table doc expr base =
      match shape expr with
      | .compound op added items =>
        op.combine (items.map fun v => evaluateAt table doc v (added.foldl joinPaths base))
      | .leaf op fields => evaluateLeaf table doc op fields base
      | .malformed f => .error f := by
  cases expr with
  | array items =>
    rw [evaluateAt, evaluateAll_eq, shape]
    rfl
  | object fields =>
    rw [evaluateAt, shape]
    cases opOf fields with
    | error f => rfl
    | ok op =>
      by_cases hop : op.isCompound = true
      · simp only [if_pos hop, evaluateParts_eq]
        cases applied? fields <;> rfl
      · simp only [if_neg hop]
  | null | bool _ | number _ | string _ => rfl

end

/-! ### The check by shape -/

theorem checkItems_eq_ok_iff {items : List Json} :
    checkItems items = .ok () ↔ ∀ v ∈ items, check v = .ok () := by
  induction items with
  | nil => simp [checkItems]
  | cons v rest ih =>
    rw [checkItems, List.forall_mem_cons]
    cases hv : check v with
    | error f => simp
    | ok _ => simpa using ih

theorem checkParts_eq (op : Op) (fields : List (String × Json)) :
    checkParts op fields =
      match applied? fields with
      | none => .error (.missingField op "apply")
      | some items => checkItems items := by
  induction fields with
  | nil =>
    rw [checkParts]
    rfl
  | cons e rest ih =>
    obtain ⟨name, v⟩ := e
    unfold checkParts
    rw [applied?, Table.find?]
    by_cases hname : name = "apply"
    · rw [if_pos hname, if_pos hname]
      cases v <;> rfl
    · rw [if_neg hname, if_neg hname]
      exact ih

theorem check_eq_ok_iff {expr : Json} :
    check expr = .ok () ↔
      match shape expr with
      | .compound _ _ items => ∀ v ∈ items, check v = .ok ()
      | .leaf op fields => checkLeaf op fields = .ok ()
      | .malformed _ => False := by
  cases expr with
  | array items => rw [check, checkItems_eq_ok_iff, shape]
  | object fields =>
    rw [check, shape]
    cases opOf fields with
    | error f => simp
    | ok op =>
      by_cases hop : op.isCompound = true
      · simp only [if_pos hop, checkParts_eq]
        cases applied? fields with
        | none => simp
        | some items => exact checkItems_eq_ok_iff
      · simp only [if_neg hop]
  | null | bool _ | number _ | string _ => simp [check, shape]

/-! ### Leaves -/

/-- `Within expr above op fields`: the leaf `fields` with the operation `op` stands in `expr`,
inside of compound operations with the paths `above`, from the outermost on. -/
inductive Within : Json → List String → Op → List (String × Json) → Prop
  | here {expr : Json} {op : Op} {fields : List (String × Json)}
      (leaf : shape expr = .leaf op fields) : Within expr [] op fields
  | inside {expr v : Json} {compound op : Op} {added above : List String} {items : List Json}
      {fields : List (String × Json)} (outer : shape expr = .compound compound added items)
      (mem : v ∈ items) (within : Within v above op fields) :
      Within expr (added ++ above) op fields

theorem Within.opOf_eq {expr : Json} {above : List String} {op : Op}
    {fields : List (String × Json)} (h : Within expr above op fields) :
    opOf fields = .ok op ∧ op.isCompound = false := by
  induction h with
  | here leaf => exact (eq_of_shape_eq_leaf leaf).2
  | inside _ _ _ ih => exact ih

/-- Evaluates an expression that stands inside of compound operations with the paths `above`. What
a leaf comes to is told by `leaf`, from the paths of all compound operations around it. -/
def evaluateAlong (leaf : List String → Op → List (String × Json) → Except Fault Bool)
    (expr : Json) (above : List String) : Except Fault Bool :=
  match _ : shape expr with
  | .compound op added items =>
    op.combine (items.attach.map fun v => evaluateAlong leaf v.1 (above ++ added))
  | .leaf op fields => leaf above op fields
  | .malformed f => .error f
termination_by sizeOf expr
decreasing_by exact sizeOf_lt_of_shape ‹_› v.2

section

variable {leaf other : List String → Op → List (String × Json) → Except Fault Bool}

theorem evaluateAlong_eq (expr : Json) (above : List String) :
    evaluateAlong leaf expr above =
      match shape expr with
      | .compound op added items =>
        op.combine (items.map fun v => evaluateAlong leaf v (above ++ added))
      | .leaf op fields => leaf above op fields
      | .malformed f => .error f := by
  rw [evaluateAlong]
  split <;> simp [*]

/-- Only the leaves of an expression count. -/
theorem evaluateAlong_congr {expr : Json} {above : List String}
    (same : ∀ inner op fields, Within expr inner op fields →
      leaf (above ++ inner) op fields = other (above ++ inner) op fields) :
    evaluateAlong leaf expr above = evaluateAlong other expr above := by
  induction expr using induct generalizing above with
  | compound expr op added items hshape ih =>
    rw [evaluateAlong_eq, evaluateAlong_eq, hshape]
    refine congrArg op.combine (List.map_congr_left fun v hv => ih v hv ?_)
    intro inner op fields hwithin
    rw [List.append_assoc]
    exact same (added ++ inner) op fields (.inside hshape hv hwithin)
  | leaf expr op fields hshape =>
    have hhere := same [] op fields (.here hshape)
    rw [List.append_nil] at hhere
    rw [evaluateAlong_eq, evaluateAlong_eq, hshape]
    exact hhere
  | malformed expr f hshape => rw [evaluateAlong_eq, evaluateAlong_eq, hshape]

/-- Whatever is wrong is wrong with a leaf, or with the form of an expression. -/
theorem evaluateAlong_eq_error {expr : Json} {above : List String} {f : Fault}
    (h : evaluateAlong leaf expr above = .error f) :
    (∃ part, shape part = .malformed f) ∨
      ∃ inner op fields, Within expr inner op fields ∧
        leaf (above ++ inner) op fields = .error f := by
  induction expr using induct generalizing above with
  | compound expr op added items hshape ih =>
    rw [evaluateAlong_eq, hshape] at h
    obtain ⟨v, hv, hf⟩ := List.mem_map.mp (mem_of_combine_eq_error h)
    refine (ih v hv hf).imp_right ?_
    rintro ⟨inner, op, fields, hwithin, hleaf⟩
    rw [List.append_assoc] at hleaf
    exact ⟨added ++ inner, op, fields, .inside hshape hv hwithin, hleaf⟩
  | leaf expr op fields hshape =>
    rw [evaluateAlong_eq, hshape] at h
    refine .inr ⟨[], op, fields, .here hshape, ?_⟩
    rwa [List.append_nil]
  | malformed expr g hshape =>
    rw [evaluateAlong_eq, hshape] at h
    cases h
    exact .inl ⟨expr, hshape⟩

end

/-! ### Evaluation along paths -/

/-- A leaf inside of compound operations with the paths `above`, as evaluation comes to it. -/
def leafAt (table : PatternTable) (doc : Json) (above : List String) (op : Op)
    (fields : List (String × Json)) : Except Fault Bool :=
  evaluateLeaf table doc op fields (above.foldl joinPaths "")

theorem evaluateAt_eq_evaluateAlong (table : PatternTable) (doc expr : Json) (above : List String) :
    evaluateAt table doc expr (above.foldl joinPaths "") =
      evaluateAlong (leafAt table doc) expr above := by
  induction expr using induct generalizing above with
  | compound expr op added items hshape ih =>
    rw [evaluateAt_eq, evaluateAlong_eq, hshape]
    refine congrArg op.combine (List.map_congr_left fun v hv => ?_)
    rw [← ih v hv (above ++ added), List.foldl_append]
  | leaf expr op fields hshape =>
    rw [evaluateAt_eq, evaluateAlong_eq, hshape]
    rfl
  | malformed expr f hshape => rw [evaluateAt_eq, evaluateAlong_eq, hshape]

/-- Evaluation hands to each leaf the joined paths of the compound operations around it. -/
theorem evaluate_eq_evaluateAlong (p : Predicate) (doc : Json) :
    p.evaluate doc = evaluateAlong (leafAt p.patterns doc) p.expr [] :=
  evaluateAt_eq_evaluateAlong p.patterns doc p.expr []

end Predicate

end Switchboard

/-
The patterns of a predicate are read before it is evaluated.

Evaluation looks patterns up in a table that was made from the expression beforehand. The table is
made by walking through all lists of expressions, whatever the operations are, so evaluation cannot
come to a pattern that was left out.

* `PatternTable.find?_ofKeys`: the table has an entry for each pattern;
* `mem_patternKeys_of_within`: the pattern of every leaf is among the patterns of the expression;
* `patterns_read`: **evaluation never comes across a pattern that was not read**.
-/
import Switchboard.Proofs.Predicate.Expression

namespace Switchboard

namespace Predicate

/-! ### Tables of patterns -/

namespace PatternTable

theorem find?_map_of_mem {keys : List PatternKey} {key : PatternKey} (h : key ∈ keys)
    (read : PatternKey → Except Pattern.Fault Pattern.Compiled) :
    find? (keys.map fun k => (k, read k)) key = some (read key) := by
  induction keys with
  | nil => cases h
  | cons k rest ih =>
    by_cases hk : k = key
    · simp [find?, hk]
    · have hrest : key ∈ rest := (List.mem_cons.mp h).resolve_left fun heq => hk heq.symm
      have hfind := ih hrest
      simp only [find?, List.map_cons] at hfind ⊢
      rwa [List.find?_cons_of_neg (by simpa using hk)]

/-- The table of a predicate has an entry for each of its patterns. -/
theorem find?_ofKeys {keys : List PatternKey} {key : PatternKey} (h : key ∈ keys) :
    (ofKeys keys).find? key = some (Pattern.compile key.1 key.2) :=
  find?_map_of_mem (List.mem_eraseDups.mpr h) _

end PatternTable

/-! ### Patterns of leaves -/

theorem mem_patternKeysOfItems {items : List Json} {key : PatternKey} :
    key ∈ patternKeysOfItems items ↔ ∃ v ∈ items, key ∈ patternKeys v := by
  induction items with
  | nil => simp [patternKeysOfItems]
  | cons v rest ih => simp [patternKeysOfItems, ih]

theorem patternKeysOfParts_eq (fields : List (String × Json)) :
    patternKeysOfParts fields = patternKeysOfItems ((applied? fields).getD []) := by
  induction fields with
  | nil => rfl
  | cons e rest ih =>
    obtain ⟨name, v⟩ := e
    unfold patternKeysOfParts
    rw [applied?, Table.find?]
    by_cases hname : name = "apply"
    · rw [if_pos hname, if_pos hname]
      cases v <;> rfl
    · rw [if_neg hname, if_neg hname]
      exact ih

/-- The pattern that an object itself asks for. -/
def ownKeys (fields : List (String × Json)) : List PatternKey :=
  match textField? fields "op", textField? fields "value" with
  | some "matches", some pattern => [(pattern, ignoresCase fields)]
  | _, _ => []

theorem patternKeys_object (fields : List (String × Json)) :
    patternKeys (.object fields) =
      patternKeysOfItems ((applied? fields).getD []) ++ ownKeys fields := by
  rw [patternKeys, patternKeysOfParts_eq]
  rfl

/-- The patterns of an expression include those of every expression that it lists. -/
theorem mem_patternKeys_of_listed? {expr v : Json} {items : List Json} {key : PatternKey}
    (h : listed? expr = some items) (hv : v ∈ items) (hkey : key ∈ patternKeys v) :
    key ∈ patternKeys expr := by
  have hitems : key ∈ patternKeysOfItems items := mem_patternKeysOfItems.mpr ⟨v, hv, hkey⟩
  cases expr with
  | array own =>
    cases h
    rwa [patternKeys]
  | object fields =>
    rw [listed?] at h
    rw [patternKeys_object, h]
    exact List.mem_append_left _ hitems
  | null | bool _ | number _ | string _ => cases h

theorem text_of_opOf {fields : List (String × Json)} {op : Op} (h : opOf fields = .ok op) :
    textField? fields "op" = some op.text := by
  unfold opOf at h
  split at h
  · cases h
  · next name hname =>
    split at h
    · next found hfound =>
      cases h
      have htext := List.find?_some hfound
      rw [hname, ← beq_iff_eq.mp htext]
    · cases h

/-- The pattern of an operation is among the patterns of the expression. -/
theorem mem_patternKeys {fields : List (String × Json)} {pattern : String}
    (hop : opOf fields = .ok .matchesPattern)
    (hvalue : Table.find? fields "value" = some (.string pattern)) :
    (pattern, ignoresCase fields) ∈ patternKeys (.object fields) := by
  have hop : textField? fields "op" = some "matches" := text_of_opOf hop
  have hvalue : textField? fields "value" = some pattern := by
    rw [textField?, hvalue]
    rfl
  rw [patternKeys_object, ownKeys, hop, hvalue]
  simp

/-- The patterns of an expression include those of every leaf in it. -/
theorem mem_patternKeys_of_within {expr : Json} {above : List String} {op : Op}
    {fields : List (String × Json)} {key : PatternKey} (h : Within expr above op fields)
    (hkey : key ∈ patternKeys (.object fields)) : key ∈ patternKeys expr := by
  induction h with
  | here leaf => rwa [(eq_of_shape_eq_leaf leaf).1]
  | inside outer mem _ ih =>
    exact mem_patternKeys_of_listed? (listed?_of_shape outer) mem (ih hkey)

/-! ### Evaluation -/

/-- What is said of a pattern that was not read is said of nothing else. -/
theorem eq_patternNotRead_of_message {reason : OperandFault}
    (h : reason.message = "pattern was not compiled") : reason = .patternNotRead := by
  have hfirst : reason.message.toList.head? = some 'p' := by rw [h]; rfl
  cases reason with
  | patternNotRead => rfl
  | notAString | notAnArray | notANumber => exact absurd hfirst (by decide +kernel)
  | unknownType name =>
    have hmessage : (OperandFault.unknownType name).message =
        "unknown type \"" ++ name ++ "\"" := rfl
    rw [hmessage, String.toList_append, String.toList_append] at hfirst
    exact absurd hfirst (by simp)
  | pattern f =>
    by_cases hlarge : f = .tooLarge
    · subst hlarge
      exact absurd hfirst (by decide +kernel)
    · have hmessage : (OperandFault.pattern f).message = "regex parse error: " ++ f.cause :=
        if_neg hlarge
      rw [hmessage, String.toList_append] at hfirst
      exact absurd hfirst (by simp)

/-- An operation whose pattern is in the table is not short of it. -/
theorem satisfies_ne_patternNotRead {table : PatternTable} {op : Op} {ignoreCase : Bool}
    {operand : Json} (read : ∀ pattern, op = .matchesPattern → operand = .string pattern →
      (table.find? (pattern, ignoreCase)).isSome) (target : Option Json) (other : Op) :
    satisfies table op ignoreCase operand target ≠
      .error (.invalidOperand other .patternNotRead) := by
  cases op with
  | test | defined | undefined | and | or | not => exact nofun
  | contains | starts | ends => cases operand <;> exact nofun
  | isIn | less | more => cases operand <;> exact nofun
  | type =>
    cases operand with
    | string name =>
      by_cases hname : name ∈ typeNames
      · simp [satisfies, operandType, operandString, bind, Except.bind, hname]
      · simp [satisfies, operandType, operandString, bind, Except.bind, hname]
    | _ => exact nofun
  | matchesPattern =>
    cases operand with
    | string pattern =>
      obtain ⟨entry, hentry⟩ := Option.isSome_iff_exists.mp (read pattern rfl rfl)
      simp only [satisfies, operandString, bind, Except.bind, hentry]
      cases entry <;> exact nofun
    | _ => exact nofun

/-- What a leaf comes to: a field is missing, or its operation is applied to an operand. Of a table
of patterns it makes use only of the pattern of its own. -/
theorem evaluateLeaf_cases {op : Op} {fields : List (String × Json)}
    (named : opOf fields = .ok op) (doc : Json) (base : String) :
    (∃ field, ∀ table, evaluateLeaf table doc op fields base = .error (.missingField op field)) ∨
    ∃ ignoreCase operand target,
      (∀ pattern, op = .matchesPattern → operand = .string pattern →
        (pattern, ignoreCase) ∈ patternKeys (.object fields)) ∧
      ∀ table, evaluateLeaf table doc op fields base =
        satisfies table op ignoreCase operand target := by
  unfold evaluateLeaf
  cases hpath : textField? fields "path" with
  | none => exact .inl ⟨"path", fun table => rfl⟩
  | some path =>
    by_cases hoperand : op.takesOperand = true
    · cases hvalue : Table.find? fields "value" with
      | none => exact .inl ⟨"value", fun table => if_pos hoperand⟩
      | some operand =>
        refine .inr ⟨ignoresCase fields, operand, Path.get doc (joinPaths base path), ?_, ?_⟩
        · rintro pattern rfl rfl
          exact mem_patternKeys named hvalue
        · exact fun table => if_pos hoperand
    · refine .inr ⟨false, .null, Path.get doc (joinPaths base path), ?_, ?_⟩
      · rintro pattern rfl -
        exact absurd rfl hoperand
      · exact fun table => if_neg hoperand

theorem evaluateLeaf_ne_patternNotRead {table : PatternTable} {op : Op}
    {fields : List (String × Json)} (named : opOf fields = .ok op)
    (read : ∀ key ∈ patternKeys (.object fields), (table.find? key).isSome) (doc : Json)
    (base : String) (other : Op) :
    evaluateLeaf table doc op fields base ≠ .error (.invalidOperand other .patternNotRead) := by
  rcases evaluateLeaf_cases named doc base with
    ⟨field, hleaf⟩ | ⟨ignoreCase, operand, target, hown, hleaf⟩
  · rw [hleaf]
    exact nofun
  · rw [hleaf]
    exact satisfies_ne_patternNotRead (fun pattern hop hvalue => read _ (hown pattern hop hvalue))
      target other

theorem opOf_ne_invalidOperand (fields : List (String × Json)) (op : Op) (reason : OperandFault) :
    opOf fields ≠ .error (.invalidOperand op reason) := by
  unfold opOf
  split
  · exact nofun
  · split <;> exact nofun

/-- What is malformed is so whatever the operands are. -/
theorem shape_ne_invalidOperand (expr : Json) (op : Op) (reason : OperandFault) :
    shape expr ≠ .malformed (.invalidOperand op reason) := by
  intro h
  cases expr with
  | object fields =>
    rw [shape] at h
    split at h
    · next f hop =>
      cases h
      exact opOf_ne_invalidOperand fields op reason hop
    · split at h
      · split at h <;> cases h
      · cases h
  | array _ | null | bool _ | number _ | string _ => cases h

/-- **Evaluation never comes across a pattern that was not read.** Whatever the expression is, the
table has an entry for the pattern of every leaf in it, read with or without regard to case as the
leaf says. So on no document the reason of a fault is that a pattern was not compiled. -/
theorem patterns_read (expr : Json) :
    (∀ above fields pattern, Within expr above .matchesPattern fields →
      Table.find? fields "value" = some (.string pattern) →
      (ofJson expr).patterns.find? (pattern, ignoresCase fields) =
        some (Pattern.compile pattern (ignoresCase fields))) ∧
    ∀ doc op reason, (ofJson expr).evaluate doc = .error (.invalidOperand op reason) →
      reason.message ≠ "pattern was not compiled" := by
  have hread {above : List String} {op : Op} {fields : List (String × Json)}
      (within : Within expr above op fields) (key : PatternKey)
      (hkey : key ∈ patternKeys (.object fields)) :
      (ofJson expr).patterns.find? key = some (Pattern.compile key.1 key.2) :=
    PatternTable.find?_ofKeys (mem_patternKeys_of_within within hkey)
  constructor
  · intro above fields pattern within hvalue
    exact hread within _ (mem_patternKeys within.opOf_eq.1 hvalue)
  · intro doc op reason hfault hmessage
    obtain rfl := eq_patternNotRead_of_message hmessage
    rw [evaluate_eq_evaluateAlong] at hfault
    rcases evaluateAlong_eq_error hfault with ⟨part, hpart⟩ | ⟨above, own, fields, within, hleaf⟩
    · exact shape_ne_invalidOperand part op _ hpart
    · refine evaluateLeaf_ne_patternNotRead within.opOf_eq.1 (fun key hkey => ?_) doc _ op hleaf
      rw [hread within key hkey]
      rfl

/-- An operation whose pattern is none, and whose `ignore_case` is of the wrong type. -/
def openGroup : List (String × Json) :=
  Table.ofList [("op", .string "matches"), ("path", .string "/user"), ("value", .string "("),
    ("ignore_case", .string "yes")]

/-- The operation in a list of a list. -/
def nestedGroup : Json :=
  .ofFields [("op", .string "not"), ("apply", .array [.array [.object openGroup]])]

theorem patterns_read_nestedGroup :
    Within nestedGroup [""] .matchesPattern openGroup ∧
    Table.find? openGroup "value" = some (.string "(") ∧
    (ofJson nestedGroup).patterns.find? ("(", false) = some (Pattern.compile "(" false) ∧
    ∃ reason, (ofJson nestedGroup).evaluate (.ofFields []) =
        .error (.invalidOperand .matchesPattern reason) ∧
      reason.message ≠ "pattern was not compiled" := by
  have hlist : Within (.array [.object openGroup]) [] .matchesPattern openGroup :=
    .inside (show shape (.array _) = .compound .and [] _ from rfl) List.mem_cons_self (.here rfl)
  have hwithin : Within nestedGroup [""] .matchesPattern openGroup :=
    .inside (show shape nestedGroup = .compound .not [""] [_] from rfl) List.mem_cons_self hlist
  have hvalue : Table.find? openGroup "value" = some (.string "(") := rfl
  obtain ⟨hread, hmessage⟩ := patterns_read nestedGroup
  obtain ⟨reason, hfault⟩ : ∃ reason, (ofJson nestedGroup).evaluate (.ofFields []) =
      .error (.invalidOperand .matchesPattern reason) := ⟨_, rfl⟩
  exact ⟨hwithin, hvalue, hread _ _ _ hwithin hvalue, reason, hfault, hmessage _ _ _ hfault⟩

end Predicate

end Switchboard

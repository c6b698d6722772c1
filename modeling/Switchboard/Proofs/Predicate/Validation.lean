/-
Predicates that are well formed can be evaluated.

The check of a predicate sees no document and reads each pattern with regard to case, even where
evaluation disregards it. Disregarding case may make a pattern too large, so the check promises
something only for predicates whose patterns are none of these.

* `evaluateLeaf_of_check`: a checked leaf has a result on every document;
* `evaluate_eq_ok`: so has a checked predicate, and the result is whether it holds;
* `Match.total_of_validate`: a condition that is checked can be evaluated.
-/
import Switchboard.Proofs.Predicate.Meaning
import Switchboard.Proofs.Predicate.Patterns

namespace Switchboard

/-- Whether case counts makes no difference to whether a pattern can be used. -/
def Pattern.CaseBlind (pattern : String) : Prop :=
  (compile pattern false).isOk = (compile pattern true).isOk

instance (pattern : String) : Decidable (Pattern.CaseBlind pattern) :=
  inferInstanceAs (Decidable (_ = _))

namespace Predicate

/-! ### Tables of patterns -/

namespace PatternTable

/-- Every one of the patterns is in the table and can be used, if it can be with regard to case. -/
def Covers (table : PatternTable) (keys : List PatternKey) : Prop :=
  ∀ key ∈ keys, (Pattern.compile key.1 false).isOk →
    ∃ compiled, table.find? key = some (.ok compiled)

theorem covers_ofKeys {keys : List PatternKey} (h : ∀ key ∈ keys, Pattern.CaseBlind key.1) :
    (ofKeys keys).Covers keys := by
  intro key hkey hok
  rw [find?_ofKeys hkey]
  have hused : (Pattern.compile key.1 key.2).isOk := by
    cases hcase : key.2 with
    | false => exact hok
    | true => exact h key hkey ▸ hok
  cases hcompile : Pattern.compile key.1 key.2 with
  | ok compiled => exact ⟨compiled, rfl⟩
  | error f =>
    rw [hcompile] at hused
    cases hused

end PatternTable

/-! ### Single operations -/

/-- An operand that is checked is of the right kind. -/
theorem satisfies_of_check {table : PatternTable} {fields : List (String × Json)} {op : Op}
    {operand : Json} (target : Option Json) (hop : opOf fields = .ok op)
    (hoperand : op.takesOperand = true) (hvalue : Table.find? fields "value" = some operand)
    (h : checkLeaf op fields = .ok ()) (covers : table.Covers (patternKeys (.object fields))) :
    ∃ b, satisfies table op (ignoresCase fields) operand target = .ok b := by
  unfold checkLeaf at h
  split at h
  · cases h
  rw [if_pos hoperand, hvalue] at h
  dsimp only at h
  cases op with
  | defined | undefined | and | or | not => cases hoperand
  | test => exact ⟨_, rfl⟩
  | contains | starts | ends =>
    cases operand with
    | string needle => exact ⟨_, rfl⟩
    | _ => cases h
  | matchesPattern =>
    cases operand with
    | string pattern =>
      -- the check has compiled the pattern with regard to case, whatever the expression says
      have hok : (Pattern.compile pattern false).isOk := by
        cases hcompile : Pattern.compile pattern false with
        | ok _ => rfl
        | error f => simp [operandString, hcompile] at h
      obtain ⟨compiled, hcompiled⟩ := covers _ (mem_patternKeys hop hvalue) hok
      refine ⟨(target.bind Json.string?).any compiled.isMatch, ?_⟩
      simp [satisfies, operandString, hcompiled, bind, Except.bind]
    | _ => cases h
  | isIn =>
    cases operand with
    | array choices => exact ⟨_, rfl⟩
    | _ => cases h
  | less | more =>
    cases operand with
    | number bound => exact ⟨_, rfl⟩
    | _ => cases h
  | type =>
    cases hname : operandType .type operand with
    | ok name => exact ⟨_, by rw [satisfies, hname]; rfl⟩
    | error f => simp [hname, Except.map] at h

theorem evaluateLeaf_of_check {table : PatternTable} {fields : List (String × Json)} {op : Op}
    (doc : Json) (base : String) (hop : opOf fields = .ok op) (hsimple : op.isCompound = false)
    (h : checkLeaf op fields = .ok ()) (covers : table.Covers (patternKeys (.object fields))) :
    ∃ b, evaluateLeaf table doc op fields base = .ok b := by
  have hcheck := h
  unfold checkLeaf at h
  unfold evaluateLeaf
  cases hpath : textField? fields "path" with
  | none => simp [hpath] at h
  | some path =>
    rw [hpath] at h
    dsimp only at h ⊢
    cases hoperand : op.takesOperand with
    | false =>
      cases op with
      | defined | undefined => exact ⟨_, rfl⟩
      | and | or | not => cases hsimple
      | _ => cases hoperand
    | true =>
      rw [if_pos hoperand] at h
      rw [if_pos rfl]
      cases hvalue : Table.find? fields "value" with
      | none => simp [hvalue] at h
      | some operand => exact satisfies_of_check _ hop hoperand hvalue hcheck covers

/-! ### Expressions -/

/-- The check goes on where evaluation may stop, so it has seen every leaf. -/
theorem Within.checkLeaf_eq {expr : Json} {above : List String} {op : Op}
    {fields : List (String × Json)} (within : Within expr above op fields)
    (h : check expr = .ok ()) : checkLeaf op fields = .ok () := by
  induction within with
  | here leaf => rwa [check_eq_ok_iff, leaf] at h
  | inside outer mem _ ih =>
    rw [check_eq_ok_iff, outer] at h
    exact ih (h _ mem)

/-- The patterns of a predicate do not depend on case. -/
def CaseBlind (p : Predicate) : Prop := ∀ key ∈ patternKeys p.expr, Pattern.CaseBlind key.1

instance (p : Predicate) : Decidable p.CaseBlind :=
  inferInstanceAs (Decidable (∀ _ ∈ _, _))

/-- Every leaf of a well-formed predicate has a result, on every document. -/
theorem leafAt_of_validate {p : Predicate} (h : p.validate = .ok ()) (blind : p.CaseBlind)
    (doc : Json) {above : List String} {op : Op} {fields : List (String × Json)}
    (within : Within p.expr above op fields) :
    ∃ b, leafAt p.patterns doc above op fields = .ok b := by
  have covers : p.patterns.Covers (patternKeys (.object fields)) := fun key hkey =>
    (p.patterns_eq ▸ PatternTable.covers_ofKeys blind) key (mem_patternKeys_of_within within hkey)
  exact evaluateLeaf_of_check doc _ within.opOf_eq.1 within.opOf_eq.2 (within.checkLeaf_eq h) covers

/-- Evaluation finds out whether a well-formed predicate holds. -/
theorem evaluate_eq_ok {p : Predicate} (h : p.validate = .ok ()) (blind : p.CaseBlind)
    (doc : Json) :
    ∃ b, p.evaluate doc = .ok b ∧ (b = true ↔ Holds (leafAt p.patterns doc) p.expr []) := by
  rw [evaluate_eq_evaluateAlong]
  exact evaluateAlong_of_check h fun inner op fields within => leafAt_of_validate h blind doc within

/-- **A predicate that is well formed can be evaluated**, on every document. -/
theorem evaluate_of_validate {p : Predicate} (h : p.validate = .ok ()) (blind : p.CaseBlind)
    (doc : Json) : ∃ b, p.evaluate doc = .ok b := by
  obtain ⟨b, hb, -⟩ := evaluate_eq_ok h blind doc
  exact ⟨b, hb⟩

end Predicate

namespace Match

/-- The condition can be evaluated on every document. -/
def Total : Match → Prop
  | wildcard => True
  | predicate p => ∀ doc, ∃ b, p.evaluate doc = .ok b

/-- Whether the condition can be evaluated on a document. -/
def evaluates (doc : Json) : Match → Bool
  | wildcard => true
  | predicate p => (p.evaluate doc).isOk

theorem Total.evaluates {m : Match} (h : m.Total) (doc : Json) : m.evaluates doc = true := by
  cases m with
  | wildcard => rfl
  | predicate p =>
    obtain ⟨b, hb⟩ := h doc
    rw [Match.evaluates, hb]
    rfl

/-- The patterns of the condition do not depend on case. -/
def CaseBlind : Match → Prop
  | wildcard => True
  | predicate p => p.CaseBlind

instance (m : Match) : Decidable m.CaseBlind :=
  match m with
  | wildcard => .isTrue trivial
  | predicate p => inferInstanceAs (Decidable p.CaseBlind)

theorem total_of_validate {m : Match} (h : m.validate = .ok ()) (blind : m.CaseBlind) :
    m.Total := by
  cases m with
  | wildcard => trivial
  | predicate p => exact p.evaluate_of_validate h blind

end Match

end Switchboard

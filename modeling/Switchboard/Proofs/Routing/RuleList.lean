/-
Lists of rules as they are shown, read and built.

What is shown of a rule is enough to define it again, apart from its count. A list that is built
from what was shown of another one has the same entries therefore, but its rules are counted anew.

* `RuleEntry.content`: an entry without its count;
* `RuleEntry.decode_view`: what is shown of an entry is read as its content;
* `RuleEntry.map_content_eraseIdx_buildAll`: what is read is built, except for what has no name yet;
* `RuleEntry.get_buildAll`, `RuleEntry.get_counter_buildAll`: old counts stay and new ones are zero.
-/
import Switchboard.Proofs.Json.Path
import Switchboard.Proofs.Routing.Rule

namespace Switchboard

/-! ### Counts -/

namespace Counters

variable (cs : Counters) (id : CounterId)

/-- A count that is not there reads as zero, so that none changes when it is added. -/
theorem get_add : cs.add.2.get id = cs.get id := by
  unfold get add
  rw [Array.getElem?_push]
  split
  · next hid => rw [hid, Array.getElem?_eq_none (Nat.le_refl _)]; rfl
  · rfl

theorem get_counter_add : cs.get cs.add.1 = 0 := by
  unfold get add
  rw [Array.getElem?_eq_none (Nat.le_refl _)]
  rfl

end Counters

namespace Rule

variable (res : Resources)

theorem counters_buildOwnRoute (rule : String) (action : Json) :
    (buildOwnRoute res rule action).2.counters = res.counters := by
  rw [buildOwnRoute]
  cases ownRoute? action with
  | none => rfl
  | some d => rfl

theorem get_build (name : String) (condition : Match) (action : Json) (id : CounterId) :
    (build res name condition action).2.counters.get id = res.counters.get id := by
  rw [build, ← counters_buildOwnRoute res name action]
  exact Counters.get_add _ id

theorem get_counter_build (name : String) (condition : Match) (action : Json) :
    res.counters.get (build res name condition action).1.counter = 0 := by
  rw [build, ← counters_buildOwnRoute res name action]
  exact Counters.get_counter_add _

theorem get_ofDefinition (d : RuleDefinition) (id : CounterId) :
    (ofDefinition res d).2.counters.get id = res.counters.get id := by
  rw [ofDefinition]
  split
  · exact get_build res _ _ _ id
  · exact get_build (res.nextName .rule).2 _ _ _ id

theorem get_counter_ofDefinition (d : RuleDefinition) :
    res.counters.get (ofDefinition res d).1.counter = 0 := by
  rw [ofDefinition]
  split
  · exact get_counter_build res _ _ _
  · exact get_counter_build (res.nextName .rule).2 _ _ _

end Rule

namespace RuleEntry

variable (res : Resources)

theorem get_build (r : RuleReference) (id : CounterId) :
    (build res r).2.counters.get id = res.counters.get id := by
  cases r with
  | named name => rfl
  | inline d => exact Rule.get_ofDefinition res d id

/-- No count changes when entries are built. -/
theorem get_buildAll (rs : List RuleReference) (id : CounterId) :
    (buildAll res rs).2.counters.get id = res.counters.get id := by
  induction rs generalizing res with
  | nil => rfl
  | cons r rest ih =>
    rw [buildAll]
    exact (ih _).trans (get_build res r id)

/-- The rules that are built are counted from zero on. -/
theorem get_counter_buildAll {rs : List RuleReference} {rule : Rule}
    (h : .inline rule ∈ (buildAll res rs).1) : res.counters.get rule.counter = 0 := by
  induction rs generalizing res with
  | nil => cases h
  | cons r rest ih =>
    rcases List.mem_cons.mp h with hfirst | hrest
    · cases r with
      | named name => cases hfirst
      | inline d =>
        cases hfirst
        exact Rule.get_counter_ofDefinition res d
    · rw [← get_build res r]
      exact ih _ hrest

end RuleEntry

/-! ### Contents -/

/-- An entry without its count: the name of a rule, or the name, the condition and the action of a
rule of the list's own. -/
def RuleEntry.content : RuleEntry → RuleReference
  | .named name => .named name
  | .inline rule => .inline rule.toDefinition

/-- The count of a rule of the list's own. -/
def RuleEntry.count? (counters : Counters) : RuleEntry → Option Nat
  | .named _ => none
  | .inline rule => some (counters.get rule.counter)

/-- A rule whose name need not be made up. -/
def RuleReference.HasName (r : RuleReference) : Prop := ∀ d, r = .inline d → d.name.isSome = true

/-- An object with all fields of a rule is read as the rule, whatever other fields it has. -/
theorem RuleDefinition.decode_object {fields : List (String × Json)} {name : String}
    {condition action : Json} (hname : Table.find? fields "name" = some (.string name))
    (hcondition : Table.find? fields "match" = some condition)
    (haction : Table.find? fields "action" = some action) :
    decode (.object fields) = .ok ⟨some name, .ofJson condition, action⟩ := by
  have hsettle : (Decode.Record.named fields).settle type
      [("name", none), ("match", none), ("action", none)] = .ok () :=
    Decode.Record.settle_eq_ok (by simp)
  rw [decode]
  simp only [Decode.record, bind, Except.bind, Decode.Record.field_of_find? hname,
    Decode.Record.field_of_find? hcondition, Decode.Record.field_of_find? haction,
    Decode.optional, Decode.string, Except.map, Decode.fault?, hsettle, pure, Except.pure]

/-- A rule as it is shown, with another count. -/
theorem Rule.set_view (rule : Rule) (counters : Counters) (n : Nat) :
    Path.set (rule.view counters) "/stats/total_applied" (.nat n) = .ofFields
      [("name", rule.name), ("match", rule.condition.toJson), ("action", rule.action),
        ("stats", .ofFields [("total_applied", .nat n)])] := by
  have hsegments : Path.segments "/stats/total_applied" = ["stats", "total_applied"] := by
    decide +kernel
  have hstats := Path.setAt_last [] "total_applied" (.nat (counters.get rule.counter)) [] (.nat n)
  rw [Path.set, hsegments]
  refine (Path.setAt_last [("name", rule.name), ("match", rule.condition.toJson),
    ("action", rule.action)] "stats" _ ["total_applied"] (.nat n)).trans ?_
  rw [List.nil_append] at hstats
  rw [hstats]
  rfl

/-- The count of a rule in what is shown of it. -/
theorem Rule.get_view (rule : Rule) (counters : Counters) :
    Path.get (rule.view counters) "/stats/total_applied" =
      some (.nat (counters.get rule.counter)) := by
  have hset : Path.set (rule.view counters) "/stats/total_applied"
      (.nat (counters.get rule.counter)) = rule.view counters := rule.set_view counters _
  rw [← hset]
  exact Path.getAt_setAt ..

theorem Rule.decode_view {rule : Rule} (h : rule.condition.Written) (counters : Counters) :
    RuleDefinition.decode (rule.view counters) = .ok rule.toDefinition := by
  have hcondition : Match.ofJson rule.condition.toJson = rule.condition := h
  rw [toDefinition, ← hcondition]
  refine RuleDefinition.decode_object ?_ ?_ ?_ <;>
  · rw [Table.find?_ofList]
    rfl

theorem Reference.decode_object {α : Type} (type : String) {inline : Decoder α}
    {fields : List (String × Json)} {definition : α}
    (h : inline (.object fields) = .ok definition) :
    decode type inline (.object fields) = .ok (.inline definition) := by
  simp only [decode, h]

namespace RuleEntry

theorem hasName_content (entry : RuleEntry) : RuleReference.HasName entry.content := by
  intro d hd
  cases entry with
  | named name => cases hd
  | inline rule =>
    cases hd
    rfl

/-- What is shown of an entry is read as its content. -/
theorem decode_view {entry : RuleEntry} (h : ∀ rule, entry = .inline rule → rule.condition.Written)
    (rules : String → Option Rule) (counters : Counters) :
    RuleReference.decode (entry.view rules counters false) = .ok entry.content := by
  cases entry with
  | named name => rfl
  | inline rule =>
    have hread := Rule.decode_view (h rule rfl) counters
    exact Reference.decode_object _ hread

variable (res : Resources)

theorem content_build {r : RuleReference} (h : r.HasName) : (build res r).1.content = r := by
  cases r with
  | named name => rfl
  | inline d =>
    obtain ⟨name, hname⟩ := Option.isSome_iff_exists.mp (h d rfl)
    obtain ⟨_, condition, action⟩ := d
    cases hname
    rfl

theorem map_content_buildAll {rs : List RuleReference} (h : ∀ r ∈ rs, r.HasName) :
    (buildAll res rs).1.map content = rs := by
  induction rs generalizing res with
  | nil => rfl
  | cons r rest ih =>
    rw [buildAll, List.map_cons, content_build res (h r List.mem_cons_self),
      ih _ fun r hr => h r (List.mem_cons_of_mem _ hr)]

/-- The entries are built with the contents that define them. One of them may lack a name. -/
theorem map_content_eraseIdx_buildAll {rs : List RuleReference} {i : Nat}
    (h : ∀ r ∈ rs.eraseIdx i, r.HasName) :
    ((buildAll res rs).1.eraseIdx i).map content = rs.eraseIdx i := by
  induction rs generalizing res i with
  | nil => rfl
  | cons r rest ih =>
    cases i with
    | zero => exact map_content_buildAll _ h
    | succ i =>
      rw [List.eraseIdx_cons_succ, List.forall_mem_cons] at h
      rw [buildAll, List.eraseIdx_cons_succ, List.map_cons, content_build res h.1, ih _ h.2,
        List.eraseIdx_cons_succ]

end RuleEntry

end Switchboard

/-
Rules as they are built from definitions.

A definition that was read has a condition that stands for what was written, so that the condition
is the same when it is written and read again. A rule that is built has the route that its action
defines.

* `Match.Written`: a condition that is read again the same;
* `RuleDefinition.written_of_decode`, `RuleListDefinition.written_of_decode`: what is read is
  written;
* `Rule.Built`: what a rule has from its definition;
* `Snapshot.allRules`: the rules of a snapshot.
-/
import Switchboard.Proofs.Json.Decode
import Switchboard.Proofs.Table
import Switchboard.Routing.Snapshot

namespace Switchboard

/-! ### Conditions -/

/-- A condition that is the same when it is written and read again. -/
def Match.Written (m : Match) : Prop := ofJson m.toJson = m

theorem Match.written_ofJson (v : Json) : (ofJson v).Written := by
  cases v <;> rfl

namespace RuleDefinition

open Decode

theorem written_of_decode {v : Json} {d : RuleDefinition} (h : decode v = .ok d) :
    d.condition.Written := by
  obtain ⟨r, -, h⟩ := Except.bind_eq_ok.mp h
  obtain ⟨-, -, h⟩ := Except.bind_eq_ok.mp h
  obtain ⟨name, -, h⟩ := Except.bind_eq_ok.mp h
  obtain ⟨condition, hcondition, h⟩ := Except.bind_eq_ok.mp h
  obtain ⟨action, -, h⟩ := Except.bind_eq_ok.mp h
  cases h
  rcases Record.field_eq_ok hcondition with ⟨w, -, hw⟩ | hdefault
  · cases hw
    exact Match.written_ofJson w
  · rw [show condition = .wildcard from hdefault]
    rfl

end RuleDefinition

/-- A definition that stands in a list was read from a rule. -/
theorem RuleReference.written_of_decode {v : Json} {d : RuleDefinition}
    (h : decode v = .ok (.inline d)) : d.condition.Written := by
  unfold decode Reference.decode at h
  split at h
  · cases h
  · split at h
    · next hd =>
      cases h
      exact RuleDefinition.written_of_decode hd
    · cases h

namespace RuleListDefinition

open Decode

theorem rules_of_decode {v : Json} {d : RuleListDefinition} (h : decode v = .ok d) :
    ∃ r, record type v = .ok r ∧
      r.field type "rules" (list RuleReference.decode) (some []) = .ok d.rules := by
  obtain ⟨r, hr, h⟩ := Except.bind_eq_ok.mp h
  obtain ⟨-, -, h⟩ := Except.bind_eq_ok.mp h
  obtain ⟨name, -, h⟩ := Except.bind_eq_ok.mp h
  obtain ⟨rules, hrules, h⟩ := Except.bind_eq_ok.mp h
  cases h
  exact ⟨r, hr, hrules⟩

/-- The rules of an object are those in its field. -/
theorem items_of_decode {fields : List (String × Json)} {d : RuleListDefinition} {v : Json}
    (h : decode (.object fields) = .ok d) (hv : Table.find? fields "rules" = some v) :
    ∃ vs, v = .array vs ∧ items RuleReference.decode vs = .ok d.rules := by
  obtain ⟨r, hr, hrules⟩ := rules_of_decode h
  cases hr
  rw [Record.field_of_find? hv] at hrules
  unfold list at hrules
  split at hrules
  · next vs => exact ⟨vs, rfl, hrules⟩
  · cases hrules

theorem written_of_decode {v : Json} {d : RuleListDefinition} (h : decode v = .ok d) :
    ∀ rule, .inline rule ∈ d.rules → rule.condition.Written := by
  obtain ⟨r, -, hrules⟩ := rules_of_decode h
  intro rule hrule
  rcases Record.field_eq_ok hrules with ⟨w, -, hw⟩ | hdefault
  · unfold list at hw
    split at hw
    · obtain ⟨u, -, hu⟩ := exists_of_mem_items hw hrule
      exact RuleReference.written_of_decode hu
    · cases hw
  · rw [hdefault] at hrule
    cases hrule

end RuleListDefinition

/-! ### Routes -/

namespace Route

@[simp] theorem toReference_build (pool : ClusterPool) (r : ClusterReference) :
    (Destination.build pool r).1.toReference = r := by
  cases r <;> rfl

theorem toDefinition_build (pool : ClusterPool) (name : String) (d : RouteDefinition) :
    (build pool name d).1.toDefinition = { d with name := some name } := by
  rw [build, toDefinition]
  simp

theorem usesCluster_iff {route : Route} {name : String} :
    route.usesCluster name = true ↔ route.toDefinition.destination = .named name := by
  obtain ⟨own, destination, ingress, retry⟩ := route
  cases destination with
  | registered n => simp [usesCluster, toDefinition, Destination.toReference]
  | own d id => simp [usesCluster, toDefinition, Destination.toReference]

theorem usesStage_iff {route : Route} {name : String} :
    route.usesStage name = true ↔ .named name ∈ route.toDefinition.ingress := by
  rw [usesStage, toDefinition, List.any_eq_true]
  constructor
  · rintro ⟨d, hd, hname⟩
    split at hname
    · exact eq_of_beq hname ▸ hd
    · cases hname
  · exact fun h => ⟨_, h, by simp⟩

end Route

/-! ### Rules -/

/-- What a rule has from its definition: a condition that was written, and the route that its action
defines, which is called after the rule if it has no name. -/
structure Rule.Built (rule : Rule) : Prop where
  condition : rule.condition.Written
  route : rule.route.map Route.toDefinition = (Rule.ownRoute? rule.action).map fun d =>
    { d with name := some (d.name.getD (rule.name ++ "_route")) }

namespace Rule

variable (res : Resources)

theorem toDefinition_buildOwnRoute (rule : String) (action : Json) :
    (buildOwnRoute res rule action).1.map Route.toDefinition = (ownRoute? action).map fun d =>
      { d with name := some (d.name.getD (rule ++ "_route")) } := by
  rw [buildOwnRoute]
  cases ownRoute? action with
  | none => rfl
  | some d => exact congrArg some (Route.toDefinition_build res.clusters _ d)

theorem built_build (name : String) {condition : Match} (h : condition.Written) (action : Json) :
    (build res name condition action).1.Built :=
  ⟨h, toDefinition_buildOwnRoute res name action⟩

theorem built_ofDefinition {d : RuleDefinition} (h : d.condition.Written) :
    (ofDefinition res d).1.Built := by
  rw [ofDefinition]
  split
  · exact built_build res _ h _
  · exact built_build _ _ h _

theorem built_updated (rule : Rule) {d : RuleDefinition} (h : d.condition.Written) :
    (updated res rule d).1.Built :=
  ⟨h, toDefinition_buildOwnRoute res rule.name d.action⟩

/-- A rule is taken to send its traffic to a registered cluster if the route that its action defines
does. -/
theorem Built.usesCluster_iff {rule : Rule} (h : rule.Built) {name : String} :
    rule.usesCluster name = true ↔
      ∃ d, ownRoute? rule.action = some d ∧ d.destination = .named name := by
  have hroute := h.route
  unfold usesCluster
  cases hown : ownRoute? rule.action with
  | none =>
    rw [hown] at hroute
    simp [Option.map_eq_none_iff.mp hroute]
  | some d =>
    rw [hown] at hroute
    obtain ⟨route, hroute, hd⟩ := Option.map_eq_some_iff.mp hroute
    simp [hroute, Route.usesCluster_iff, hd]

theorem Built.usesStage_iff {rule : Rule} (h : rule.Built) {name : String} :
    rule.usesStage name = true ↔
      ∃ d, ownRoute? rule.action = some d ∧ .named name ∈ d.ingress := by
  have hroute := h.route
  unfold usesStage
  cases hown : ownRoute? rule.action with
  | none =>
    rw [hown] at hroute
    simp [Option.map_eq_none_iff.mp hroute]
  | some d =>
    rw [hown] at hroute
    obtain ⟨route, hroute, hd⟩ := Option.map_eq_some_iff.mp hroute
    simp [hroute, Route.usesStage_iff, hd]

end Rule

namespace RuleEntry

theorem built_build (res : Resources) {r : RuleReference}
    (h : ∀ d, r = .inline d → d.condition.Written) {rule : Rule}
    (hrule : .inline rule = (build res r).1) : rule.Built := by
  cases r with
  | named name => cases hrule
  | inline d =>
    cases hrule
    exact Rule.built_ofDefinition res (h d rfl)

theorem built_buildAll (res : Resources) {rs : List RuleReference}
    (h : ∀ d, .inline d ∈ rs → d.condition.Written) {rule : Rule}
    (hrule : .inline rule ∈ (buildAll res rs).1) : rule.Built := by
  induction rs generalizing res with
  | nil => cases hrule
  | cons r rest ih =>
    rcases List.mem_cons.mp hrule with hfirst | hrest
    · exact built_build res (fun d hd => h d (hd ▸ List.mem_cons_self)) hfirst
    · exact ih _ (fun d hd => h d (List.mem_cons_of_mem _ hd)) hrest

end RuleEntry

/-! ### The rules of a snapshot -/

namespace Snapshot

/-- All rules: the registered ones, and those of the lists themselves. -/
def allRules (s : Snapshot) : List Rule :=
  Table.values s.rules ++ (Table.values s.ruleLists).flatMap RuleList.ownRules

variable {s : Snapshot}

theorem mem_allRules {rule : Rule} :
    rule ∈ s.allRules ↔ (∃ e ∈ s.rules, e.2 = rule) ∨
      ∃ e ∈ s.ruleLists, .inline rule ∈ e.2.entries := by
  have hown (list : RuleList) : rule ∈ list.ownRules ↔ .inline rule ∈ list.entries := by
    rw [RuleList.ownRules, List.mem_filterMap]
    constructor
    · rintro ⟨entry, hentry, hrule⟩
      cases entry with
      | inline own =>
        cases hrule
        exact hentry
      | named name => cases hrule
    · exact fun h => ⟨_, h, rfl⟩
  rw [allRules, List.mem_append, List.mem_flatMap, Table.exists_mem_values]
  simp only [Table.values, List.mem_map, hown]

theorem inline_mem_allRules {name : String} {list : RuleList} (h : s.ruleList? name = some list)
    {rule : Rule} (hrule : .inline rule ∈ list.entries) : rule ∈ s.allRules :=
  mem_allRules.mpr (.inr ⟨_, Table.mem_of_find? h, hrule⟩)

end Snapshot

end Switchboard

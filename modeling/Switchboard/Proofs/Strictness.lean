/-
What strict checks promise to sessions.

If predicates are checked when they are stored, then a session is never held against a predicate
that cannot be evaluated, as long as the predicate stands in a rule, in a rule of a list or in a
registered route. The filters of routes that are written inside an action are not checked, and only
they may fail.

* `Snapshot.checkedConditions`, `Snapshot.actionConditions`: what sessions may be held against;
* `Admin.Change.validated`: every strict change stores well-formed conditions only;
* `Admin.addRule_unchecked`: an action is stored with whatever filters it has;
* `run_strict`: what strict checks promise, and what they leave open.
-/
import Switchboard.Proofs.Predicate.Validation
import Switchboard.Proofs.Proxy.Registered
import Switchboard.Proofs.Proxy.Sessions

namespace Switchboard

/-! ### Conditions that sessions meet -/

/-- The conditions of the filters among some stages. -/
def StageDefinition.filters (chain : List StageDefinition) : List Match :=
  chain.filterMap fun
    | .filter m => some m
    | _ => none

theorem StageDefinition.mem_filters {chain : List StageDefinition} {m : Match} :
    m ∈ filters chain ↔ .filter m ∈ chain := by
  rw [filters, List.mem_filterMap]
  constructor
  · rintro ⟨d, hd, hm⟩
    cases d with
    | filter condition =>
      cases hm
      exact hd
    | _ => cases hm
  · exact fun h => ⟨_, h, rfl⟩

/-- The stages of the route that is written inside a rule's action: of the one that is built with
the rule or else, whenever the action is taken, from the action as it is understood. -/
def Rule.actionStages (rule : Rule) : List StageDefinition :=
  match Action.parse rule.action with
  | .error _ => []
  | .ok action =>
    match rule.route, action.route with
    | some route, _ => route.ingress
    | none, some (.inline d) => d.ingress
    | none, _ => []

namespace Snapshot

/-- The conditions of all rules and of the filters in registered routes. -/
def checkedConditions (s : Snapshot) : List Match :=
  s.allRules.map Rule.condition ++
    (Table.values s.routes).flatMap fun route => StageDefinition.filters route.ingress

/-- The conditions of the filters in routes that are written inside actions. -/
def actionConditions (s : Snapshot) : List Match :=
  s.allRules.flatMap fun rule => StageDefinition.filters rule.actionStages

/-- All conditions that sessions may be held against. -/
def conditions (s : Snapshot) : List Match := s.checkedConditions ++ s.actionConditions

variable {s : Snapshot}

theorem mem_actionConditions {m : Match} :
    m ∈ s.actionConditions ↔ ∃ rule ∈ s.allRules, .filter m ∈ rule.actionStages := by
  rw [actionConditions, List.mem_flatMap]
  simp only [StageDefinition.mem_filters]

theorem mem_checkedConditions {m : Match} :
    m ∈ s.checkedConditions ↔ (∃ rule ∈ s.allRules, rule.condition = m) ∨
      ∃ e ∈ s.routes, .filter m ∈ e.2.ingress := by
  rw [checkedConditions, List.mem_append, List.mem_map, List.mem_flatMap, Table.exists_mem_values]
  simp only [StageDefinition.mem_filters]

end Snapshot

/-! ### Strict changes -/

namespace Admin

theorem checkMatch_eq_ok {kind : EntityKind} {m : Match} :
    checkMatch true kind m = .ok () ↔ m.validate = .ok () := by
  rw [checkMatch, if_pos rfl]
  cases m.validate with
  | ok _ => exact ⟨fun _ => rfl, fun _ => rfl⟩
  | error f => exact iff_of_false (by rintro ⟨⟩) (by rintro ⟨⟩)

variable {pool : ClusterPool} {s next : Snapshot}

/-- A rule that is there after a strict change was there before or has been checked. -/
theorem Change.rule_checked (h : Change true pool s next) {rule : Rule}
    (there : rule ∈ next.allRules) : rule ∈ s.allRules ∨ rule.condition.validate = .ok () := by
  rcases h.rule_origin there with hold | ⟨-, -, kind, hcheck⟩
  · exact .inl hold
  · exact .inr (checkMatch_eq_ok.mp hcheck)

/-- So is a filter of a registered route. -/
theorem Change.filter_checked (h : Change true pool s next) {e : String × Route} {m : Match}
    (there : e ∈ next.routes) (stage : .filter m ∈ e.2.ingress) :
    e ∈ s.routes ∨ m.validate = .ok () := by
  cases h with
  | route r checked =>
    rcases Table.mem_insert there with rfl | there
    · exact .inr (checkMatch_eq_ok.mp ((checkRoute_eq_ok.mp checked).2 _ stage))
    · exact .inl there
  | routeDropped name => exact .inl (Table.mem_of_mem_erase there)
  | _ => exact .inl there

/-- Every strict change stores well-formed conditions only, outside of actions. -/
theorem Change.validated (h : Change true pool s next)
    (hs : ∀ m ∈ s.checkedConditions, m.validate = .ok ()) :
    ∀ m ∈ next.checkedConditions, m.validate = .ok () := by
  intro m hm
  rcases Snapshot.mem_checkedConditions.mp hm with ⟨rule, there, rfl⟩ | ⟨e, there, stage⟩
  · rcases h.rule_checked there with there | hvalid
    · exact hs _ (Snapshot.mem_checkedConditions.mpr (.inl ⟨rule, there, rfl⟩))
    · exact hvalid
  · rcases h.filter_checked there stage with there | hvalid
    · exact hs _ (Snapshot.mem_checkedConditions.mpr (.inr ⟨e, there, stage⟩))
    · exact hvalid

/-- Strict checks pass over the filters of an action. A rule that is well formed otherwise is added
with whatever filters it has there, and sessions may be held against them. -/
theorem addRule_unchecked {res named : Resources} {v : Json} {d : RuleDefinition} {name : String}
    {action : Action} {route : RouteDefinition} {m : Match}
    (decoded : decodeAs .rule RuleDefinition.decode v = .ok d)
    (valid : d.condition.validate = .ok ())
    (chosen : chooseName .rule .rule s.rules d.name res = (.ok name, named))
    (parsed : Action.parse d.action = .ok action) (own : Rule.ownRoute? d.action = some route)
    (filter : .filter m ∈ route.ingress) :
    ∃ answer later after, addRule true v s res = (.ok (answer, later), after) ∧
      m ∈ later.actionConditions := by
  have hstages : (Rule.build named name d.condition d.action).1.actionStages = route.ingress := by
    rw [Rule.build, Rule.buildOwnRoute, own, Rule.actionStages, parsed]
    rfl
  cases hbuild : Rule.build named name d.condition d.action with
  | mk rule after =>
    rw [hbuild] at hstages
    have hadd : addRule true v s res = (.ok (rule.view after.counters, s.putRule rule), after) := by
      have hcheck : checkMatch true .rule d.condition = .ok () := checkMatch_eq_ok.mpr valid
      rw [addRule, decoded]
      simp only [bind, Except.bind, hcheck, pure, Except.pure, chosen, hbuild]
    have hthere : (rule.name, rule) ∈ (s.putRule rule).rules :=
      Table.mem_of_find? (Table.find?_insert_self s.rules rule.name rule)
    have hrule : rule ∈ (s.putRule rule).allRules :=
      Snapshot.mem_allRules.mpr (.inl ⟨_, hthere, rfl⟩)
    exact ⟨_, _, _, hadd, Snapshot.mem_actionConditions.mpr ⟨rule, hrule, hstages ▸ filter⟩⟩

end Admin

/-! ### Runs -/

namespace Proxy

theorem run_validated {events : List Event} (checked : ∀ e ∈ events, e.isChecked = true) :
    ∀ m ∈ (run events (fresh true)).registry.current.checkedConditions, m.validate = .ok () := by
  refine run_snapshot (fun s _ => ∀ m ∈ s.checkedConditions, m.validate = .ok ())
    (fun _ _ _ _ hs => hs) (fun _ _ _ hchange hs => hchange.validated hs) ?_ checked
  intro m hm
  cases hm

/-- **Strict checks reach every predicate but those inside actions.** After any strict run of
checked events, the conditions of all rules and of the filters in registered routes can be
evaluated on every document, if their patterns do not depend on case. So no condition at all fails
a session exactly if none of those fail that stand in the filters of routes written inside actions.
They do not fail if they are well formed, but nobody checks that. -/
theorem run_strict {events : List Event} (checked : ∀ e ∈ events, e.isChecked = true)
    (blind : ∀ m ∈ (run events (fresh true)).registry.current.conditions, m.CaseBlind) :
    let s := (run events (fresh true)).registry.current
    (∀ m ∈ s.checkedConditions, m.Total) ∧
      ((∀ m ∈ s.conditions, m.Total) ↔ ∀ m ∈ s.actionConditions, m.Total) ∧
      ((∀ m ∈ s.actionConditions, m.validate = .ok ()) → ∀ m ∈ s.conditions, m.Total) := by
  intro s
  have htotal : ∀ m ∈ s.checkedConditions, m.Total := fun m hm =>
    Match.total_of_validate (run_validated checked m hm) (blind m (List.mem_append_left _ hm))
  have hall : (∀ m ∈ s.conditions, m.Total) ↔ ∀ m ∈ s.actionConditions, m.Total := by
    rw [Snapshot.conditions, List.forall_mem_append]
    exact and_iff_right htotal
  refine ⟨htotal, hall, fun hvalid => hall.mpr fun m hm => ?_⟩
  exact Match.total_of_validate (hvalid m hm) (blind m (List.mem_append_right _ hm))

/-- A rule that asks for a pattern without regard to case, and filters sessions in its action. -/
def vetted : List Event :=
  [.operation (.addRule (.ofFields
    [("name", .string "known"),
      ("match", .ofFields
        [("op", .string "matches"), ("path", .string "/user"), ("value", .string "(?-i)^bob"),
          ("ignore_case", .bool true)]),
      ("action", .ofFields [("route", .ofFields
        [("destination", .ofFields
            [("name", .string "echo"), ("spec", .ofFields [("protocol", .string "echo")])]),
          ("ingress", .array [.ofFields
            [("filter", .ofFields [("op", .string "defined"), ("path", .string "/key")])]])])])]))]

theorem run_strict_vetted :
    (∀ e ∈ vetted, e.isChecked = true) ∧
      (run vetted (fresh true)).registry.current.conditions.length = 2 ∧
      ∀ m ∈ (run vetted (fresh true)).registry.current.conditions, m.Total := by
  have hchecked : ∀ e ∈ vetted, e.isChecked = true := by
    simp [vetted, Event.isChecked]
  have hblind : ∀ m ∈ (run vetted (fresh true)).registry.current.conditions, m.CaseBlind := by
    decide +kernel
  have hvalid : ∀ m ∈ (run vetted (fresh true)).registry.current.actionConditions,
      m.validate.isOk = true := by
    decide +kernel
  refine ⟨hchecked, by decide +kernel, (run_strict hchecked hblind).2.2 fun m hm => ?_⟩
  have hok := hvalid m hm
  cases hresult : m.validate with
  | ok _ => rfl
  | error f =>
    rw [hresult] at hok
    cases hok

/-- A rule whose action has a filter that means nothing is added and put into a list, and a session
comes. -/
def smuggled : List Event :=
  [.operation (.addRule (.ofFields
      [("name", .string "every"), ("match", .string "*"),
        ("action", .ofFields [("route", .ofFields
          [("destination", .ofFields
              [("name", .string "echo"), ("spec", .ofFields [("protocol", .string "echo")])]),
            ("ingress", .array
              [.ofFields [("filter", .ofFields [("op", .string "bogus")])]])])])])),
    .operation (.addRuleList
      (.ofFields [("name", .string "main"), ("rules", .array [.string "every"])])),
    .dispatch (.ofFields []) "main" none, .step 0, .step 0]

/-- Strict checks do not keep all faulty predicates from sessions. The filter of the action rejects
the session because it cannot be evaluated. -/
theorem not_conditions_total :
    (¬ ∀ events : List Event, (∀ e ∈ events, e.isChecked = true) →
      (∀ m ∈ (run events (fresh true)).registry.current.conditions, m.CaseBlind) →
      ∀ m ∈ (run events (fresh true)).registry.current.conditions, m.Total) ∧
    ((run smuggled (fresh true)).running? 0).map (·.session.outcome) =
      some (some (.routeAborted "stage \"filter\" failed: metadata rejected by filter")) := by
  refine ⟨fun h => ?_, by decide +kernel⟩
  have htotal := h smuggled (by simp [smuggled, Event.isChecked]) (by decide +kernel)
  have hfaulty : ∃ m ∈ (run smuggled (fresh true)).registry.current.conditions,
      m.evaluates .null = false := by
    decide +kernel
  obtain ⟨m, hm, hnot⟩ := hfaulty
  rw [(htotal m hm).evaluates] at hnot
  cases hnot

end Proxy

end Switchboard

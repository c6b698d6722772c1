/-
Routes inside actions, and what they need.

No cluster and no stage is deleted that a route needs. A rule tells what the route in its action
needs from the route that was built with it, and one is built only if the action and the route in it
are both written as objects. Sessions read the array form of both as well, so that what they are
sent to is then deleted under them.

* `Rule.routeIsObject`: whether a route is built with the rule;
* `Rule.ownRoute?_of_parse`: which of the routes that sessions read are built;
* `deleteCluster_inUse_iff`, `deleteStage_inUse_iff`: when deletions are refused;
* `run_inlineRoutes`: what they keep, after every run;
* `not_deleteCluster_refused`: they do not keep all that sessions need.
-/
import Switchboard.Proofs.Proxy.Registered

namespace Switchboard

/-! ### The two readings of an action -/

/-- The route of an action that sessions read, where it is written as an object. -/
theorem Action.decode_route_of_parse {v : Json} {action : Action} {d : RouteDefinition}
    (parsed : Action.parse v = .ok action) (inline : action.route = some (.inline d))
    {fields : List (String × Json)} (object : v.field? "route" = some (.object fields)) :
    RouteDefinition.decode (.object fields) = .ok d := by
  have hdecode : decode v = .ok action := by
    unfold parse at parsed
    split at parsed
    · cases parsed
    · next read hread =>
      split at parsed
      · cases parsed
      · exact Except.ok.inj parsed ▸ hread
  cases v with
  | object top =>
    obtain ⟨r, hr, h⟩ := Except.bind_eq_ok.mp hdecode
    cases hr
    obtain ⟨-, -, h⟩ := Except.bind_eq_ok.mp h
    obtain ⟨route, hroute, h⟩ := Except.bind_eq_ok.mp h
    obtain ⟨apply, -, h⟩ := Except.bind_eq_ok.mp h
    obtain ⟨set, -, h⟩ := Except.bind_eq_ok.mp h
    obtain ⟨writes, -, h⟩ := Except.bind_eq_ok.mp h
    cases h
    rw [Decode.Record.field_of_find? object, show route = some (.inline d) from inline] at hroute
    unfold Decode.optional RouteReference.decode Reference.decode at hroute
    cases hread : RouteDefinition.decode (.object fields) with
    | ok read =>
      simp only [hread, Except.map] at hroute
      cases hroute
      rfl
    | error f => simp [hread, Except.map] at hroute
  | _ => cases object

namespace Rule

/-- Whether the action and the route in it are both written as objects. -/
def routeIsObject (rule : Rule) : Bool := (rule.action.field? "route").any Json.isObject

/-- Whether sessions read a route to the registered cluster `name` in the action. -/
def sendsTo (rule : Rule) (name : String) : Bool :=
  match Action.parse rule.action with
  | .error _ => false
  | .ok action =>
    match action.route with
    | some (.inline d) => d.destination.isNamed name
    | _ => false

theorem exists_of_sendsTo {rule : Rule} {name : String} (h : rule.sendsTo name = true) :
    ∃ action d, Action.parse rule.action = .ok action ∧ action.route = some (.inline d) ∧
      d.destination = .named name := by
  unfold sendsTo at h
  split at h
  · cases h
  · next action parsed =>
    split at h
    · next d inline =>
      refine ⟨action, d, parsed, inline, ?_⟩
      cases hdestination : d.destination with
      | named other =>
        rw [hdestination, Reference.isNamed, beq_iff_eq] at h
        rw [h]
      | inline own =>
        rw [hdestination] at h
        cases h
    · cases h

/-- Of the routes that sessions read in actions, the ones that are written as objects are built with
the rule. -/
theorem ownRoute?_of_parse {rule : Rule} {action : Action} {d : RouteDefinition}
    (parsed : Action.parse rule.action = .ok action) (inline : action.route = some (.inline d)) :
    ownRoute? rule.action = if rule.routeIsObject then some d else none := by
  unfold ownRoute? routeIsObject
  cases hroute : rule.action.field? "route" with
  | none => rfl
  | some v =>
    cases v with
    | object fields => simp [Action.decode_route_of_parse parsed inline hroute, Except.toOption,
        Json.isObject]
    | _ => rfl

variable {rule : Rule} {action : Action} {d : RouteDefinition}

theorem usesCluster_of_parse (built : rule.Built) (parsed : Action.parse rule.action = .ok action)
    (inline : action.route = some (.inline d)) (name : String) :
    rule.usesCluster name = true ↔ rule.routeIsObject = true ∧ d.destination = .named name := by
  rw [built.usesCluster_iff, ownRoute?_of_parse parsed inline]
  cases rule.routeIsObject with
  | true => simp
  | false => simp

theorem usesStage_of_parse (built : rule.Built) (parsed : Action.parse rule.action = .ok action)
    (inline : action.route = some (.inline d)) (name : String) :
    rule.usesStage name = true ↔ rule.routeIsObject = true ∧ .named name ∈ d.ingress := by
  rw [built.usesStage_iff, ownRoute?_of_parse parsed inline]
  cases rule.routeIsObject with
  | true => simp
  | false => simp

end Rule

/-! ### Refusals -/

/-- An edit that is refused before it uses anything up leaves everything as it was. -/
theorem Proxy.update_of_refused {α : Type} {p : Proxy} {edit : Admin.Edit α} {f : Admin.Fault}
    (h : edit p.registry.current p.registry.resources = (.error f, p.registry.resources)) :
    p.update edit = (.error f, p) := by
  rw [Proxy.update, Registry.update, h]

namespace Admin

/-- A user is found if there is one among the registered routes and all rules. -/
theorem isSome_user?_iff {s : Snapshot} {usesRoute : Route → Bool} {usesRule : Rule → Bool} :
    (user? s usesRoute usesRule).isSome = true ↔
      (∃ route ∈ Table.values s.routes, usesRoute route = true) ∨
        ∃ rule ∈ s.allRules, usesRule rule = true := by
  have hown : (ownUser? usesRule (Table.values s.ruleLists)).isSome = true ↔
      ∃ rule ∈ (Table.values s.ruleLists).flatMap RuleList.ownRules, usesRule rule = true := by
    rw [ownUser?, List.findSome?_isSome_iff]
    simp only [Option.isSome_map, List.find?_isSome, List.mem_flatMap]
    constructor
    · rintro ⟨list, hlist, rule, hrule, huses⟩
      exact ⟨rule, ⟨list, hlist, hrule⟩, huses⟩
    · rintro ⟨rule, ⟨list, hlist, hrule⟩, huses⟩
      exact ⟨list, hlist, rule, hrule, huses⟩
  rw [user?, Snapshot.allRules]
  simp [hown, or_and_right, exists_or]

variable {p : Proxy} {name : String}

/-- A cluster is kept if something needs it, and then nothing changes. -/
theorem deleteCluster_inUse_iff :
    (∃ user, (Operation.deleteCluster name).carryOut p =
        (.error (.inUse .cluster name user), p)) ↔
      (user? p.registry.current (·.usesCluster name) (·.usesCluster name)).isSome = true := by
  rw [Operation.carryOut]
  cases huser : user? p.registry.current (·.usesCluster name) (·.usesCluster name) with
  | some user =>
    refine iff_of_true ⟨user, Proxy.update_of_refused ?_⟩ rfl
    rw [deleteCluster, huser]
  | none =>
    refine iff_of_false ?_ (by simp)
    rintro ⟨user, hrefused⟩
    simp only [Proxy.update, Registry.update, deleteCluster, huser] at hrefused
    cases hcluster : p.registry.current.cluster? name with
    | none => simp [hcluster] at hrefused
    | some id => simp [hcluster] at hrefused

theorem deleteStage_inUse_iff :
    (∃ user, (Operation.deleteStage name).carryOut p =
        (.error (.inUse .stage name user), p)) ↔
      (user? p.registry.current (·.usesStage name) (·.usesStage name)).isSome = true := by
  rw [Operation.carryOut]
  cases huser : user? p.registry.current (·.usesStage name) (·.usesStage name) with
  | some user =>
    have hrefused : p.update (deleteStage name) = (.error (.inUse .stage name user), p) := by
      refine Proxy.update_of_refused ?_
      rw [deleteStage, huser]
    rw [hrefused]
    exact iff_of_true ⟨user, rfl⟩ rfl
  | none =>
    refine iff_of_false ?_ (by simp)
    rintro ⟨user, hrefused⟩
    simp only [Proxy.update, Registry.update, deleteStage, huser] at hrefused
    cases hstage : p.registry.current.stage? name with
    | none => simp [hstage, Except.map] at hrefused
    | some stage => simp [hstage, Except.map] at hrefused

end Admin

/-! ### Runs -/

namespace Proxy

open Admin

/-- **What a route inside an action needs is kept if it is written as an object.** After any run of
checked events, a deletion is refused as long as a registered route or a rule is taken to need the
cluster or the stage, and it is refused for no other use. A refused deletion changes nothing. A
rule, registered or a list's own, is taken to need what the route in its action needs exactly if
both the action and the route are written as objects, though sessions read the route in other forms
as well. -/
theorem run_inlineRoutes {strict : Bool} {events : List Event}
    (checked : ∀ e ∈ events, e.isChecked = true) :
    let p := run events (fresh strict)
    let s := p.registry.current
    (∀ rule ∈ s.allRules, ∀ action d, Action.parse rule.action = .ok action →
      action.route = some (.inline d) → ∀ name,
        (rule.usesCluster name = true ↔
          rule.routeIsObject = true ∧ d.destination = .named name) ∧
        (rule.usesStage name = true ↔ rule.routeIsObject = true ∧ .named name ∈ d.ingress)) ∧
    ∀ name,
      ((∃ user, (Operation.deleteCluster name).carryOut p =
          (.error (.inUse .cluster name user), p)) ↔
        (∃ route ∈ Table.values s.routes, route.usesCluster name = true) ∨
          ∃ rule ∈ s.allRules, rule.usesCluster name = true) ∧
      ((∃ user, (Operation.deleteStage name).carryOut p =
          (.error (.inUse .stage name user), p)) ↔
        (∃ route ∈ Table.values s.routes, route.usesStage name = true) ∨
          ∃ rule ∈ s.allRules, rule.usesStage name = true) := by
  intro p s
  refine ⟨fun rule there action d parsed inline name => ?_, fun name => ?_⟩
  · have hbuilt : rule.Built := run_built checked there
    exact ⟨Rule.usesCluster_of_parse hbuilt parsed inline name,
      Rule.usesStage_of_parse hbuilt parsed inline name⟩
  · exact ⟨deleteCluster_inUse_iff.trans isSome_user?_iff,
      deleteStage_inUse_iff.trans isSome_user?_iff⟩

/-- A cluster, and a rule whose action sends sessions there. -/
def sent (action : Json) : List Event :=
  [.operation (.addCluster (.ofFields
      [("name", .string "echo"), ("spec", .ofFields [("protocol", .string "echo")])])),
    .operation (.addRule (.ofFields
      [("name", .string "every"), ("match", .string "*"), ("action", action)]))]

/-- The route in the action is an object. -/
def sentByObject : List Event :=
  sent (.ofFields [("route", .ofFields [("destination", .string "echo")])])

theorem run_inlineRoutes_object :
    ∃ rule ∈ (run sentByObject (fresh false)).registry.current.allRules,
      rule.sendsTo "echo" = true ∧ rule.routeIsObject = true ∧
      ∃ user, (Operation.deleteCluster "echo").carryOut (run sentByObject (fresh false)) =
        (.error (.inUse .cluster "echo" user), run sentByObject (fresh false)) := by
  have hchecked : ∀ e ∈ sentByObject, e.isChecked = true := by
    simp [sentByObject, sent, Event.isChecked]
  have hrule : ∃ rule ∈ (run sentByObject (fresh false)).registry.current.allRules,
      rule.sendsTo "echo" = true ∧ rule.routeIsObject = true := by
    decide +kernel
  obtain ⟨rule, there, hsends, hobject⟩ := hrule
  obtain ⟨action, d, parsed, inline, hdestination⟩ := Rule.exists_of_sendsTo hsends
  obtain ⟨huses, hrefused⟩ := run_inlineRoutes hchecked
  refine ⟨rule, there, hsends, hobject, (hrefused "echo").1.mpr (.inr ⟨rule, there, ?_⟩)⟩
  exact (huses rule there action d parsed inline "echo").1.mpr ⟨hobject, hdestination⟩

/-- The route in the action is the array of its fields. -/
def sentByArray : List Event :=
  sent (.ofFields [("route", .array [.null, .string "echo"])])

/-- Not every cluster is kept that sessions need. It is deleted if the route to it is written as an
array. -/
theorem not_deleteCluster_refused :
    ¬ ∀ (strict : Bool) (events : List Event), (∀ e ∈ events, e.isChecked = true) →
      ∀ rule ∈ (run events (fresh strict)).registry.current.allRules,
      ∀ (action : Action) (d : RouteDefinition) (name : String),
        Action.parse rule.action = .ok action → action.route = some (.inline d) →
        d.destination = .named name →
        ∃ user, (Operation.deleteCluster name).carryOut (run events (fresh strict)) =
          (.error (.inUse .cluster name user), run events (fresh strict)) := by
  intro h
  have hchecked : ∀ e ∈ sentByArray, e.isChecked = true := by
    simp [sentByArray, sent, Event.isChecked]
  have hrule : ∃ rule ∈ (run sentByArray (fresh false)).registry.current.allRules,
      rule.sendsTo "echo" = true := by
    decide +kernel
  have hdeleted : ((Operation.deleteCluster "echo").carryOut
      (run sentByArray (fresh false))).1.isOk = true := by
    decide +kernel
  obtain ⟨rule, there, hsends⟩ := hrule
  obtain ⟨action, d, parsed, inline, hdestination⟩ := Rule.exists_of_sendsTo hsends
  obtain ⟨user, hrefused⟩ :=
    h false sentByArray hchecked rule there action d "echo" parsed inline hdestination
  rw [hrefused] at hdeleted
  cases hdeleted

end Proxy

end Switchboard

/-
Delegation among lists of rules.

A list decides on a document itself, or it takes an action that hands the document on to another
list. Each list sees the document with the writes of all actions before it, so a list may be visited
twice and decide the second time.

* `Snapshot.Decides`, `Snapshot.Delegates`: what one list does;
* `Snapshot.Walk`: lists that hand a document on to one another;
* `follow_of_walk`: following lists is walking, as far as lists may be followed;
* `walk_ends_or_goes_on`: a walk ends, or it can be made as long as one likes.
-/
import Switchboard.Routing.Snapshot

namespace Switchboard

/-- The document after all writes of some actions, in order. -/
def Action.annotateAll (actions : List Action) (metadata : Json) : Json :=
  actions.foldl (fun metadata action => action.annotate metadata) metadata

theorem Action.annotateAll_append (first second : List Action) (metadata : Json) :
    annotateAll (first ++ second) metadata = annotateAll second (annotateAll first metadata) :=
  List.foldl_append

namespace Snapshot

/-- `s.Takes name metadata rule`: the registered list `name` takes `rule` for a document. -/
def Takes (s : Snapshot) (name : String) (metadata : Json) (rule : Rule) : Prop :=
  ∃ list, s.ruleList? name = some list ∧
    RuleList.firstMatch s.rule? metadata list.entries = .ok (some rule)

/-- `s.Decides name metadata result taken`: the list `name` decides on a document itself, with that
result. `taken` is the action that it takes, if it takes one. -/
inductive Decides (s : Snapshot) (name : String) (metadata : Json) :
    Except RoutingFault (Option Decision) → List Action → Prop
  | unknown (absent : s.ruleList? name = none) :
      Decides s name metadata (.error (.ruleListNotFound name)) []
  | dangling {list : RuleList} {rule : String} (there : s.ruleList? name = some list)
      (found : RuleList.firstMatch s.rule? metadata list.entries = .error rule) :
      Decides s name metadata (.error (.ruleNotFound list.name rule)) []
  | unmatched {list : RuleList} (there : s.ruleList? name = some list)
      (found : RuleList.firstMatch s.rule? metadata list.entries = .ok none) :
      Decides s name metadata (.ok none) []
  | malformed {rule : Rule} {f : ActionFault} (takes : s.Takes name metadata rule)
      (read : Action.parse rule.action = .error f) :
      Decides s name metadata (.error (.invalidAction f)) []
  | routed {rule : Rule} {action : Action} (takes : s.Takes name metadata rule)
      (read : Action.parse rule.action = .ok action) (routed : action.route.isSome) :
      Decides s name metadata (.ok (some ⟨action, rule.route⟩)) [action]

/-- `s.Delegates name metadata action next`: the list `name` takes an action without a route that
hands the document on to the list `next`. -/
def Delegates (s : Snapshot) (name : String) (metadata : Json) (action : Action) (next : String) :
    Prop :=
  ∃ rule, s.Takes name metadata rule ∧ Action.parse rule.action = .ok action ∧
    action.route = none ∧ action.apply = some next

/-- `s.Walk name metadata actions last`: from the list `name` on, lists hand the document on to one
another by `actions`, and the last list that gets it is `last`. Each list sees the document with the
writes of the actions before. -/
inductive Walk (s : Snapshot) : String → Json → List Action → String → Prop
  | here (name : String) (metadata : Json) : Walk s name metadata [] name
  | onward {name next last : String} {metadata : Json} {action : Action} {actions : List Action}
      (first : s.Delegates name metadata action next)
      (rest : Walk s next (action.annotate metadata) actions last) :
      Walk s name metadata (action :: actions) last

variable {s : Snapshot} {name next last : String} {metadata : Json} {action : Action}
  {actions taken : List Action} {result : Except RoutingFault (Option Decision)}

theorem evaluate_of_firstMatch {list : RuleList} {rule : Rule}
    (h : RuleList.firstMatch s.rule? metadata list.entries = .ok (some rule))
    (counters : Counters) : list.evaluate s.rule? metadata counters =
      (.ok (some rule), counters.increment rule.counter) := by
  simp [RuleList.evaluate, h]

/-- An action that can be read has a route or hands on. -/
theorem route_or_apply_of_parse {v : Json} (h : Action.parse v = .ok action) :
    action.route.isSome ∨ ∃ next, action.route = none ∧ action.apply = some next := by
  unfold Action.parse at h
  split at h
  · cases h
  · next action _ =>
    split at h
    · cases h
    · next htarget =>
      cases h
      cases hroute : action.route with
      | some r => exact .inl rfl
      | none =>
        cases happly : action.apply with
        | some next => exact .inr ⟨next, rfl, rfl⟩
        | none => simp [hroute, happly] at htarget

/-- A list decides or hands on. -/
theorem decides_or_delegates (s : Snapshot) (name : String) (metadata : Json) :
    (∃ result taken, s.Decides name metadata result taken) ∨
      ∃ action next, s.Delegates name metadata action next := by
  cases hlist : s.ruleList? name with
  | none => exact .inl ⟨_, _, .unknown hlist⟩
  | some list =>
    cases hfound : RuleList.firstMatch s.rule? metadata list.entries with
    | error rule => exact .inl ⟨_, _, .dangling hlist hfound⟩
    | ok found =>
      cases found with
      | none => exact .inl ⟨_, _, .unmatched hlist hfound⟩
      | some rule =>
        have htakes : s.Takes name metadata rule := ⟨list, hlist, hfound⟩
        cases hread : Action.parse rule.action with
        | error f => exact .inl ⟨_, _, .malformed htakes hread⟩
        | ok action =>
          rcases route_or_apply_of_parse hread with hrouted | ⟨next, hroute, happly⟩
          · exact .inl ⟨_, _, .routed htakes hread hrouted⟩
          · exact .inr ⟨action, next, rule, htakes, hread, hroute, happly⟩

/-! ### Following -/

/-- A list that decides is the last one that is followed. -/
theorem follow_of_decides (h : s.Decides name metadata result taken) (start : String)
    (lists : Nat) (counters : Counters) :
    (s.follow start (lists + 1) name metadata counters).result = result ∧
      (s.follow start (lists + 1) name metadata counters).metadata =
        Action.annotateAll taken metadata := by
  rw [follow]
  cases h with
  | unknown absent => rw [absent]; exact ⟨rfl, rfl⟩
  | dangling there found => simp [there, RuleList.evaluate, found, Action.annotateAll]
  | unmatched there found => simp [there, RuleList.evaluate, found, Action.annotateAll]
  | malformed takes read =>
    obtain ⟨list, there, found⟩ := takes
    simp [there, evaluate_of_firstMatch found, read, Action.annotateAll]
  | routed takes read routed =>
    obtain ⟨list, there, found⟩ := takes
    obtain ⟨route, hroute⟩ := Option.isSome_iff_exists.mp routed
    simp [there, evaluate_of_firstMatch found, read, hroute, Action.annotateAll]

/-- A list that hands the document on uses up one of the lists that may be followed. -/
theorem follow_of_delegates (h : s.Delegates name metadata action next) (start : String)
    (lists : Nat) (counters : Counters) :
    ∃ counted, s.follow start (lists + 1) name metadata counters =
      s.follow start lists next (action.annotate metadata) counted := by
  obtain ⟨rule, ⟨list, there, found⟩, read, unrouted, apply⟩ := h
  refine ⟨counters.increment rule.counter, ?_⟩
  rw [follow]
  simp [there, evaluate_of_firstMatch found, read, unrouted, apply]

/-- After a walk the lists that may still be followed are those that it has not used up. -/
theorem follow_of_walk (h : s.Walk name metadata actions last) (start : String) (lists : Nat)
    (counters : Counters) :
    ∃ counted, s.follow start (lists + actions.length) name metadata counters =
      s.follow start lists last (Action.annotateAll actions metadata) counted := by
  induction h generalizing counters with
  | here name metadata => exact ⟨counters, rfl⟩
  | onward first _ ih =>
    obtain ⟨counted, hfirst⟩ := follow_of_delegates first start (lists + _) counters
    obtain ⟨final, hrest⟩ := ih counted
    exact ⟨final, hfirst.trans hrest⟩

/-- A walk ends with fewer than `n` delegations, or it has `n` of them. -/
theorem walk_ends_or_goes_on (s : Snapshot) (n : Nat) (name : String) (metadata : Json) :
    (∃ actions last result taken, s.Walk name metadata actions last ∧ actions.length < n ∧
      s.Decides last (Action.annotateAll actions metadata) result taken) ∨
    ∃ actions last, s.Walk name metadata actions last ∧ actions.length = n := by
  induction n generalizing name metadata with
  | zero => exact .inr ⟨[], name, .here name metadata, rfl⟩
  | succ n ih =>
    rcases s.decides_or_delegates name metadata with ⟨result, taken, hdecides⟩ |
      ⟨action, next, hdelegates⟩
    · exact .inl ⟨[], name, result, taken, .here name metadata, Nat.succ_pos n, hdecides⟩
    · rcases ih next (action.annotate metadata) with
        ⟨actions, last, result, taken, hwalk, hlength, hdecides⟩ | ⟨actions, last, hwalk, hlength⟩
      · exact .inl ⟨action :: actions, last, result, taken, .onward hdelegates hwalk,
          Nat.succ_lt_succ hlength, hdecides⟩
      · exact .inr ⟨action :: actions, last, .onward hdelegates hwalk, congrArg Nat.succ hlength⟩

end Snapshot

end Switchboard

/-
What is shown of a thing, put back in its place.

A rule, a list of rules or a route is shown by its definition. To replace it by what is shown always
succeeds, and nothing that can be shown is changed by it, except that the rules of a list's own are
counted from zero again. This needs every definition that was accepted to be read back, and every
check to be passed a second time, though much else may have happened in between.

* `Operation.Replaces`: the operations that replace a thing;
* `Registry.Alike`: registries that show the same;
* `Proxy.InOrder`: what was checked when it was stored still holds;
* `run_putBack`: what is shown can be put back, after every run.
-/
import Switchboard.Proofs.EntryEdits
import Switchboard.Proofs.Locality
import Switchboard.Proofs.Strictness

namespace Switchboard

/-- The operations that replace the thing `name` of a kind by what `v` defines. -/
inductive Admin.Operation.Replaces (name : String) (v : Json) : Operation → EntityKind → Prop
  | rule : Replaces name v (.updateRule name v) .rule
  | ruleList : Replaces name v (.updateRuleList name v) .ruleList
  | route : Replaces name v (.updateRoute name v) .route

/-! ### What is shown -/

theorem Rule.view_congr {cs later : Counters} (count : ∀ id, later.get id = cs.get id) :
    Rule.view later = Rule.view cs := by
  funext rule
  simp only [view, count]

theorem RuleEntry.view_congr {rules rules' : String → Option Rule} {cs later : Counters}
    (count : ∀ id, later.get id = cs.get id)
    (same : ∀ n, (rules' n).map (Rule.view cs) = (rules n).map (Rule.view cs)) (recursive : Bool) :
    RuleEntry.view rules' later recursive = RuleEntry.view rules cs recursive := by
  funext entry
  cases entry with
  | inline rule => rw [view, view, Rule.view_congr count]
  | named name =>
    have hname := same name
    cases recursive with
    | false => rfl
    | true =>
      rw [view, view, Rule.view_congr count, if_pos rfl, if_pos rfl]
      cases hrule : rules name with
      | none =>
        rw [hrule] at hname
        rw [Option.map_eq_none_iff.mp hname]
      | some rule =>
        rw [hrule] at hname
        obtain ⟨rule', hrule', hview⟩ := Option.map_eq_some_iff.mp hname
        rw [hrule']
        exact hview

namespace RuleEntry

variable {cs later : Counters}

/-- What is shown of an entry once rules of the list's own are counted from zero again. -/
def restarted (entry : RuleEntry) (view : Json) : Json :=
  match entry with
  | .named _ => view
  | .inline _ => Path.set view "/stats/total_applied" (.nat 0)

/-- An entry that was built anew from the content of another one. -/
theorem view_rebuilt {rules : String → Option Rule} {old entry : RuleEntry}
    (content : entry.content = old.content) (count : ∀ id, later.get id = cs.get id)
    (zero : ∀ rule, entry = .inline rule → later.get rule.counter = 0) (recursive : Bool) :
    entry.view rules later recursive = old.restarted (old.view rules cs recursive) := by
  -- built from the same content, an entry is the same name or a rule with the same definition
  cases old with
  | named name =>
    cases entry with
    | named other =>
      obtain rfl : other = name := Reference.named.inj content
      rw [view_congr count fun _ => rfl, restarted]
    | inline rule => cases content
  | inline old =>
    cases entry with
    | named other => cases content
    | inline rule =>
      have hsame : rule.toDefinition = old.toDefinition := Reference.inline.inj content
      obtain ⟨hname, hcondition, haction⟩ := RuleDefinition.mk.inj hsame
      show rule.view later = Path.set (old.view cs) "/stats/total_applied" (.nat 0)
      rw [Rule.set_view, Rule.view, zero rule rfl, Option.some.inj hname, hcondition, haction]

theorem map_view_rebuilt (rules : String → Option Rule) {olds entries : List RuleEntry}
    (contents : entries.map content = olds.map content) (count : ∀ id, later.get id = cs.get id)
    (zero : ∀ rule, .inline rule ∈ entries → later.get rule.counter = 0) (recursive : Bool) :
    entries.map (view rules later recursive) =
      olds.map fun old => old.restarted (old.view rules cs recursive) := by
  induction olds generalizing entries with
  | nil =>
    rw [List.map_eq_nil_iff.mp contents]
    rfl
  | cons old rest ih =>
    obtain ⟨entry, others, rfl, hentry, hothers⟩ := List.map_eq_cons_iff.mp contents
    rw [List.map_cons, List.map_cons, view_rebuilt hentry count
        (fun rule hrule => zero rule (hrule ▸ List.mem_cons_self)),
      ih hothers fun rule hrule => zero rule (List.mem_cons_of_mem _ hrule)]

end RuleEntry

/-- What is shown of a list once the rules of its own are counted from zero again. -/
def RuleList.restarted (rules : String → Option Rule) (counters : Counters) (recursive : Bool)
    (list : RuleList) : Json := .ofFields
  [("name", list.name), ("rules", .array (list.entries.map fun entry =>
    entry.restarted (entry.view rules counters recursive)))]

namespace RuleList

/-- The definition of a list: its name and the contents of its entries. -/
def toDefinition (list : RuleList) : RuleListDefinition :=
  ⟨some list.name, list.entries.map RuleEntry.content⟩

variable (list : RuleList) (res : Resources)

theorem map_content_build :
    (build res list.name list.toDefinition).1.entries.map RuleEntry.content =
      list.entries.map RuleEntry.content := by
  refine RuleEntry.map_content_buildAll res fun r hr => ?_
  obtain ⟨entry, -, rfl⟩ := List.mem_map.mp hr
  exact entry.hasName_content

/-- A list that is built anew from its definition shows the same, but its own rules have not been
applied yet. -/
theorem view_build (rules : String → Option Rule) (recursive : Bool) :
    (build res list.name list.toDefinition).1.view rules
        (build res list.name list.toDefinition).2.counters recursive =
      list.restarted rules res.counters recursive := by
  have hcount (id : CounterId) :
      (build res list.name list.toDefinition).2.counters.get id = res.counters.get id :=
    RuleEntry.get_buildAll res list.toDefinition.rules id
  have hentries := RuleEntry.map_view_rebuilt rules (list.map_content_build res) hcount
    (fun rule hrule => (hcount _).trans (RuleEntry.get_counter_buildAll res hrule)) recursive
  rw [view, hentries, restarted]
  rfl

end RuleList

/-! ### Registries that show the same -/

/-- Two registries that show the same, apart from the list of rules `but`. -/
structure Registry.Alike (r later : Registry) (but : Option String) : Prop where
  extended : r.resources.Extends later.resources
  rules : ∀ n, (later.current.rule? n).map (Rule.view r.counters) =
    (r.current.rule? n).map (Rule.view r.counters)
  ruleLists : ∀ n, some n ≠ but → later.current.ruleList? n = r.current.ruleList? n
  routes : ∀ n, (later.current.route? n).map Route.toDefinition =
    (r.current.route? n).map Route.toDefinition
  clusters : later.current.clusters = r.current.clusters
  stages : later.current.stages = r.current.stages

namespace Admin

variable {s next : Snapshot} {res later : Resources}

/-- What is shown of a route is its definition, and the cluster that this names. -/
theorem viewRoute_congr {route old : Route} {pool pool' : ClusterPool}
    (definition : route.toDefinition = old.toDefinition) (clusters : next.clusters = s.clusters)
    (shown : ∀ name id, s.cluster? name = some id → ∀ time, pool'.view time id = pool.view time id)
    (time : Nat) (recursive : Bool) :
    viewRoute next pool' time recursive route = viewRoute s pool time recursive old := by
  have hview : route.view = old.view := by rw [Route.view, definition, Route.view]
  have hdestination : route.destination.toReference = old.destination.toReference :=
    congrArg RouteDefinition.destination definition
  have hcluster (name : String) : next.cluster? name = s.cluster? name := by
    rw [Snapshot.cluster?, clusters, Snapshot.cluster?]
  cases recursive with
  | false => exact hview
  | true =>
    unfold viewRoute
    rw [if_pos rfl, if_pos rfl, hview]
    cases hold : old.destination with
    | registered name =>
      cases hnew : route.destination with
      | registered other =>
        rw [hold, hnew] at hdestination
        obtain rfl : other = name := Reference.named.inj hdestination
        dsimp only
        rw [hcluster]
        cases hid : s.cluster? other with
        | none => rfl
        | some id =>
          dsimp only
          rw [shown other id hid]
      | own d id =>
        rw [hold, hnew] at hdestination
        cases hdestination
    | own d id =>
      cases hnew : route.destination with
      | registered other =>
        rw [hold, hnew] at hdestination
        cases hdestination
      | own d' id' => rfl

end Admin

namespace Registry

variable {r later : Registry} {but : Option String}

theorem Alike.view_pool (alike : r.Alike later but)
    (pooled : ∀ name id, r.current.cluster? name = some id → (r.clusters.get? id).isSome)
    {name : String} {id : ClusterId} (h : r.current.cluster? name = some id) (time : Nat) :
    later.clusters.view time id = r.clusters.view time id := by
  obtain ⟨c, hc⟩ := Option.isSome_iff_exists.mp (pooled name id h)
  have hlater : later.clusters.get? id = some c := alike.extended.cluster id c hc
  rw [ClusterPool.view, hlater, ClusterPool.view, hc]

theorem Alike.viewRuleList (alike : r.Alike later but) (recursive : Bool) (list : RuleList) :
    Admin.viewRuleList later.current later.counters recursive list =
      Admin.viewRuleList r.current r.counters recursive list := by
  have hentries : RuleEntry.view later.current.rule? later.counters recursive =
      RuleEntry.view r.current.rule? r.counters recursive :=
    RuleEntry.view_congr alike.extended.count alike.rules recursive
  rw [Admin.viewRuleList, RuleList.view, hentries, Admin.viewRuleList, RuleList.view]

end Registry

/-- What is got of everything else is the same. -/
theorem Proxy.get_of_alike {p : Proxy} {later : Registry} {but : Option String}
    (alike : p.registry.Alike later but)
    (pooled : ∀ name id, p.registry.current.cluster? name = some id →
      (p.registry.clusters.get? id).isSome)
    {kind : EntityKind} {name : String} (other : kind = .ruleList → some name ≠ but)
    (recursive : Bool) :
    Admin.get { p with registry := later } kind name recursive =
      Admin.get p kind name recursive := by
  have hpool {name : String} {id : ClusterId} (h : p.registry.current.cluster? name = some id) :=
    alike.view_pool pooled h
  cases kind with
  | rule =>
    have hview := Rule.view_congr alike.extended.count
    have hrule := alike.rules name
    show Admin.getRule later name = Admin.getRule p.registry name
    unfold Admin.getRule
    cases hold : p.registry.current.rule? name with
    | none =>
      rw [hold] at hrule
      rw [Option.map_eq_none_iff.mp hrule]
    | some old =>
      rw [hold] at hrule
      obtain ⟨rule, hnew, hsame⟩ := Option.map_eq_some_iff.mp hrule
      rw [hnew]
      show Except.ok (rule.view later.counters) = .ok (old.view p.registry.counters)
      rw [show Rule.view later.counters = Rule.view p.registry.counters from hview, hsame]
  | ruleList =>
    show Admin.getRuleList later name recursive = Admin.getRuleList p.registry name recursive
    have hviews : Admin.viewRuleList later.current later.counters recursive =
        Admin.viewRuleList p.registry.current p.registry.counters recursive :=
      funext (alike.viewRuleList recursive)
    rw [Admin.getRuleList, Admin.ruleListOf, alike.ruleLists name (other rfl), hviews]
    rfl
  | route =>
    have hroute := alike.routes name
    show Admin.getRoute later p.wallTime name recursive =
      Admin.getRoute p.registry p.wallTime name recursive
    unfold Admin.getRoute
    cases hold : p.registry.current.route? name with
    | none =>
      rw [hold] at hroute
      rw [Option.map_eq_none_iff.mp hroute]
    | some old =>
      rw [hold] at hroute
      obtain ⟨route, hnew, hsame⟩ := Option.map_eq_some_iff.mp hroute
      rw [hnew]
      exact congrArg Except.ok (Admin.viewRoute_congr hsame alike.clusters
        (fun _ _ h => hpool h) p.wallTime recursive)
  | cluster =>
    show Admin.getCluster later p.wallTime name = Admin.getCluster p.registry p.wallTime name
    unfold Admin.getCluster
    rw [Snapshot.cluster?, alike.clusters, ← Snapshot.cluster?]
    cases hid : p.registry.current.cluster? name with
    | none => rfl
    | some id => exact congrArg Except.ok (hpool hid p.wallTime)
  | stage =>
    unfold Admin.get
    rw [alike.stages]
  | session => rfl

namespace Registry

variable {r : Registry}

theorem alike_putRule {rule : Rule} (there : r.current.rule? rule.name = some rule) :
    r.Alike ⟨r.current.putRule (Rule.updated r.resources rule rule.toDefinition).1,
      (Rule.updated r.resources rule rule.toDefinition).2⟩ none where
  extended := Rule.extends_buildOwnRoute r.resources rule.name rule.action
  rules n := by
    by_cases hn : n = rule.name
    · have hnew : (r.current.putRule (Rule.updated r.resources rule rule.toDefinition).1).rule?
          rule.name = some (Rule.updated r.resources rule rule.toDefinition).1 :=
        Table.find?_insert_self r.current.rules rule.name _
      rw [hn, there, hnew]
      rfl
    · exact congrArg (Option.map (Rule.view r.counters)) (Table.find?_insert_of_ne hn ..)
  ruleLists _ _ := rfl
  routes _ := rfl
  clusters := rfl
  stages := rfl

theorem alike_putRuleList (name : String) (d : RuleListDefinition) :
    r.Alike ⟨r.current.putRuleList (RuleList.build r.resources name d).1,
      (RuleList.build r.resources name d).2⟩ (some name) where
  extended := RuleEntry.extends_buildAll r.resources d.rules
  rules _ := rfl
  ruleLists n hn := by
    have hne : n ≠ name := fun h => hn (congrArg some h)
    exact Table.find?_insert_of_ne hne ..
  routes _ := rfl
  clusters := rfl
  stages := rfl

theorem alike_putRoute {route : Route} (there : r.current.route? route.name = some route) :
    r.Alike ⟨r.current.putRoute (r.resources.buildRoute route.name route.toDefinition).1,
      (r.resources.buildRoute route.name route.toDefinition).2⟩ none where
  extended := r.resources.extends_buildRoute route.name route.toDefinition
  rules _ := rfl
  ruleLists _ _ := rfl
  routes n := by
    by_cases hn : n = route.name
    · rw [hn, there]
      refine (congrArg (Option.map Route.toDefinition) (Table.find?_insert_self ..)).trans ?_
      exact congrArg some (Route.toDefinition_build r.clusters route.name route.toDefinition)
    · exact congrArg (Option.map Route.toDefinition) (Table.find?_insert_of_ne hn ..)
  clusters := rfl
  stages := rfl

end Registry

/-! ### What is stored again -/

namespace Admin

variable {strict : Bool} {s : Snapshot} {res : Resources}

/-- A rule is replaced by what is shown of it. -/
theorem updateRule_view {rule : Rule} (there : s.rule? rule.name = some rule)
    (written : rule.condition.Written) (valid : checkMatch strict .rule rule.condition = .ok ())
    (counters : Counters) :
    updateRule strict rule.name (rule.view counters) s res =
      (.ok ((Rule.updated res rule rule.toDefinition).1.view
          (Rule.updated res rule rule.toDefinition).2.counters,
        s.putRule (Rule.updated res rule rule.toDefinition).1),
        (Rule.updated res rule rule.toDefinition).2) := by
  -- the count is shown beside the definition, and it is not read
  have hread := decodeAs_of_ok .rule (Rule.decode_view written counters)
  have hname : checkName .rule rule.name rule.toDefinition.name = .ok () := by
    show checkName .rule rule.name (some rule.name) = .ok ()
    rw [checkName, if_pos rfl]
  have hvalid : checkMatch strict .rule rule.toDefinition.condition = .ok () := valid
  unfold updateRule
  rw [hread]
  unfold storeRule
  simp only [hname, hvalid, there, bind, Except.bind, pure, Except.pure]

/-- What is shown of a list is read as its content. -/
theorem decode_viewRuleList {list : RuleList}
    (written : ∀ rule, .inline rule ∈ list.entries → rule.condition.Written)
    (rules : String → Option Rule) (counters : Counters) :
    RuleListDefinition.decode (list.view rules counters false) =
      .ok list.toDefinition := by
  let shown : List Json := list.entries.map (RuleEntry.view rules counters false)
  obtain ⟨fields, hview, hname, hrules⟩ : ∃ fields,
      list.view rules counters false = .object fields ∧
      Table.find? fields "name" = (some list.name).map Json.string ∧
      Table.find? fields "rules" = some (.array shown) := by
    refine ⟨_, rfl, ?_, ?_⟩ <;> simp [Table.find?_ofList, Table.find?, shown]
  have hread : Decode.list RuleReference.decode (.array shown) =
      .ok (list.entries.map RuleEntry.content) :=
    Decode.items_map fun entry he =>
      RuleEntry.decode_view (fun rule hrule => written rule (hrule ▸ he)) rules counters
  rw [hview, RuleListDefinition.decode]
  simp (disch := simp) only [Decode.record, bind, Except.bind,
    Decode.Record.field_optional_string hname, Decode.Record.field_of_find? hrules, hread,
    Decode.fault?, Decode.Record.settle_eq_ok, pure, Except.pure]
  rfl

/-- A list of rules is replaced by what is shown of it. -/
theorem updateRuleList_view {list : RuleList} (there : s.ruleList? list.name = some list)
    (written : ∀ rule, .inline rule ∈ list.entries → rule.condition.Written)
    (valid : checkRuleList strict s (RuleList.build res list.name list.toDefinition).1 = .ok ())
    (counters : Counters) :
    updateRuleList strict list.name (viewRuleList s counters false list) s res =
      (.ok (viewRuleList s (RuleList.build res list.name list.toDefinition).2.counters false
          (RuleList.build res list.name list.toDefinition).1,
        s.putRuleList (RuleList.build res list.name list.toDefinition).1),
        (RuleList.build res list.name list.toDefinition).2) := by
  have hread := decodeAs_of_ok .ruleList (decode_viewRuleList written s.rule? counters)
  have hname : checkName .ruleList list.name list.toDefinition.name = .ok () := by
    show checkName .ruleList list.name (some list.name) = .ok ()
    rw [checkName, if_pos rfl]
  unfold updateRuleList viewRuleList
  rw [hread]
  unfold storeRuleList
  simp only [hname, ruleListOf_eq_ok.mpr there, bind, Except.bind]
  unfold buildRuleList
  simp only [valid]
  rfl

/-- A route is replaced by what is shown of it. -/
theorem updateRoute_view {route : Route} (there : s.route? route.name = some route)
    (sound : route.toDefinition.Sound)
    (valid : checkRoute strict s (res.buildRoute route.name route.toDefinition).1 = .ok ()) :
    updateRoute strict route.name route.view s res =
      (.ok ((res.buildRoute route.name route.toDefinition).1.view,
        s.putRoute (res.buildRoute route.name route.toDefinition).1),
        (res.buildRoute route.name route.toDefinition).2) := by
  have hread : decodeAs .route RouteDefinition.decode route.view = .ok route.toDefinition :=
    decodeAs_of_ok .route sound.readsBack
  have hname : checkName .route route.name route.toDefinition.name = .ok () := by
    show checkName .route route.name (some route.name) = .ok ()
    rw [checkName, if_pos rfl]
  unfold updateRoute
  rw [hread]
  unfold storeRoute
  simp only [hname, there]
  unfold buildRoute
  simp only [valid]

end Admin

/-! ### What holds after every run -/

theorem Admin.Act.routes_sound {s next : Snapshot} {cs later : Counters} {kind : EntityKind}
    {name : String} (h : Act s cs later kind name next)
    (hs : ∀ n route, s.route? n = some route → route.toDefinition.Sound) :
    ∀ n route, next.route? n = some route → route.toDefinition.Sound := by
  intro n route hroute
  cases h with
  | putRoute new sound =>
    rcases Table.find?_insert_eq_some hroute with ⟨-, rfl⟩ | hroute
    · exact sound
    · exact hs n route hroute
  | dropRoute dropped => exact hs n route (Table.find?_of_find?_erase hroute)
  | _ => exact hs n route hroute

namespace Proxy

open Admin

/-- What was checked when it was stored still holds. -/
structure InOrder (p : Proxy) : Prop where
  closed : p.registry.current.Closed p.registry.clusters
  written : ∀ rule ∈ p.registry.current.allRules, rule.condition.Written
  valid : ∀ m ∈ p.registry.current.checkedConditions, ∀ kind, checkMatch p.strict kind m = .ok ()
  sound : ∀ name route, p.registry.current.route? name = some route → route.toDefinition.Sound

theorem run_closed {strict : Bool} {events : List Event}
    (checked : ∀ e ∈ events, e.isChecked = true) :
    (run events (fresh strict)).registry.current.Closed
      (run events (fresh strict)).registry.clusters :=
  run_snapshot Snapshot.Closed (fun _ _ _ hgrows hs => hs.grows hgrows)
    (fun _ _ _ hchange hs => hchange.closed hs) (.empty _) checked

theorem strict_run {strict : Bool} {events : List Event}
    (checked : ∀ e ∈ events, e.isChecked = true) : (run events (fresh strict)).strict = strict :=
  run_invariant _ (fun p => p.strict = strict) (fun p _ he hp => (p.apply_moves he).2.trans hp)
    checked rfl

theorem run_routes_sound {strict : Bool} {events : List Event}
    (checked : ∀ e ∈ events, e.isChecked = true) :
    ∀ name route, (run events (fresh strict)).registry.current.route? name = some route →
      route.toDefinition.Sound := by
  refine (run_invariant _ (fun p => p.registry.current.OwnNames ∧
    ∀ name route, p.registry.current.route? name = some route → route.toDefinition.Sound)
    (fun p e he hp => ⟨ownNames_apply (Event.keepsNames_of_isChecked he) hp.1, ?_⟩) checked
    ⟨ownNames_fresh strict, fun _ _ h => nomatch h⟩).2
  rcases apply_acts hp.1 he with hsame | ⟨kind, name, hact⟩
  · rw [hsame]
    exact hp.2
  · exact hact.routes_sound hp.2

theorem run_inOrder {strict : Bool} {events : List Event}
    (checked : ∀ e ∈ events, e.isChecked = true) : (run events (fresh strict)).InOrder where
  closed := run_closed checked
  written rule there := (run_built checked there).condition
  sound := run_routes_sound checked
  valid m hm kind := by
    -- checks pass without a look where they are not strict
    rw [strict_run checked]
    cases strict with
    | false => rfl
    | true => exact checkMatch_eq_ok.mpr (run_validated checked m hm)

namespace InOrder

variable {p : Proxy} {name : String}

/-- Entries with the contents of entries that are there pass the checks. -/
theorem checkRuleList (order : p.InOrder) {list next : RuleList}
    (there : p.registry.current.ruleList? name = some list)
    (contents : next.entries.map RuleEntry.content = list.entries.map RuleEntry.content) :
    Admin.checkRuleList p.strict p.registry.current next = .ok () := by
  refine checkRuleList_eq_ok.mpr fun entry hentry => ?_
  have hcontent : entry.content ∈ list.entries.map RuleEntry.content :=
    contents ▸ List.mem_map_of_mem hentry
  obtain ⟨old, hold, hsame⟩ := List.mem_map.mp hcontent
  cases entry with
  | named rule =>
    cases old with
    | named other =>
      obtain rfl : other = rule := Reference.named.inj hsame
      have hsome := order.closed.entries _ (Table.mem_of_find? there) other hold
      rw [checkEntry, if_pos hsome]
    | inline _ => cases hsame
  | inline rule =>
    cases old with
    | named _ => cases hsame
    | inline other =>
      have hdefinition : other.toDefinition = rule.toDefinition := Reference.inline.inj hsame
      have hcondition : other.condition = rule.condition :=
        congrArg RuleDefinition.condition hdefinition
      have hmem : rule.condition ∈ p.registry.current.checkedConditions :=
        Snapshot.mem_checkedConditions.mpr
          (.inl ⟨other, Snapshot.inline_mem_allRules there hold, hcondition⟩)
      exact order.valid _ hmem .ruleList

/-- A route with the definition of a route that is there passes the checks. -/
theorem checkRoute (order : p.InOrder) {old route : Route}
    (there : p.registry.current.route? name = some old)
    (definition : route.toDefinition = old.toDefinition) :
    Admin.checkRoute p.strict p.registry.current route = .ok () := by
  have hmem := Table.mem_of_find? there
  have hingress : route.ingress = old.ingress := congrArg RouteDefinition.ingress definition
  have hdestination : route.destination.toReference = old.destination.toReference :=
    congrArg RouteDefinition.destination definition
  refine checkRoute_eq_ok.mpr ⟨?_, fun stage hstage => ?_⟩
  · cases hnew : route.destination with
    | own d id => rfl
    | registered cluster =>
      rw [hnew] at hdestination
      cases hold : old.destination with
      | own d id =>
        rw [hold] at hdestination
        cases hdestination
      | registered other =>
        rw [hold] at hdestination
        obtain rfl : cluster = other := Reference.named.inj hdestination
        rw [checkDestination, if_pos (order.closed.destinations _ hmem cluster hold)]
  · rw [hingress] at hstage
    cases stage with
    | named stage => rw [checkStage, if_pos (order.closed.ingress _ hmem stage hstage)]
    | write writes => rfl
    | filter condition =>
      exact order.valid _ (Snapshot.mem_checkedConditions.mpr (.inr ⟨_, hmem, hstage⟩)) .route

theorem pooled (order : p.InOrder) (name : String) (id : ClusterId)
    (h : p.registry.current.cluster? name = some id) : (p.registry.clusters.get? id).isSome := by
  obtain ⟨c, hc, -⟩ := order.closed.clusterNames _ (Table.mem_of_find? h)
  rw [hc]
  rfl

end InOrder

/-! ### Putting back -/

theorem update_of_done {α : Type} {p : Proxy} {edit : Edit α} {answer : α} {next : Snapshot}
    {later : Resources}
    (h : edit p.registry.current p.registry.resources = (.ok (answer, next), later)) :
    p.update edit = (.ok answer, { p with registry := ⟨next, later⟩ }) := by
  rw [update, Registry.update, h]

/-- What comes of putting back what is shown of `name`: it succeeds, and all that can be shown is as
it was, apart from the counts of rules of a list's own. -/
def PutsBack (p : Proxy) (kind : EntityKind) (name : String) (op : Operation) : Prop :=
  ∃ answer q, op.carryOut p = (.ok answer, q) ∧
    (∀ k n recursive, (k = .ruleList → kind = .ruleList → n ≠ name) →
      get q k n recursive = get p k n recursive) ∧
    (kind = .ruleList → ∃ list : RuleList, ∀ recursive,
      get p .ruleList name recursive =
        .ok (list.view p.registry.current.rule? p.registry.counters recursive) ∧
      get q .ruleList name recursive =
        .ok (list.restarted p.registry.current.rule? p.registry.counters recursive))

variable {p : Proxy} {name : String} {view : Json}

theorem putsBack_rule (order : p.InOrder) (shown : get p .rule name false = .ok view) :
    p.PutsBack .rule name (.updateRule name view) := by
  have shown : getRule p.registry name = .ok view := shown
  unfold getRule at shown
  cases hrule : p.registry.current.rule? name with
  | none =>
    rw [hrule] at shown
    cases shown
  | some rule =>
    rw [hrule] at shown
    cases shown
    obtain rfl : rule.name = name := order.closed.ruleNames _ (Table.mem_of_find? hrule)
    have hmem : rule ∈ p.registry.current.allRules :=
      Snapshot.mem_allRules.mpr (.inl ⟨_, Table.mem_of_find? hrule, rfl⟩)
    have hvalid := order.valid _ (Snapshot.mem_checkedConditions.mpr (.inl ⟨rule, hmem, rfl⟩)) .rule
    refine ⟨_, _, update_of_done (updateRule_view hrule (order.written rule hmem) hvalid _),
      fun k n recursive _ => ?_, nofun⟩
    exact get_of_alike (Registry.alike_putRule hrule) order.pooled (fun _ => nofun) recursive

theorem putsBack_route (order : p.InOrder) (shown : get p .route name false = .ok view) :
    p.PutsBack .route name (.updateRoute name view) := by
  have shown : getRoute p.registry p.wallTime name false = .ok view := shown
  unfold getRoute at shown
  cases hroute : p.registry.current.route? name with
  | none =>
    rw [hroute] at shown
    cases shown
  | some route =>
    rw [hroute] at shown
    cases shown
    obtain rfl : route.name = name := order.closed.routeNames _ (Table.mem_of_find? hroute)
    have hdefinition := Route.toDefinition_build p.registry.clusters route.name route.toDefinition
    refine ⟨_, _, update_of_done (updateRoute_view hroute (order.sound _ _ hroute)
      (order.checkRoute hroute hdefinition)), fun k n recursive _ => ?_, nofun⟩
    exact get_of_alike (Registry.alike_putRoute hroute) order.pooled (fun _ => nofun) recursive

theorem putsBack_ruleList (order : p.InOrder) (shown : get p .ruleList name false = .ok view) :
    p.PutsBack .ruleList name (.updateRuleList name view) := by
  have shown : getRuleList p.registry name false = .ok view := shown
  unfold getRuleList at shown
  cases hlist : p.registry.current.ruleList? name with
  | none =>
    rw [ruleListOf, hlist] at shown
    cases shown
  | some list =>
    have hfound : ruleListOf p.registry.current name = .ok list := ruleListOf_eq_ok.mpr hlist
    rw [hfound] at shown
    cases shown
    -- the list is built under the name in its view, which is the one that it is stored under
    obtain rfl : list.name = name := order.closed.ruleListNames _ (Table.mem_of_find? hlist)
    let built := RuleList.build p.registry.resources list.name list.toDefinition
    have hwritten (rule : Rule) (hrule : .inline rule ∈ list.entries) : rule.condition.Written :=
      order.written rule (Snapshot.inline_mem_allRules hlist hrule)
    have hvalid := order.checkRuleList hlist (list.map_content_build p.registry.resources)
    refine ⟨_, _, update_of_done (updateRuleList_view hlist hwritten hvalid _),
      fun k n recursive hother => ?_, fun _ => ⟨list, fun recursive => ⟨?_, ?_⟩⟩⟩
    · refine get_of_alike (Registry.alike_putRuleList list.name list.toDefinition) order.pooled
        (fun hk hn => ?_) recursive
      exact hother hk rfl (Option.some.inj hn)
    · show (ruleListOf p.registry.current list.name).map _ = _
      rw [hfound]
      rfl
    · have hnew : (p.registry.current.putRuleList built.1).ruleList? list.name = some built.1 :=
        Table.find?_insert_self p.registry.current.ruleLists list.name built.1
      show (ruleListOf (p.registry.current.putRuleList built.1) list.name).map
        (viewRuleList _ built.2.counters recursive) = _
      rw [ruleListOf_eq_ok.mpr hnew]
      exact congrArg Except.ok (list.view_build p.registry.resources _ recursive)

/-- **What is shown of a thing can be put back, and nothing that is shown changes.** Take what is
shown of any rule, list of rules or route after any run of checked events, and replace the thing by
it. The operation succeeds, however strict the checks are. Everything is shown as before, in full
and in short, except that the rules of a list's own that was replaced are counted from zero. -/
theorem run_putBack {strict : Bool} {events : List Event}
    (checked : ∀ e ∈ events, e.isChecked = true) {kind : EntityKind} {op : Operation}
    (replaces : op.Replaces name view kind)
    (shown : get (run events (fresh strict)) kind name false = .ok view) :
    (run events (fresh strict)).PutsBack kind name op := by
  have horder : (run events (fresh strict)).InOrder := run_inOrder checked
  cases replaces with
  | rule => exact putsBack_rule horder shown
  | ruleList => exact putsBack_ruleList horder shown
  | route => exact putsBack_route horder shown

/-- The list has a rule of its own that was applied once. -/
theorem run_putBack_appliedOnce :
    (∀ e ∈ appliedOnce, e.isChecked = true) ∧
      ∃ view, get (run appliedOnce (fresh true)) .ruleList "main" false = .ok view ∧
        (run appliedOnce (fresh true)).PutsBack .ruleList "main" (.updateRuleList "main" view) := by
  have hchecked : ∀ e ∈ appliedOnce, e.isChecked = true := by
    simp [appliedOnce, Event.isChecked]
  have hshown : (get (run appliedOnce (fresh true)) .ruleList "main" false).isOk = true := by
    decide +kernel
  cases hview : get (run appliedOnce (fresh true)) .ruleList "main" false with
  | error f =>
    rw [hview] at hshown
    cases hshown
  | ok view => exact ⟨hchecked, view, rfl, run_putBack hchecked .ruleList hview⟩

end Proxy

end Switchboard

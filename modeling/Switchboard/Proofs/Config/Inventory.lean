/-
What is registered, as it was defined.

Clusters and counts are kept under numbers, which depend on the order in which things are added.
What was defined does not, and it is all that the checks of the administration look at. So what comes
of an addition can be told from the definitions.

* `Registry.inventory`: the definitions of what is registered;
* `Registry.Stocked`: registered clusters are in the pool, and additions keep that so;
* `Registry.Comes`: what an addition comes to;
* `addCluster_comes`, …, `addRuleList_comes`: all additions come to what the definitions say.
-/
import Switchboard.Proofs.Admin.Effect
import Switchboard.Proofs.Table.Filling

namespace Switchboard

open Table (mapValues put?)

/-- The definitions of what is registered by name, and the next default names. -/
structure Inventory where
  clusters : Table (Option Cluster)
  routes : Table RouteDefinition
  rules : Table RuleDefinition
  ruleLists : Table (List RuleReference)
  stages : Table Stage
  names : Names

/-- The definitions of what is registered. A cluster is as it was built if nobody has used it. -/
def Registry.inventory (r : Registry) : Inventory where
  clusters := mapValues r.resources.clusters.get? r.current.clusters
  routes := mapValues Route.toDefinition r.current.routes
  rules := mapValues Rule.toDefinition r.current.rules
  ruleLists := mapValues (fun list => list.entries.map RuleEntry.content) r.current.ruleLists
  stages := r.current.stages
  names := r.resources.names

/-! ### Checks -/

namespace Inventory

variable (strict : Bool) (i : Inventory)

/-- A condition is well-formed, or nobody asks for that. -/
def admitsMatch (m : Match) : Bool := !strict || m.validate.isOk

/-- A destination that is named is registered. -/
def admitsDestination : ClusterReference → Bool
  | .named name => Table.has i.clusters name
  | .inline _ => true

/-- A stage that is named is registered, and a condition is admitted. -/
def admitsStage : StageDefinition → Bool
  | .named name => Table.has i.stages name
  | .filter condition => admitsMatch strict condition
  | .write _ => true

def admitsRoute (d : RouteDefinition) : Bool :=
  i.admitsDestination d.destination && d.ingress.all (i.admitsStage strict)

/-- A rule that is named is registered, and a condition is admitted. -/
def admitsEntry : RuleReference → Bool
  | .named name => Table.has i.rules name
  | .inline d => admitsMatch strict d.condition

end Inventory

section Checks

open Admin Inventory

variable {strict : Bool} {r : Registry}

/-- A test that is passed if it holds. -/
theorem test_iff {c : Prop} [Decidable c] {f : Fault} :
    (if c then .ok () else .error f : Except Fault Unit) = .ok () ↔ c := by
  split <;> simp [*]

theorem checkMatch_iff (kind : EntityKind) {m : Match} :
    checkMatch strict kind m = .ok () ↔ admitsMatch strict m = true := by
  cases strict with
  | false => exact iff_of_true rfl rfl
  | true =>
    rw [checkMatch, if_pos rfl, admitsMatch]
    cases m.validate with
    | ok _ => exact iff_of_true rfl rfl
    | error f => exact iff_of_false nofun nofun

theorem checkRoute_iff {route : Route} :
    checkRoute strict r.current route = .ok () ↔
      r.inventory.admitsRoute strict route.toDefinition = true := by
  have hdestination : checkDestination r.current route.destination = .ok () ↔
      r.inventory.admitsDestination route.destination.toReference = true := by
    cases route.destination with
    | registered name =>
      rw [Destination.toReference, admitsDestination, Registry.inventory, Table.has_mapValues]
      exact test_iff
    | own d id => exact iff_of_true rfl rfl
  have hstage (stage : StageDefinition) : checkStage strict r.current stage = .ok () ↔
      r.inventory.admitsStage strict stage = true := by
    cases stage with
    | named name => exact test_iff
    | write writes => exact iff_of_true rfl rfl
    | filter condition => exact checkMatch_iff .route
  rw [checkRoute_eq_ok, hdestination, admitsRoute, Bool.and_eq_true, List.all_eq_true]
  exact and_congr_right fun _ => forall₂_congr fun stage _ => hstage stage

theorem checkRuleList_iff {list : RuleList} :
    checkRuleList strict r.current list = .ok () ↔
      (list.entries.map RuleEntry.content).all (r.inventory.admitsEntry strict) = true := by
  have hentry (entry : RuleEntry) : checkEntry strict r.current entry = .ok () ↔
      r.inventory.admitsEntry strict entry.content = true := by
    cases entry with
    | named name =>
      rw [RuleEntry.content, admitsEntry, Registry.inventory, Table.has_mapValues]
      exact test_iff
    | inline rule => exact checkMatch_iff .ruleList
  rw [checkRuleList_eq_ok, List.all_map, List.all_eq_true]
  exact forall₂_congr fun entry _ => hentry entry

end Checks

/-! ### What is used up -/

namespace RuleReference

/-- The entry with a name: its own one, or else the next default name. -/
def giveName (names : Names) : RuleReference → RuleReference × Names
  | .inline ⟨none, condition, action⟩ =>
    let (name, names) := names.next .rule
    (.inline ⟨some name, condition, action⟩, names)
  | r => (r, names)

/-- Gives names to entries from the left. -/
def giveNames (names : Names) : List RuleReference → List RuleReference × Names
  | [] => ([], names)
  | r :: rest =>
    let (r, names) := giveName names r
    let (rest, names) := giveNames names rest
    (r :: rest, names)

theorem giveNames_of_hasName (names : Names) {rs : List RuleReference} (h : ∀ r ∈ rs, r.HasName) :
    giveNames names rs = (rs, names) := by
  induction rs with
  | nil => rfl
  | cons r rest ih =>
    obtain ⟨hr, hrest⟩ := List.forall_mem_cons.mp h
    have hgiven : giveName names r = (r, names) := by
      cases r with
      | named name => rfl
      | inline d =>
        obtain ⟨_ | name, condition, action⟩ := d
        · cases hr _ rfl
        · rfl
    rw [giveNames, hgiven]
    dsimp only
    rw [ih hrest]

end RuleReference

theorem Rule.names_build (res : Resources) (name : String) (condition : Match) (action : Json) :
    (build res name condition action).2.names = res.names := by
  rw [build, buildOwnRoute]
  cases ownRoute? action <;> rfl

/-- Entries are built with the names that they are given. -/
theorem RuleEntry.buildAll_giveNames (res : Resources) (rs : List RuleReference) :
    ((buildAll res rs).1.map content, (buildAll res rs).2.names) =
      RuleReference.giveNames res.names rs := by
  have hone (res : Resources) (r : RuleReference) :
      ((build res r).1.content, (build res r).2.names) = r.giveName res.names := by
    cases r with
    | named name => rfl
    | inline d =>
      obtain ⟨_ | name, condition, action⟩ := d
      · exact Prod.ext rfl (Rule.names_build (res.nextName .rule).2 _ condition action)
      · exact Prod.ext rfl (Rule.names_build res name condition action)
  induction rs generalizing res with
  | nil => rfl
  | cons r rest ih =>
    rw [RuleReference.giveNames, ← hone res r]
    dsimp only
    rw [← ih (build res r).2]
    rfl

/-! ### Additions -/

namespace Registry

/-- The registered clusters are in the pool. -/
def Stocked (r : Registry) : Prop :=
  ∀ e ∈ r.current.clusters, ∃ c, r.resources.clusters.get? e.2 = some c

/-- The inventory that an edit leads to, if it succeeds. -/
def reached? : Except Admin.Fault Json × Registry → Option Inventory
  | (.ok _, next) => some next.inventory
  | (.error _, _) => none

/-- The edit leads to the inventory `after`, or it is refused if that is none. -/
structure Comes (r : Registry) (edit : Admin.Edit Json) (after : Option Inventory) : Prop where
  stocked : (r.update edit).2.Stocked
  outcome : reached? (r.update edit) = after

variable {s next : Snapshot} {res later : Resources} {edit : Admin.Edit Json}

theorem Stocked.extends (h : Stocked ⟨s, res⟩) (extended : res.Extends later) :
    Stocked ⟨s, later⟩ := by
  intro e he
  obtain ⟨c, hc⟩ := h e he
  exact ⟨c, extended.cluster e.2 c hc⟩

/-- What is used up changes no definition, except for default names. -/
theorem inventory_extends (h : Stocked ⟨s, res⟩) (extended : res.Extends later) :
    inventory ⟨s, later⟩ = { inventory ⟨s, res⟩ with names := later.names } := by
  have hclusters :
      mapValues later.clusters.get? s.clusters = mapValues res.clusters.get? s.clusters := by
    refine List.map_congr_left fun e he => ?_
    obtain ⟨c, hc⟩ := h e he
    rw [show res.clusters.get? e.2 = some c from hc, extended.cluster e.2 c hc]
  simp only [inventory, hclusters]

theorem inventory_putRoute (route : Route) : inventory ⟨s.putRoute route, res⟩ =
    { inventory ⟨s, res⟩ with
      routes := Table.insert (inventory ⟨s, res⟩).routes route.name route.toDefinition } := by
  simp only [inventory, Snapshot.putRoute, Table.mapValues_insert]

theorem inventory_putRule (rule : Rule) : inventory ⟨s.putRule rule, res⟩ =
    { inventory ⟨s, res⟩ with
      rules := Table.insert (inventory ⟨s, res⟩).rules rule.name rule.toDefinition } := by
  simp only [inventory, Snapshot.putRule, Table.mapValues_insert]

theorem inventory_putRuleList (list : RuleList) : inventory ⟨s.putRuleList list, res⟩ =
    { inventory ⟨s, res⟩ with
      ruleLists := Table.insert (inventory ⟨s, res⟩).ruleLists list.name
        (list.entries.map RuleEntry.content) } := by
  simp only [inventory, Snapshot.putRuleList, Table.mapValues_insert]

theorem inventory_putCluster (name : String) (id : ClusterId) :
    inventory ⟨s.putCluster name id, res⟩ =
      { inventory ⟨s, res⟩ with
        clusters := Table.insert (inventory ⟨s, res⟩).clusters name (res.clusters.get? id) } := by
  simp only [inventory, Snapshot.putCluster, Table.mapValues_insert]

theorem Comes.refused (h : Stocked ⟨s, res⟩) {f : Admin.Fault}
    (hedit : edit s res = (.error f, later)) (extended : res.Extends later) :
    Comes ⟨s, res⟩ edit none := by
  constructor <;> rw [update, hedit]
  · exact h.extends extended
  · rfl

theorem Comes.stored {answer : Json} (hedit : edit s res = (.ok (answer, next), later))
    (h : Stocked ⟨next, later⟩) : Comes ⟨s, res⟩ edit (some (inventory ⟨next, later⟩)) := by
  constructor <;> rw [update, hedit]
  · exact h
  · rfl

/-- What is to be stored is checked first. -/
theorem Comes.checked (h : Stocked ⟨s, res⟩) {check : Except Admin.Fault Unit} (answer : Json)
    {kept : Resources} (hedit : edit s res = match check with
      | .error f => (.error f, kept)
      | .ok _ => (.ok (answer, next), later))
    (extended : res.Extends kept) (stocked : Stocked ⟨next, later⟩) {admitted : Bool}
    (hcheck : check = .ok () ↔ admitted = true) :
    Comes ⟨s, res⟩ edit (if admitted then some (inventory ⟨next, later⟩) else none) := by
  cases check with
  | error f =>
    rw [if_neg (mt hcheck.mpr nofun)]
    exact .refused h hedit extended
  | ok _ =>
    rw [if_pos (hcheck.mp rfl)]
    exact .stored hedit stocked

end Registry

namespace Inventory

/-- What is added under the name that a definition gives, if it is admitted. -/
def addition? {α β : Type} (decode : Decoder α) (name : α → Option String) (admits : α → Bool)
    (content : α → β) (v : Json) : Option (String × β) :=
  (decode v).toOption.bind fun d => (name d).bind fun n =>
    if admits d then some (n, content d) else none

theorem addition?_of_ok {α β : Type} {decode : Decoder α} {nameOf : α → Option String}
    {admits : α → Bool} {content : α → β} {v : Json} {d : α} {name : String}
    (h : decode v = .ok d) (hname : nameOf d = some name) :
    addition? decode nameOf admits content v =
      if admits d then some (name, content d) else none := by
  rw [addition?, h]
  show (nameOf d).bind _ = _
  rw [hname]
  rfl

variable (strict : Bool) (i : Inventory)

/-- The cluster that a definition adds. -/
def clusterAddition? : Json → Option (String × Option Cluster) :=
  addition? (ClusterDefinition.decode false) (fun d => some d.name) (fun _ => true)
    fun d => some (.build d)

/-- The route that a definition adds. -/
def routeAddition? : Json → Option (String × RouteDefinition) :=
  addition? RouteDefinition.decode RouteDefinition.name (i.admitsRoute strict) id

/-- The rule that a definition adds. -/
def ruleAddition? : Json → Option (String × RuleDefinition) :=
  addition? RuleDefinition.decode RuleDefinition.name (fun d => admitsMatch strict d.condition) id

/-- The list of rules that a definition adds, if its own rules have names. -/
def listAddition? : Json → Option (String × List RuleReference) :=
  addition? RuleListDefinition.decode RuleListDefinition.name
    (fun d => d.rules.all (i.admitsEntry strict)) RuleListDefinition.rules

/-- The inventory with a list of rules, each under its own name or a default one. -/
def withList? (name : String) (d : RuleListDefinition) : Option Inventory :=
  let (rules, names) := RuleReference.giveNames i.names d.rules
  if rules.all (i.admitsEntry strict) then
    some { i with ruleLists := Table.insert i.ruleLists name rules, names }
  else none

/-- The inventory with the list of rules that a definition with a name adds. -/
def listed? (v : Json) : Option Inventory :=
  (RuleListDefinition.decode v).toOption.bind fun d => d.name.bind fun name =>
    if Table.has i.ruleLists name then none else i.withList? strict name d

theorem listed?_of_ok {v : Json} {d : RuleListDefinition} {name : String}
    (h : RuleListDefinition.decode v = .ok d) (hname : d.name = some name) : i.listed? strict v =
      if Table.has i.ruleLists name then none else i.withList? strict name d := by
  rw [listed?, h]
  show d.name.bind _ = _
  rw [hname]
  rfl

/-- Where all rules have names, the list is added as it is. -/
theorem listed?_eq {v : Json} (named : ∀ d, RuleListDefinition.decode v = .ok d →
    d.name.isSome = true ∧ ∀ r ∈ d.rules, r.HasName) : i.listed? strict v =
      (put? i.ruleLists (i.listAddition? strict v)).map fun ruleLists => { i with ruleLists } := by
  cases hdecode : RuleListDefinition.decode v with
  | error f => rw [listed?, listAddition?, addition?, hdecode]; rfl
  | ok d =>
    obtain ⟨hsome, hrules⟩ := named d hdecode
    obtain ⟨name, hname⟩ := Option.isSome_iff_exists.mp hsome
    rw [i.listed?_of_ok strict hdecode hname, withList?,
      RuleReference.giveNames_of_hasName _ hrules, listAddition?, addition?_of_ok hdecode hname]
    dsimp only
    split
    · next htaken =>
      split <;> simp [put?, htaken]
    · next hfree =>
      split <;> simp [put?, hfree]

end Inventory

namespace Registry

open Admin Inventory

variable {r : Registry} (strict : Bool) {v : Json} {name : String}

theorem decodeAs_of_error {α : Type} {decode : Decoder α} {f : Decode.Fault} (kind : EntityKind)
    (h : decode v = .error f) : decodeAs kind decode v = .error (.invalid kind (.malformed f)) := by
  rw [decodeAs, h]
  rfl

/-- An addition of what a definition says, under a name that is to be new. -/
theorem Comes.entry {α β : Type} (h : r.Stocked) (build : String → α → Edit Json)
    {decode : Decoder α} {nameOf : α → Option String} {admits : α → Bool} {content : α → β}
    {edit : Edit Json} {t : Table β} {put : Table β → Inventory}
    (named : ∀ d, decode v = .ok d → (nameOf d).isSome = true)
    (hmalformed : ∀ f, decode v = .error f →
      ∃ g, edit r.current r.resources = (.error g, r.resources))
    (htaken : ∀ d name, decode v = .ok d → nameOf d = some name → Table.has t name = true →
      ∃ g, edit r.current r.resources = (.error g, r.resources))
    (hfree : ∀ d name, decode v = .ok d → nameOf d = some name → Table.has t name = false →
      edit r.current r.resources = build name d r.current r.resources)
    (hbuild : ∀ d name, decode v = .ok d → nameOf d = some name → r.Comes (build name d)
      (if admits d then some (put (Table.insert t name (content d))) else none)) :
    r.Comes edit ((put? t (addition? decode nameOf admits content v)).map put) := by
  cases hdecode : decode v with
  | error f =>
    obtain ⟨g, hedit⟩ := hmalformed f hdecode
    rw [addition?, hdecode]
    exact .refused h hedit (.refl _)
  | ok d =>
    obtain ⟨name, hname⟩ := Option.isSome_iff_exists.mp (named d hdecode)
    rw [addition?_of_ok hdecode hname]
    cases hhas : Table.has t name with
    | true =>
      obtain ⟨g, hedit⟩ := htaken d name hdecode hname hhas
      have hnone : put? t (if admits d then some (name, content d) else none) = none := by
        split
        · exact if_pos hhas
        · rfl
      rw [hnone]
      exact .refused h hedit (.refl _)
    | false =>
      have hsome : (put? t (if admits d then some (name, content d) else none)).map put =
          if admits d then some (put (Table.insert t name (content d))) else none := by
        split
        · rw [put?, hhas]
          rfl
        · rfl
      have hbuild := hbuild d name hdecode hname
      have hsame : r.update edit = r.update (build name d) := by
        rw [update, update, hfree d name hdecode hname hhas]
      rw [hsome]
      exact ⟨hsame ▸ hbuild.stocked, hsame ▸ hbuild.outcome⟩

/-- A name that is given is chosen if nothing has it. -/
theorem chooseName_some {α : Type} {kind : EntityKind} {default : NameKind} {t : Table α}
    {res : Resources} : chooseName kind default t (some name) res =
      if Table.has t name then (.error (.alreadyExists kind name), res) else (.ok name, res) :=
  rfl

theorem buildRoute_comes (h : r.Stocked) {d : RouteDefinition} (hname : d.name = some name) :
    r.Comes (buildRoute strict name d) (if r.inventory.admitsRoute strict d then
      some { r.inventory with routes := Table.insert r.inventory.routes name d } else none) := by
  have hdefinition : (r.resources.buildRoute name d).1.toDefinition = d := by
    show (Route.build r.clusters name d).1.toDefinition = d
    rw [Route.toDefinition_build, ← hname]
  have hextended := r.resources.extends_buildRoute name d
  have hcheck : checkRoute strict r.current (r.resources.buildRoute name d).1 = .ok () ↔
      r.inventory.admitsRoute strict d = true := by
    rw [checkRoute_iff, hdefinition]
  have hstored : inventory
      ⟨r.current.putRoute (r.resources.buildRoute name d).1, (r.resources.buildRoute name d).2⟩ =
        { r.inventory with routes := Table.insert r.inventory.routes name d } := by
    rw [inventory_putRoute, hdefinition, inventory_extends h hextended]
    rfl
  rw [← hstored]
  refine .checked h (r.resources.buildRoute name d).1.view rfl hextended ?_ hcheck
  exact h.extends hextended

theorem addRoute_comes (h : r.Stocked)
    (named : ∀ d, RouteDefinition.decode v = .ok d → d.name.isSome = true) :
    r.Comes (addRoute strict v) ((put? r.inventory.routes (r.inventory.routeAddition? strict v)).map
      fun routes => { r.inventory with routes }) := by
  have hhas (name : String) : Table.has r.inventory.routes name = Table.has r.current.routes name :=
    Table.has_mapValues ..
  refine .entry h (buildRoute strict) named (fun f hdecode => ?_) ?_ ?_
    fun d name _ hname => buildRoute_comes strict h hname
  · exact ⟨_, by rw [addRoute, decodeAs_of_error .route hdecode]⟩
  · intro d name hdecode hname htaken
    rw [hhas] at htaken
    exact ⟨.alreadyExists .route name, by
      simp only [addRoute, decodeAs_of_ok .route hdecode, hname, chooseName_some, htaken, if_true]⟩
  · intro d name hdecode hname hfree
    rw [hhas] at hfree
    simp only [addRoute, decodeAs_of_ok .route hdecode, hname, chooseName_some, hfree,
      Bool.false_eq_true, if_false]

/-- A rule that is stored under a name if it is admitted. -/
def storeNewRule (name : String) (d : RuleDefinition) : Edit Json := fun s res =>
  match checkMatch strict .rule d.condition with
  | .error f => (.error f, res)
  | .ok _ =>
    let (rule, res) := Rule.build res name d.condition d.action
    (.ok (rule.view res.counters, s.putRule rule), res)

/-- A rule is checked before its name is. -/
theorem addRule_of_ok {s : Snapshot} {res : Resources} {d : RuleDefinition}
    (hdecode : RuleDefinition.decode v = .ok d) (hname : d.name = some name) :
    addRule strict v s res =
      match checkMatch strict .rule d.condition with
      | .error f => (.error f, res)
      | .ok _ =>
        if Table.has s.rules name then (.error (.alreadyExists .rule name), res)
        else storeNewRule strict name d s res := by
  rw [addRule, decodeAs_of_ok .rule hdecode, storeNewRule]
  simp only [bind, Except.bind, pure, Except.pure]
  cases checkMatch strict .rule d.condition with
  | error f => rfl
  | ok _ =>
    simp only [hname, chooseName_some]
    cases Table.has s.rules name <;> rfl

theorem storeNewRule_comes (h : r.Stocked) {d : RuleDefinition} (hname : d.name = some name) :
    r.Comes (storeNewRule strict name d) (if admitsMatch strict d.condition then
      some { r.inventory with rules := Table.insert r.inventory.rules name d } else none) := by
  obtain ⟨rule, hrule⟩ : ∃ rule, rule = Rule.build r.resources name d.condition d.action := ⟨_, rfl⟩
  have hextended : r.resources.Extends rule.2 := hrule ▸ Rule.extends_build ..
  have hdefinition : rule.1.toDefinition = d := by
    rw [hrule]
    show RuleDefinition.mk (some name) d.condition d.action = d
    rw [← hname]
  have hstored : inventory ⟨r.current.putRule rule.1, rule.2⟩ =
      { r.inventory with rules := Table.insert r.inventory.rules name d } := by
    have hown : rule.1.name = name := hrule ▸ rfl
    have hnames : rule.2.names = r.resources.names := hrule ▸ Rule.names_build ..
    rw [inventory_putRule, hdefinition, hown, inventory_extends h hextended, hnames]
    rfl
  rw [← hstored]
  refine .checked h (rule.1.view rule.2.counters) ?_ (.refl _) ?_ (checkMatch_iff .rule)
  · rw [storeNewRule, hrule]
  · exact h.extends hextended

theorem addRule_comes (h : r.Stocked)
    (named : ∀ d, RuleDefinition.decode v = .ok d → d.name.isSome = true) :
    r.Comes (addRule strict v) ((put? r.inventory.rules (ruleAddition? strict v)).map
      fun rules => { r.inventory with rules }) := by
  have hhas (name : String) : Table.has r.inventory.rules name = Table.has r.current.rules name :=
    Table.has_mapValues ..
  refine .entry h (storeNewRule strict) named (fun f hdecode => ?_) ?_ ?_
    fun d name _ hname => storeNewRule_comes strict h hname
  · exact ⟨_, by rw [addRule, decodeAs_of_error .rule hdecode]; rfl⟩
  · intro d name hdecode hname htaken
    rw [hhas] at htaken
    rw [addRule_of_ok strict hdecode hname]
    split
    · exact ⟨_, rfl⟩
    · exact ⟨_, if_pos htaken⟩
  · intro d name hdecode hname hfree
    rw [hhas] at hfree
    rw [addRule_of_ok strict hdecode hname, hfree, storeNewRule]
    cases checkMatch strict .rule d.condition <;> rfl

theorem buildCluster_comes (h : r.Stocked) (time : Nat) (d : ClusterDefinition) :
    r.Comes (buildCluster time d) (some { r.inventory with
      clusters := Table.insert r.inventory.clusters d.name (some (.build d)) }) := by
  have hextended := r.resources.extends_add (.build d)
  have hnew := r.resources.clusters.get?_add_self (.build d)
  have hstored : inventory ⟨r.current.putCluster d.name (r.resources.clusters.add (.build d)).1,
      { r.resources with clusters := (r.resources.clusters.add (.build d)).2 }⟩ =
        { r.inventory with
          clusters := Table.insert r.inventory.clusters d.name (some (.build d)) } := by
    rw [inventory_putCluster, hnew, inventory_extends h hextended]
    rfl
  rw [← hstored]
  refine .stored rfl ?_
  exact Table.forall_mem_insert ⟨_, hnew⟩ (h.extends hextended)

theorem addCluster_comes (h : r.Stocked) (time : Nat) :
    r.Comes (addCluster time v) ((put? r.inventory.clusters (clusterAddition? v)).map
      fun clusters => { r.inventory with clusters }) := by
  have hhas (name : String) :
      Table.has r.inventory.clusters name = Table.has r.current.clusters name :=
    Table.has_mapValues ..
  let build (_ : String) (d : ClusterDefinition) : Edit Json := buildCluster time d
  refine .entry h build (fun _ _ => rfl) (fun f hdecode => ?_) ?_ ?_ ?_
  · exact ⟨_, by rw [addCluster, decodeAs_of_error .cluster hdecode]⟩
  · rintro d _ hdecode ⟨⟩ htaken
    rw [hhas] at htaken
    exact ⟨.alreadyExists .cluster d.name, by
      simp only [addCluster, decodeAs_of_ok .cluster hdecode, htaken, if_true]⟩
  · rintro d _ hdecode ⟨⟩ hfree
    rw [hhas] at hfree
    simp only [addCluster, decodeAs_of_ok .cluster hdecode, hfree, Bool.false_eq_true, if_false]
    rfl
  · rintro d _ - ⟨⟩
    exact buildCluster_comes h time d

theorem buildRuleList_comes (h : r.Stocked) (name : String) (d : RuleListDefinition) :
    r.Comes (buildRuleList strict name d) (r.inventory.withList? strict name d) := by
  obtain ⟨list, hlist⟩ : ∃ list, list = RuleList.build r.resources name d := ⟨_, rfl⟩
  have hextended : r.resources.Extends list.2 := hlist ▸ RuleEntry.extends_buildAll ..
  have hgiven : (list.1.entries.map RuleEntry.content, list.2.names) =
      RuleReference.giveNames r.inventory.names d.rules :=
    hlist ▸ RuleEntry.buildAll_giveNames r.resources d.rules
  have hstored : inventory ⟨r.current.putRuleList list.1, list.2⟩ =
      { r.inventory with
        ruleLists := Table.insert r.inventory.ruleLists name (list.1.entries.map RuleEntry.content)
        names := list.2.names } := by
    have hown : list.1.name = name := hlist ▸ rfl
    rw [inventory_putRuleList, hown, inventory_extends h hextended]
  rw [withList?, ← hgiven]
  dsimp only
  rw [← hstored]
  refine .checked h (viewRuleList r.current list.2.counters false list.1) ?_ hextended ?_
    checkRuleList_iff
  · subst hlist
    rfl
  · exact h.extends hextended

theorem addRuleList_comes (h : r.Stocked)
    (named : ∀ d, RuleListDefinition.decode v = .ok d → d.name.isSome = true) :
    r.Comes (addRuleList strict v) (r.inventory.listed? strict v) := by
  cases hdecode : RuleListDefinition.decode v with
  | error f =>
    rw [listed?, hdecode]
    refine .refused h (f := .invalid .ruleList (.malformed f)) ?_ (.refl _)
    rw [addRuleList, decodeAs_of_error .ruleList hdecode]
  | ok d =>
    obtain ⟨name, hname⟩ := Option.isSome_iff_exists.mp (named d hdecode)
    have hhas : Table.has r.inventory.ruleLists name = Table.has r.current.ruleLists name := by
      rw [inventory, Table.has_mapValues]
    have hadd : addRuleList strict v r.current r.resources =
        if Table.has r.current.ruleLists name then
          (.error (.alreadyExists .ruleList name), r.resources)
        else buildRuleList strict name d r.current r.resources := by
      simp only [addRuleList, decodeAs_of_ok .ruleList hdecode, hname, chooseName_some]
      cases Table.has r.current.ruleLists name <;> rfl
    rw [r.inventory.listed?_of_ok strict hdecode hname, hhas]
    cases htaken : Table.has r.current.ruleLists name with
    | true =>
      rw [htaken] at hadd
      exact .refused h hadd (.refl _)
    | false =>
      rw [htaken] at hadd
      have hbuild := buildRuleList_comes strict h name d
      have hsame : r.update (addRuleList strict v) = r.update (buildRuleList strict name d) := by
        rw [update, update, hadd]
        rfl
      exact ⟨hsame ▸ hbuild.stocked, hsame ▸ hbuild.outcome⟩

end Registry

end Switchboard

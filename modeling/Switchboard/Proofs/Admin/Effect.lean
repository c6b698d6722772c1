/-
What administrative edits are about.

An edit is about one thing, by its kind and its name. It stores that thing or takes it out, and all
else that is registered stays, with its counts and its clusters. Rules that are new get new counts,
and a new version of a rule goes on with the old one's.

* `Resources.Extends`: what is used up as things are created, without harm to what is there;
* `Snapshot.thing?`: everything that is registered, by kind and name;
* `Admin.Act`: what an edit does to the one thing that it is about;
* `Admin.Effect`, `Admin.ActsOn`: what an edit may come to;
* `addRule_actsOn`, …, `editDefinition_actsOn`: what all edits are about.
-/
import Switchboard.Proofs.Admin.Change
import Switchboard.Proofs.Definition.RoundTrip
import Switchboard.Proofs.Names
import Switchboard.Proofs.Routing.RuleList

namespace Switchboard

/-! ### What is used up -/

/-- How many counts there are. -/
def Counters.size (cs : Counters) : Nat := cs.counts.size

theorem Counters.get_of_size_le {cs : Counters} {id : CounterId} (h : cs.size ≤ id) :
    cs.get id = 0 := by
  rw [get, Array.getElem?_eq_none h]
  rfl

/-- Whether a count is one of those that were added. -/
def Counters.Adds (cs later : Counters) (id : Nat) : Prop := cs.size ≤ id ∧ id < later.size

/-- Counts and clusters may be added, and those that there are stay as they are. -/
structure Resources.Extends (res later : Resources) : Prop where
  size : res.counters.size ≤ later.counters.size
  count : ∀ id, later.counters.get id = res.counters.get id
  cluster : ∀ id c, res.clusters.get? id = some c → later.clusters.get? id = some c

namespace Resources

theorem Extends.refl (res : Resources) : res.Extends res :=
  ⟨Nat.le_refl _, fun _ => rfl, fun _ _ h => h⟩

theorem Extends.trans {a b c : Resources} (hab : a.Extends b) (hbc : b.Extends c) : a.Extends c :=
  ⟨Nat.le_trans hab.size hbc.size, fun id => (hbc.count id).trans (hab.count id),
    fun id x hx => hbc.cluster id x (hab.cluster id x hx)⟩

variable (res : Resources)

theorem extends_add (c : Cluster) :
    res.Extends { res with clusters := (res.clusters.add c).2 } := by
  refine ⟨Nat.le_refl _, fun _ => rfl, fun id x hx => ?_⟩
  have hlt : id < res.clusters.clusters.size := (Array.getElem?_eq_some_iff.mp hx).choose
  show (res.clusters.clusters.push c)[id]? = some x
  rw [Array.getElem?_push_lt hlt]
  exact (Array.getElem?_eq_getElem hlt).symm.trans hx

theorem extends_buildRoute (name : String) (d : RouteDefinition) :
    res.Extends (res.buildRoute name d).2 := by
  cases hd : d.destination with
  | named n => simpa [buildRoute, Route.build, Destination.build, hd] using .refl res
  | inline c => simpa [buildRoute, Route.build, Destination.build, hd] using res.extends_add _

end Resources

namespace Rule

variable (res : Resources)

theorem extends_buildOwnRoute (rule : String) (action : Json) :
    res.Extends (buildOwnRoute res rule action).2 := by
  rw [buildOwnRoute]
  split
  · exact .refl res
  · next d _ => exact res.extends_buildRoute (d.name.getD (rule ++ "_route")) d

theorem counter_build (name : String) (condition : Match) (action : Json) :
    (build res name condition action).1.counter = res.counters.size ∧
      (build res name condition action).2.counters.size = res.counters.size + 1 := by
  rw [build, ← counters_buildOwnRoute res name action]
  exact ⟨rfl, Array.size_push _⟩

theorem extends_build (name : String) (condition : Match) (action : Json) :
    res.Extends (build res name condition action).2 := by
  refine ⟨?_, get_build res name condition action,
    (extends_buildOwnRoute res name action).cluster⟩
  rw [(counter_build res name condition action).2]
  exact Nat.le_succ _

theorem counter_ofDefinition (d : RuleDefinition) :
    (ofDefinition res d).1.counter = res.counters.size ∧
      (ofDefinition res d).2.counters.size = res.counters.size + 1 := by
  rw [ofDefinition]
  split
  · exact counter_build res _ _ _
  · exact counter_build (res.nextName .rule).2 _ _ _

theorem extends_ofDefinition (d : RuleDefinition) : res.Extends (ofDefinition res d).2 := by
  rw [ofDefinition]
  split
  · exact extends_build res _ _ _
  · have h := extends_build (res.nextName .rule).2 (res.nextName .rule).1 d.condition d.action
    exact ⟨h.size, h.count, h.cluster⟩

end Rule

namespace RuleEntry

theorem extends_build (res : Resources) (r : RuleReference) : res.Extends (build res r).2 := by
  cases r with
  | named name => exact .refl res
  | inline d => exact Rule.extends_ofDefinition res d

theorem extends_buildAll (res : Resources) (rs : List RuleReference) :
    res.Extends (buildAll res rs).2 := by
  induction rs generalizing res with
  | nil => exact .refl res
  | cons r rest ih => exact (extends_build res r).trans (ih (build res r).2)

/-- A rule that was built for a list has a new count. -/
theorem counter_build {res : Resources} {r : RuleReference} {rule : Rule}
    (h : .inline rule = (build res r).1) :
    res.counters.Adds (build res r).2.counters rule.counter := by
  cases r with
  | named name => cases h
  | inline d =>
    obtain rfl : rule = (Rule.ofDefinition res d).1 := Reference.inline.inj h
    obtain ⟨hcounter, hsize⟩ := Rule.counter_ofDefinition res d
    rw [hcounter]
    refine ⟨Nat.le_refl _, ?_⟩
    show _ < (Rule.ofDefinition res d).2.counters.size
    omega

theorem counter_buildAll {res : Resources} {rs : List RuleReference} {rule : Rule}
    (h : .inline rule ∈ (buildAll res rs).1) :
    res.counters.Adds (buildAll res rs).2.counters rule.counter := by
  induction rs generalizing res with
  | nil => cases h
  | cons r rest ih =>
    rcases List.mem_cons.mp h with h | h
    · obtain ⟨hnew, hold⟩ := counter_build h
      exact ⟨hnew, Nat.lt_of_lt_of_le hold (extends_buildAll (build res r).2 rest).size⟩
    · obtain ⟨hnew, hold⟩ := ih h
      exact ⟨Nat.le_trans (extends_build res r).size hnew, hold⟩

end RuleEntry

/-! ### Everything that is registered -/

/-- One thing that is registered. -/
inductive Thing
  | rule (rule : Rule)
  | ruleList (list : RuleList)
  | route (route : Route)
  | cluster (id : ClusterId)
  | stage (stage : Stage)

namespace Snapshot

/-- What is registered under a name among the things of a kind. Sessions are not registered. -/
def thing? (s : Snapshot) (kind : EntityKind) (name : String) : Option Thing :=
  match kind with
  | .rule => (s.rule? name).map .rule
  | .ruleList => (s.ruleList? name).map .ruleList
  | .route => (s.route? name).map .route
  | .cluster => (s.cluster? name).map .cluster
  | .stage => (s.stage? name).map .stage
  | .session => none

/-- Rules and lists of rules are stored under their own names. -/
structure OwnNames (s : Snapshot) : Prop where
  rules : ∀ name rule, s.rule? name = some rule → rule.name = name
  ruleLists : ∀ name list, s.ruleList? name = some list → list.name = name

end Snapshot

namespace Admin

/-! ### Acts -/

/-- What an edit does to the thing `name` of a kind, while the counts grow from `cs` to `later`. -/
inductive Act (s : Snapshot) (cs later : Counters) : EntityKind → String → Snapshot → Prop
  /-- A new rule has a new count. -/
  | addRule (rule : Rule) (free : s.rule? rule.name = none)
      (new : cs.Adds later rule.counter) :
      Act s cs later .rule rule.name (s.putRule rule)
  /-- A new version goes on with the count of the old one. -/
  | updateRule (old rule : Rule) (there : s.rule? rule.name = some old)
      (counter : rule.counter = old.counter) :
      Act s cs later .rule rule.name (s.putRule rule)
  | dropRule (name : String) : Act s cs later .rule name (s.dropRule name)
  /-- The rules of the list's own were there before, or they have new counts. -/
  | putRuleList (list : RuleList)
      (own : ∀ rule, .inline rule ∈ list.entries →
        (∃ name old, s.ruleList? name = some old ∧ .inline rule ∈ old.entries) ∨
          cs.Adds later rule.counter) :
      Act s cs later .ruleList list.name (s.putRuleList list)
  | dropRuleList (name : String) : Act s cs later .ruleList name (s.dropRuleList name)
  | putRoute (route : Route) (sound : route.toDefinition.Sound) :
      Act s cs later .route route.name (s.putRoute route)
  | dropRoute (name : String) : Act s cs later .route name (s.dropRoute name)
  | putCluster (name : String) (id : ClusterId) :
      Act s cs later .cluster name (s.putCluster name id)
  | dropCluster (name : String) : Act s cs later .cluster name (s.dropCluster name)
  | putStage (stage : Stage) : Act s cs later .stage stage.name (s.putStage stage)
  | dropStage (name : String) : Act s cs later .stage name (s.dropStage name)

variable {s next : Snapshot} {cs later : Counters} {kind : EntityKind} {name : String}

/-- Everything but the thing that an act is about stays. -/
theorem Act.thing?_of_ne (h : Act s cs later kind name next) {k : EntityKind} {n : String}
    (hne : k = kind → n ≠ name) : next.thing? k n = s.thing? k n := by
  have hput {α : Type} {t : Table α} {key : String} (a : α) (hn : n ≠ key) :
      Table.find? (Table.insert t key a) n = Table.find? t n := Table.find?_insert_of_ne hn t a
  have hdrop {α : Type} {t : Table α} {key : String} (hn : n ≠ key) :
      Table.find? (Table.erase t key) n = Table.find? t n := Table.find?_erase_of_ne hn t
  -- things of other kinds are in other tables, and things of this kind have other keys
  cases h with
  | addRule rule => cases k with
    | rule => exact congrArg (Option.map Thing.rule) (hput rule (hne rfl))
    | _ => rfl
  | updateRule old rule => cases k with
    | rule => exact congrArg (Option.map Thing.rule) (hput rule (hne rfl))
    | _ => rfl
  | dropRule => cases k with
    | rule => exact congrArg (Option.map Thing.rule) (hdrop (hne rfl))
    | _ => rfl
  | putRuleList list => cases k with
    | ruleList => exact congrArg (Option.map Thing.ruleList) (hput list (hne rfl))
    | _ => rfl
  | dropRuleList => cases k with
    | ruleList => exact congrArg (Option.map Thing.ruleList) (hdrop (hne rfl))
    | _ => rfl
  | putRoute route => cases k with
    | route => exact congrArg (Option.map Thing.route) (hput route (hne rfl))
    | _ => rfl
  | dropRoute => cases k with
    | route => exact congrArg (Option.map Thing.route) (hdrop (hne rfl))
    | _ => rfl
  | putCluster name id => cases k with
    | cluster => exact congrArg (Option.map Thing.cluster) (hput id (hne rfl))
    | _ => rfl
  | dropCluster => cases k with
    | cluster => exact congrArg (Option.map Thing.cluster) (hdrop (hne rfl))
    | _ => rfl
  | putStage stage => cases k with
    | stage => exact congrArg (Option.map Thing.stage) (hput stage (hne rfl))
    | _ => rfl
  | dropStage => cases k with
    | stage => exact congrArg (Option.map Thing.stage) (hdrop (hne rfl))
    | _ => rfl

theorem isSome_map_find?_insert {α β : Type} (t : Table α) (key : String) (a : α) (f : α → β) :
    ((Table.find? (Table.insert t key a) key).map f).isSome = true := by
  rw [Table.find?_insert_self]
  rfl

/-- What an edit may come to that is about things of a kind. `adds` says whether it is to store
something new, and `given` is the name that it is addressed to, if there is one. -/
inductive Effect {α : Type} (adds : Bool) (kind : EntityKind) (given : Option String)
    (s : Snapshot) (res : Resources) : Except Fault (α × Snapshot) × Resources → Prop
  | refused (f : Fault) (later : Resources) (extended : res.Extends later) :
      Effect adds kind given s res (.error f, later)
  | done (answer : α) (next : Snapshot) (later : Resources) (name : String)
      (extended : res.Extends later) (addressed : ∀ n ∈ given, name = n)
      (act : Act s res.counters later.counters kind name next)
      (new : adds = true → s.thing? kind name = none ∧ (next.thing? kind name).isSome = true) :
      Effect adds kind given s res (.ok (answer, next), later)

/-- An edit that is about one thing. -/
def ActsOn {α : Type} (adds : Bool) (kind : EntityKind) (given : Option String)
    (edit : Edit α) : Prop :=
  ∀ (s : Snapshot) (res : Resources), s.OwnNames → Effect adds kind given s res (edit s res)

/-- What was used up before does no harm to what an edit comes to, as long as no count was added. -/
theorem Effect.after {α : Type} {adds : Bool} {given : Option String} {res res' : Resources}
    {r : Except Fault (α × Snapshot) × Resources} (h : Effect adds kind given s res' r)
    (extended : res.Extends res') (same : res'.counters = res.counters) :
    Effect adds kind given s res r := by
  cases h with
  | refused f later hlater => exact .refused f later (extended.trans hlater)
  | done answer next later name hlater addressed act new =>
    exact .done answer next later name (extended.trans hlater) addressed (same ▸ act) new

theorem decodeAs_of_ok {α : Type} {decode : Decoder α} {v : Json} {d : α} (kind : EntityKind)
    (h : decode v = .ok d) : decodeAs kind decode v = .ok d := by
  rw [decodeAs, h]
  rfl

/-- The name for something new is free, and it is the one that was asked for. -/
theorem chooseName_eq_ok {α : Type} {kind : EntityKind} {default : NameKind} {table : Table α}
    {given : Option String} {res later : Resources} {name : String}
    (h : chooseName kind default table given res = (.ok name, later)) :
    (∀ n ∈ given, name = n) ∧ Table.find? table name = none ∧
      res.Extends later ∧ later.counters = res.counters := by
  unfold chooseName at h
  split at h
  · next wished =>
    split at h
    · cases h
    · next hfree =>
      cases h
      refine ⟨fun n hn => Option.some.inj hn, ?_, .refl _, rfl⟩
      simpa [Table.has] using hfree
  · cases h
    refine ⟨fun _ hn => ?_, Table.find?_eq_none_iff.mpr (Names.nextFree_not_mem _ _ _),
      ⟨Nat.le_refl _, fun _ => rfl, fun _ _ h => h⟩, rfl⟩
    cases hn

theorem chooseName_eq_error {α : Type} {kind : EntityKind} {default : NameKind}
    {table : Table α} {given : Option String} {res later : Resources} {f : Fault}
    (h : chooseName kind default table given res = (.error f, later)) : later = res := by
  unfold chooseName at h
  split at h
  · split at h
    · cases h
      rfl
    · cases h
  · cases h

/-- The name that a definition gives, where it can be read. -/
def givenName {α : Type} (decode : Decoder α) (name : α → Option String) (v : Json) :
    Option String :=
  (decode v).toOption.bind name

theorem givenName_of_ok {α : Type} {decode : Decoder α} {name : α → Option String} {v : Json}
    {d : α} (h : decode v = .ok d) : givenName decode name v = name d := by
  rw [givenName, h]
  rfl

/-! ### Rules -/

theorem addRule_actsOn (strict : Bool) (v : Json) :
    ActsOn true .rule (givenName RuleDefinition.decode RuleDefinition.name v)
      (addRule strict v) := by
  intro s res _
  unfold addRule
  dsimp only
  split
  · exact .refused _ _ (.refl _)
  · next d hd =>
    obtain ⟨_, hdecode, hd⟩ := Except.bind_eq_ok.mp hd
    obtain ⟨_, -, hd⟩ := Except.bind_eq_ok.mp hd
    cases hd
    rw [givenName_of_ok (decodeAs_eq_ok hdecode)]
    split
    · next hname =>
      rw [chooseName_eq_error hname]
      exact .refused _ _ (.refl _)
    · next name later hname =>
      obtain ⟨haddressed, hfree, hextended, hsame⟩ := chooseName_eq_ok hname
      -- a default name is used up before the rule is built
      have hcounter := Rule.counter_build later name d.condition d.action
      refine Effect.after ?_ hextended hsame
      refine .done _ _ _ name (Rule.extends_build later name d.condition d.action) haddressed
        (.addRule (Rule.build later name d.condition d.action).1 hfree ?_) fun _ => ⟨?_, ?_⟩
      · rw [Counters.Adds, hcounter.1, hcounter.2]
        omega
      · exact Option.map_eq_none_iff.mpr hfree
      · exact isSome_map_find?_insert ..

theorem storeRule_actsOn (strict : Bool) (name : String) (d : RuleDefinition) :
    ActsOn false .rule (some name) (storeRule strict name d) := by
  intro s res own
  unfold storeRule
  dsimp only
  split
  · exact .refused _ _ (.refl _)
  · next current hcurrent =>
    obtain ⟨_, -, hcurrent⟩ := Except.bind_eq_ok.mp hcurrent
    obtain ⟨_, -, hcurrent⟩ := Except.bind_eq_ok.mp hcurrent
    have hthere : s.rule? name = some current := by
      cases hrule : s.rule? name with
      | none =>
        rw [hrule] at hcurrent
        cases hcurrent
      | some rule =>
        rw [hrule] at hcurrent
        cases hcurrent
        rfl
    -- the new version gets the name of the old one, not the one that was asked for
    have hname : current.name = name := own.rules name current hthere
    have hown : s.rule? (Rule.updated res current d).1.name = some current := by
      show s.rule? current.name = some current
      rw [hname, hthere]
    refine .done _ _ _ _ (Rule.extends_buildOwnRoute res current.name d.action) ?_
      (.updateRule current _ hown rfl) nofun
    intro n hn
    cases hn
    exact hname

theorem updateRule_actsOn (strict : Bool) (name : String) (v : Json) :
    ActsOn false .rule (some name) (updateRule strict name v) := by
  intro s res own
  unfold updateRule
  split
  · exact .refused _ _ (.refl _)
  · next d _ => exact storeRule_actsOn strict name d s res own

theorem deleteRule_actsOn (name : String) : ActsOn false .rule (some name) (deleteRule name) := by
  intro s res _
  unfold deleteRule
  split
  · exact .refused _ _ (.refl _)
  · split
    · exact .refused _ _ (.refl _)
    · exact .done _ _ _ name (.refl _) (fun n hn => Option.some.inj hn) (.dropRule name) nofun

/-! ### Lists of rules -/

/-- What is built under a name is a list with new rules of its own. -/
theorem buildRuleList_actsOn (strict : Bool) (name : String) (d : RuleListDefinition)
    {adds : Bool} {given : Option String} (addressed : ∀ n ∈ given, name = n) (s : Snapshot)
    (res : Resources) (free : adds = true → s.ruleList? name = none) :
    Effect adds .ruleList given s res (buildRuleList strict name d s res) := by
  have hextended : res.Extends (RuleList.build res name d).2 :=
    RuleEntry.extends_buildAll res d.rules
  unfold buildRuleList
  dsimp only
  split
  · exact .refused _ _ hextended
  · refine .done _ _ _ name hextended addressed (.putRuleList (RuleList.build res name d).1
      fun rule hrule => .inr (RuleEntry.counter_buildAll hrule)) fun hadds => ⟨?_, ?_⟩
    · exact Option.map_eq_none_iff.mpr (free hadds)
    · exact isSome_map_find?_insert ..

theorem addRuleList_actsOn (strict : Bool) (v : Json) :
    ActsOn true .ruleList (givenName RuleListDefinition.decode RuleListDefinition.name v)
      (addRuleList strict v) := by
  intro s res _
  unfold addRuleList
  split
  · exact .refused _ _ (.refl _)
  · next d hdecode =>
    rw [givenName_of_ok (decodeAs_eq_ok hdecode)]
    split
    · next hname =>
      rw [chooseName_eq_error hname]
      exact .refused _ _ (.refl _)
    · next name later hname =>
      obtain ⟨haddressed, hfree, hextended, hsame⟩ := chooseName_eq_ok hname
      exact (buildRuleList_actsOn strict name d haddressed s later fun _ => hfree).after
        hextended hsame

theorem storeRuleList_actsOn (strict : Bool) (name : String) (d : RuleListDefinition) :
    ActsOn false .ruleList (some name) (storeRuleList strict name d) := by
  intro s res _
  unfold storeRuleList
  dsimp only
  split
  · exact .refused _ _ (.refl _)
  · exact buildRuleList_actsOn strict name d (fun n hn => Option.some.inj hn) s res nofun

theorem updateRuleList_actsOn (strict : Bool) (name : String) (v : Json) :
    ActsOn false .ruleList (some name) (updateRuleList strict name v) := by
  intro s res own
  unfold updateRuleList
  split
  · exact .refused _ _ (.refl _)
  · next d _ => exact storeRuleList_actsOn strict name d s res own

theorem deleteRuleList_actsOn (name : String) :
    ActsOn false .ruleList (some name) (deleteRuleList name) := by
  intro s res _
  unfold deleteRuleList
  split
  · exact .refused _ _ (.refl _)
  · exact .done _ _ _ name (.refl _) (fun n hn => Option.some.inj hn) (.dropRuleList name) nofun

theorem insertEntry_actsOn (strict : Bool) (name : String) (position : Nat) (v : Json) :
    ActsOn false .ruleList (some name) (insertEntry strict name position v) := by
  intro s res own
  unfold insertEntry
  dsimp only
  split
  · exact .refused _ _ (.refl _)
  · next reference list hfound =>
    obtain ⟨_, -, hfound⟩ := Except.bind_eq_ok.mp hfound
    obtain ⟨_, hlist, hfound⟩ := Except.bind_eq_ok.mp hfound
    cases hfound
    have hthere : s.ruleList? name = some list := ruleListOf_eq_ok.mp hlist
    have hextended := RuleEntry.extends_build res reference
    split
    · exact .refused _ _ hextended
    · next next hnext =>
      obtain rfl := eq_of_inserted? hnext
      split
      · exact .refused _ _ hextended
      · refine .done _ _ _ list.name hextended ?_ (.putRuleList
          { list with entries := list.entries.insertIdx position (RuleEntry.build res reference).1 }
          fun rule hrule => ?_) nofun
        · intro n hn
          cases hn
          exact own.ruleLists name list hthere
        · rcases List.eq_or_mem_of_mem_insertIdx hrule with hnew | hold
          · exact .inr (RuleEntry.counter_build hnew)
          · exact .inl ⟨name, list, hthere, hold⟩

theorem deleteEntry_actsOn (name : String) (position : Nat) :
    ActsOn false .ruleList (some name) (deleteEntry name position) := by
  intro s res own
  unfold deleteEntry
  dsimp only
  split
  · exact .refused _ _ (.refl _)
  · next list entry hfound =>
    obtain ⟨_, hlist, hfound⟩ := Except.bind_eq_ok.mp hfound
    obtain ⟨_, -, hfound⟩ := Except.bind_eq_ok.mp hfound
    cases hfound
    have hthere : s.ruleList? name = some list := ruleListOf_eq_ok.mp hlist
    split
    · exact .refused _ _ (.refl _)
    · next next hnext =>
      refine .done _ _ _ next.name (.refl _) ?_ (.putRuleList next fun rule hrule =>
        .inl ⟨name, list, hthere, mem_of_mem_removed? hnext hrule⟩) nofun
      intro n hn
      cases hn
      rw [eq_of_removed? hnext]
      exact own.ruleLists name list hthere

/-! ### Routes -/

theorem buildRoute_actsOn (strict : Bool) (name : String) {d : RouteDefinition} (sound : d.Sound)
    {adds : Bool} {given : Option String} (addressed : ∀ n ∈ given, name = n) (s : Snapshot)
    (res : Resources) (free : adds = true → s.route? name = none) :
    Effect adds .route given s res (buildRoute strict name d s res) := by
  have hextended := res.extends_buildRoute name d
  unfold buildRoute
  dsimp only
  split
  · exact .refused _ _ hextended
  · refine .done _ _ _ name hextended addressed (.putRoute (res.buildRoute name d).1 ?_)
      fun hadds => ⟨?_, ?_⟩
    · show (Route.build res.clusters name d).1.toDefinition.Sound
      rw [Route.toDefinition_build]
      exact ⟨sound.destination, sound.ingress, sound.retry⟩
    · exact Option.map_eq_none_iff.mpr (free hadds)
    · exact isSome_map_find?_insert ..

theorem addRoute_actsOn (strict : Bool) (v : Json) :
    ActsOn true .route (givenName RouteDefinition.decode RouteDefinition.name v)
      (addRoute strict v) := by
  intro s res _
  unfold addRoute
  split
  · exact .refused _ _ (.refl _)
  · next d hdecode =>
    rw [givenName_of_ok (decodeAs_eq_ok hdecode)]
    split
    · next hname =>
      rw [chooseName_eq_error hname]
      exact .refused _ _ (.refl _)
    · next name later hname =>
      obtain ⟨haddressed, hfree, hextended, hsame⟩ := chooseName_eq_ok hname
      have hsound := RouteDefinition.sound_of_decode (decodeAs_eq_ok hdecode)
      exact (buildRoute_actsOn strict name hsound haddressed s later fun _ => hfree).after
        hextended hsame

theorem storeRoute_actsOn (strict : Bool) (name : String) {d : RouteDefinition} (sound : d.Sound) :
    ActsOn false .route (some name) (storeRoute strict name d) := by
  intro s res _
  unfold storeRoute
  split
  · exact .refused _ _ (.refl _)
  · split
    · exact .refused _ _ (.refl _)
    · exact buildRoute_actsOn strict name sound (fun n hn => Option.some.inj hn) s res nofun

theorem updateRoute_actsOn (strict : Bool) (name : String) (v : Json) :
    ActsOn false .route (some name) (updateRoute strict name v) := by
  intro s res own
  unfold updateRoute
  split
  · exact .refused _ _ (.refl _)
  · next d hdecode =>
    exact storeRoute_actsOn strict name
      (RouteDefinition.sound_of_decode (decodeAs_eq_ok hdecode)) s res own

theorem deleteRoute_actsOn (name : String) :
    ActsOn false .route (some name) (deleteRoute name) := by
  intro s res _
  unfold deleteRoute
  split
  · exact .refused _ _ (.refl _)
  · exact .done _ _ _ name (.refl _) (fun n hn => Option.some.inj hn) (.dropRoute name) nofun

/-! ### Clusters and stages -/

theorem buildCluster_actsOn (time : Nat) (d : ClusterDefinition) {adds : Bool}
    {given : Option String} (addressed : ∀ n ∈ given, d.name = n) (s : Snapshot) (res : Resources)
    (free : adds = true → s.cluster? d.name = none) :
    Effect adds .cluster given s res (buildCluster time d s res) := by
  refine .done _ _ _ d.name (res.extends_add (.build d)) addressed
    (.putCluster d.name (res.clusters.add (.build d)).1) fun hadds => ⟨?_, ?_⟩
  · exact Option.map_eq_none_iff.mpr (free hadds)
  · exact isSome_map_find?_insert ..

theorem addCluster_actsOn (time : Nat) (v : Json) :
    ActsOn true .cluster (givenName (ClusterDefinition.decode false) (fun d => some d.name) v)
      (addCluster time v) := by
  intro s res _
  unfold addCluster
  split
  · exact .refused _ _ (.refl _)
  · next d hdecode =>
    rw [givenName_of_ok (decodeAs_eq_ok hdecode)]
    split
    · exact .refused _ _ (.refl _)
    · next hfree =>
      refine buildCluster_actsOn time d (fun n hn => Option.some.inj hn) s res fun _ => ?_
      simpa [Table.has, Snapshot.cluster?] using hfree

theorem storeCluster_actsOn (time : Nat) (name : String) (d : ClusterDefinition) :
    ActsOn false .cluster (some name) (storeCluster time name d) := by
  intro s res _
  unfold storeCluster
  split
  · exact .refused _ _ (.refl _)
  · next hcheck =>
    refine buildCluster_actsOn time d (fun n hn => ?_) s res nofun
    cases hn
    rw [checkName] at hcheck
    split at hcheck
    · assumption
    · cases hcheck

theorem deleteCluster_actsOn (time : Nat) (name : String) :
    ActsOn false .cluster (some name) (deleteCluster time name) := by
  intro s res _
  unfold deleteCluster
  split
  · exact .refused _ _ (.refl _)
  · split
    · exact .refused _ _ (.refl _)
    · exact .done _ _ _ name (.refl _) (fun n hn => Option.some.inj hn) (.dropCluster name) nofun

theorem addStage_actsOn (stage : Stage) :
    ActsOn true .stage (some stage.name) (addStage stage) := by
  intro s res _
  unfold addStage
  split
  · exact .refused _ _ (.refl _)
  · next hfree =>
    refine .done _ _ _ stage.name (.refl _) (fun n hn => Option.some.inj hn) (.putStage stage)
      fun _ => ⟨Option.map_eq_none_iff.mpr ?_, isSome_map_find?_insert ..⟩
    simpa [Table.has, Snapshot.stage?] using hfree

theorem deleteStage_actsOn (name : String) :
    ActsOn false .stage (some name) (deleteStage name) := by
  intro s res _
  unfold deleteStage
  split
  · exact .refused _ _ (.refl _)
  · split
    · exact .refused _ _ (.refl _)
    · exact .done _ _ _ name (.refl _) (fun n hn => Option.some.inj hn) (.dropStage name) nofun

/-! ### Edits at paths -/

theorem storeDefinition_actsOn (strict : Bool) (time : Nat) (kind : EntityKind) (name : String)
    (doc : Json) : ActsOn false kind (some name) (storeDefinition strict time kind name doc) := by
  intro s res own
  cases kind with
  | rule => exact updateRule_actsOn strict name doc s res own
  | ruleList => exact updateRuleList_actsOn strict name doc s res own
  | route => exact updateRoute_actsOn strict name doc s res own
  | cluster =>
    unfold storeDefinition
    dsimp only
    split
    · exact .refused _ _ (.refl _)
    · exact storeCluster_actsOn time name _ s res own
  | stage => exact .refused _ _ (.refl _)
  | session => exact .refused _ _ (.refl _)

theorem editDefinition_actsOn (strict : Bool) (time : Nat) (kind : EntityKind)
    (name path : String) (change : PathEdit) :
    ActsOn false kind (some name) (editDefinition strict time kind name path change) := by
  intro s res own
  unfold editDefinition
  dsimp only
  split
  · exact .refused _ _ (.refl _)
  · exact storeDefinition_actsOn strict time kind name _ s res own

end Admin

end Switchboard

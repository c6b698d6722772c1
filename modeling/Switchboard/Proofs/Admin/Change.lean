/-
What administrative edits do to a snapshot.

An edit that succeeds stores or takes out one thing, and has checked it first. `Change` lists the
ways with what was checked in each, and how rules came about. There is one lemma for each edit, and
whoever wants to know what edits keep has the cases of `Change` to look at and no edit.

* `Change`: what a successful edit does;
* `Change.rule_origin`: where the rules come from that are there after a change;
* `Lawful`: an edit that does nothing else, and takes no cluster out of the pool;
* `addRule_lawful`, …, `editDefinition_lawful`: all edits are lawful;
* `Proxy.update_eq_ok`: what is there after an edit that succeeds.
-/
import Mathlib.Data.List.InsertIdx
import Switchboard.Admin.Paths
import Switchboard.Proofs.Routing.Pool
import Switchboard.Proofs.Routing.Rule

namespace Switchboard

/-! ### Checks -/

namespace Admin

theorem checkAll_eq_ok {α : Type} {check : α → Except Fault Unit} {as : List α} :
    checkAll check as = .ok () ↔ ∀ a ∈ as, check a = .ok () := by
  induction as with
  | nil => simp [checkAll]
  | cons a rest ih =>
    rw [checkAll, List.forall_mem_cons, ← ih]
    cases hcheck : check a with
    | ok _ => simp
    | error f => simp

theorem checkRuleList_eq_ok {strict : Bool} {s : Snapshot} {list : RuleList} :
    checkRuleList strict s list = .ok () ↔
      ∀ entry ∈ list.entries, checkEntry strict s entry = .ok () :=
  checkAll_eq_ok

theorem checkRoute_eq_ok {strict : Bool} {s : Snapshot} {route : Route} :
    checkRoute strict s route = .ok () ↔
      checkDestination s route.destination = .ok () ∧
        ∀ stage ∈ route.ingress, checkStage strict s stage = .ok () := by
  rw [checkRoute, ← checkAll_eq_ok]
  cases hcheck : checkDestination s route.destination with
  | ok _ => simp
  | error f => simp

theorem decodeAs_eq_ok {α : Type} {kind : EntityKind} {decode : Decoder α} {v : Json} {a : α}
    (h : decodeAs kind decode v = .ok a) : decode v = .ok a := by
  unfold decodeAs at h
  cases hdecode : decode v with
  | ok b =>
    rw [hdecode] at h
    cases h
    rfl
  | error f =>
    rw [hdecode] at h
    cases h

theorem ruleListOf_eq_ok {s : Snapshot} {name : String} {list : RuleList} :
    ruleListOf s name = .ok list ↔ s.ruleList? name = some list := by
  unfold ruleListOf
  cases s.ruleList? name with
  | some found => simp
  | none => simp

theorem eq_of_inserted? {list next : RuleList} {position : Nat} {entry : RuleEntry}
    (h : list.inserted? position entry = some next) :
    next = { list with entries := list.entries.insertIdx position entry } := by
  unfold RuleList.inserted? at h
  split at h
  · exact (Option.some.inj h).symm
  · cases h

theorem eq_of_removed? {list next : RuleList} {position : Nat}
    (h : list.removed? position = some next) :
    next = { list with entries := list.entries.eraseIdx position } := by
  unfold RuleList.removed? at h
  split at h
  · exact (Option.some.inj h).symm
  · cases h

/-- A list that loses an entry gets no other one for it. -/
theorem mem_of_mem_removed? {list next : RuleList} {position : Nat}
    (h : list.removed? position = some next) {entry : RuleEntry} (hentry : entry ∈ next.entries) :
    entry ∈ list.entries := by
  rw [eq_of_removed? h] at hentry
  exact List.mem_of_mem_eraseIdx hentry

/-! ### Changes -/

/-- What a successful edit does to the snapshot `s`. `pool` holds the clusters after the edit. -/
inductive Change (strict : Bool) (pool : ClusterPool) (s : Snapshot) : Snapshot → Prop
  /-- A new rule, or a new version of one. -/
  | rule (r : Rule) (checked : checkMatch strict .rule r.condition = .ok ()) (built : r.Built)
      (pooled : r.Pooled pool) : Change strict pool s (s.putRule r)
  | ruleDropped (name : String)
      (unused : (Table.values s.ruleLists).find? (·.references name) = none) :
      Change strict pool s (s.dropRule name)
  /-- A list with rules of its own that are new or were there before. -/
  | ruleList (list : RuleList) (checked : checkRuleList strict s list = .ok ())
      (built : ∀ rule, .inline rule ∈ list.entries →
        rule.Built ∧ rule.Pooled pool ∨ rule ∈ s.allRules) :
      Change strict pool s (s.putRuleList list)
  | ruleListDropped (name : String) : Change strict pool s (s.dropRuleList name)
  /-- A list that loses an entry is not checked again. -/
  | entryDropped (name : String) (list next : RuleList) (position : Nat)
      (there : s.ruleList? name = some list) (shorter : list.removed? position = some next) :
      Change strict pool s (s.putRuleList next)
  | route (r : Route) (checked : checkRoute strict s r = .ok ()) (pooled : r.Pooled pool) :
      Change strict pool s (s.putRoute r)
  | routeDropped (name : String) : Change strict pool s (s.dropRoute name)
  | cluster (id : ClusterId) (c : Cluster) (there : pool.get? id = some c) :
      Change strict pool s (s.putCluster c.name id)
  | clusterDropped (name : String)
      (unused : user? s (·.usesCluster name) (·.usesCluster name) = none) :
      Change strict pool s (s.dropCluster name)
  | stage (stage : Stage) : Change strict pool s (s.putStage stage)
  | stageDropped (name : String)
      (unused : user? s (·.usesStage name) (·.usesStage name) = none) :
      Change strict pool s (s.dropStage name)

/-- A rule that is there after a change was there before, or it is new and has been checked. -/
theorem Change.rule_origin {strict : Bool} {pool : ClusterPool} {s next : Snapshot}
    (h : Change strict pool s next) {rule : Rule} (there : rule ∈ next.allRules) :
    rule ∈ s.allRules ∨ rule.Built ∧ rule.Pooled pool ∧
      ∃ kind, checkMatch strict kind rule.condition = .ok () := by
  rw [Snapshot.mem_allRules] at there ⊢
  cases h with
  | rule r checked built pooled =>
    rcases there with ⟨e, he, rfl⟩ | own
    · rcases Table.mem_insert he with rfl | he
      · exact .inr ⟨built, pooled, _, checked⟩
      · exact .inl (.inl ⟨e, he, rfl⟩)
    · exact .inl (.inr own)
  | ruleDropped name unused =>
    rcases there with ⟨e, he, rfl⟩ | own
    · exact .inl (.inl ⟨e, Table.mem_of_mem_erase he, rfl⟩)
    · exact .inl (.inr own)
  | ruleList list checked built =>
    rcases there with registered | ⟨e, he, entry⟩
    · exact .inl (.inl registered)
    · rcases Table.mem_insert he with rfl | he
      · rcases built rule entry with ⟨hbuilt, hpooled⟩ | hold
        · exact .inr ⟨hbuilt, hpooled, _, checkRuleList_eq_ok.mp checked _ entry⟩
        · exact .inl (Snapshot.mem_allRules.mp hold)
      · exact .inl (.inr ⟨e, he, entry⟩)
  | ruleListDropped name =>
    rcases there with registered | ⟨e, he, entry⟩
    · exact .inl (.inl registered)
    · exact .inl (.inr ⟨e, Table.mem_of_mem_erase he, entry⟩)
  | entryDropped name list shorterList position found shorter =>
    rcases there with registered | ⟨e, he, entry⟩
    · exact .inl (.inl registered)
    · rcases Table.mem_insert he with rfl | he
      · exact .inl (.inr ⟨_, Table.mem_of_find? found, mem_of_mem_removed? shorter entry⟩)
      · exact .inl (.inr ⟨e, he, entry⟩)
  | _ => exact .inl there

/-- What an edit may come to: it takes no cluster out of the pool and, if it succeeds, makes a
change. -/
inductive Edited {α : Type} (strict : Bool) (s : Snapshot) (res : Resources) :
    Except Fault (α × Snapshot) × Resources → Prop
  | refused (f : Fault) (later : Resources) (grows : res.clusters.Grows later.clusters) :
      Edited strict s res (.error f, later)
  | done (answer : α) (next : Snapshot) (later : Resources)
      (grows : res.clusters.Grows later.clusters)
      (change : Change strict later.clusters s next) :
      Edited strict s res (.ok (answer, next), later)

/-- An edit that changes nothing in other ways than those of `Change`. -/
def Lawful {α : Type} (strict : Bool) (edit : Edit α) : Prop :=
  ∀ (s : Snapshot) (res : Resources), Edited strict s res (edit s res)

/-- What an edit comes to does not depend on clusters that were added before. -/
theorem Edited.after {α : Type} {strict : Bool} {s : Snapshot} {res res' : Resources}
    {r : Except Fault (α × Snapshot) × Resources} (h : Edited strict s res' r)
    (grows : res.clusters.Grows res'.clusters) : Edited strict s res r := by
  cases h with
  | refused f later hg => exact .refused f later (grows.trans hg)
  | done answer next later hg hc => exact .done answer next later (grows.trans hg) hc

theorem chooseName_grows {α : Type} {kind : EntityKind} {default : NameKind} {table : Table α}
    {given : Option String} {res later : Resources} {name : Except Fault String}
    (h : chooseName kind default table given res = (name, later)) :
    res.clusters.Grows later.clusters := by
  unfold chooseName at h
  split at h
  · split at h <;> cases h <;> exact .refl _
  · cases h
    exact .refl _

/-! ### Rules -/

theorem addRule_lawful (strict : Bool) (v : Json) : Lawful strict (addRule strict v) := by
  intro s res
  unfold addRule
  dsimp only
  split
  · exact .refused _ _ (.refl _)
  · next d hd =>
    obtain ⟨d', hdecode, hd⟩ := Except.bind_eq_ok.mp hd
    obtain ⟨_, hcheck, hd⟩ := Except.bind_eq_ok.mp hd
    cases hd
    have hwritten := RuleDefinition.written_of_decode (decodeAs_eq_ok hdecode)
    split
    · next hname => exact .refused _ _ (chooseName_grows hname)
    · next name later hname =>
      refine .done _ _ _ ((chooseName_grows hname).trans (Rule.build_grows later name _ _)) ?_
      exact .rule _ hcheck (Rule.built_build later name hwritten _) (Rule.pooled_build later name _ _)

theorem storeRule_lawful (strict : Bool) (name : String) {d : RuleDefinition}
    (h : d.condition.Written) : Lawful strict (storeRule strict name d) := by
  intro s res
  unfold storeRule
  dsimp only
  split
  · exact .refused _ _ (.refl _)
  · next current hcurrent =>
    obtain ⟨_, -, hcurrent⟩ := Except.bind_eq_ok.mp hcurrent
    obtain ⟨_, hcheck, _⟩ := Except.bind_eq_ok.mp hcurrent
    exact .done _ _ _ (Rule.updated_grows res current d)
      (.rule _ hcheck (Rule.built_updated res current h) (Rule.pooled_updated res current d))

theorem updateRule_lawful (strict : Bool) (name : String) (v : Json) :
    Lawful strict (updateRule strict name v) := by
  intro s res
  unfold updateRule
  split
  · exact .refused _ _ (.refl _)
  · next d hdecode =>
    have hwritten := RuleDefinition.written_of_decode (decodeAs_eq_ok hdecode)
    exact storeRule_lawful strict name hwritten s res

theorem deleteRule_lawful (strict : Bool) (name : String) : Lawful strict (deleteRule name) := by
  intro s res
  unfold deleteRule
  split
  · exact .refused _ _ (.refl _)
  · next hunused =>
    split
    · exact .refused _ _ (.refl _)
    · exact .done _ _ _ (.refl _) (.ruleDropped name hunused)

/-! ### Lists of rules -/

/-- A list that is built is stored. -/
theorem buildRuleList_eq_ok {strict : Bool} {name : String} {d : RuleListDefinition}
    {s next : Snapshot} {res later : Resources} {answer : Json}
    (h : buildRuleList strict name d s res = (.ok (answer, next), later)) :
    next = s.putRuleList (RuleList.build res name d).1 ∧
      later = (RuleList.build res name d).2 := by
  unfold buildRuleList at h
  dsimp only at h
  split at h
  · cases h
  · cases h
    exact ⟨rfl, rfl⟩

theorem buildRuleList_lawful (strict : Bool) (name : String) {d : RuleListDefinition}
    (h : ∀ rule, .inline rule ∈ d.rules → rule.condition.Written) :
    Lawful strict (buildRuleList strict name d) := by
  intro s res
  have hgrows := RuleList.build_grows res name d
  unfold buildRuleList
  dsimp only
  split
  · exact .refused _ _ hgrows
  · next hcheck =>
    exact .done _ _ _ hgrows (.ruleList _ hcheck fun _ hrule =>
      .inl ⟨RuleEntry.built_buildAll res h hrule, RuleEntry.pooled_buildAll res hrule⟩)

theorem addRuleList_lawful (strict : Bool) (v : Json) : Lawful strict (addRuleList strict v) := by
  intro s res
  unfold addRuleList
  split
  · exact .refused _ _ (.refl _)
  · next d hdecode =>
    have hwritten := RuleListDefinition.written_of_decode (decodeAs_eq_ok hdecode)
    split
    · next hname => exact .refused _ _ (chooseName_grows hname)
    · next name later hname =>
      exact (buildRuleList_lawful strict name hwritten s later).after (chooseName_grows hname)

theorem storeRuleList_lawful (strict : Bool) (name : String) {d : RuleListDefinition}
    (h : ∀ rule, .inline rule ∈ d.rules → rule.condition.Written) :
    Lawful strict (storeRuleList strict name d) := by
  intro s res
  unfold storeRuleList
  dsimp only
  split
  · exact .refused _ _ (.refl _)
  · exact buildRuleList_lawful strict name h s res

theorem updateRuleList_lawful (strict : Bool) (name : String) (v : Json) :
    Lawful strict (updateRuleList strict name v) := by
  intro s res
  unfold updateRuleList
  split
  · exact .refused _ _ (.refl _)
  · next d hdecode =>
    have hwritten := RuleListDefinition.written_of_decode (decodeAs_eq_ok hdecode)
    exact storeRuleList_lawful strict name hwritten s res

theorem deleteRuleList_lawful (strict : Bool) (name : String) :
    Lawful strict (deleteRuleList name) := by
  intro s res
  unfold deleteRuleList
  split
  · exact .refused _ _ (.refl _)
  · exact .done _ _ _ (.refl _) (.ruleListDropped name)

theorem insertEntry_lawful (strict : Bool) (name : String) (position : Nat) (v : Json) :
    Lawful strict (insertEntry strict name position v) := by
  intro s res
  unfold insertEntry
  dsimp only
  split
  · exact .refused _ _ (.refl _)
  · next reference list hfound =>
    obtain ⟨_, hdecode, hfound⟩ := Except.bind_eq_ok.mp hfound
    obtain ⟨_, hlist, hfound⟩ := Except.bind_eq_ok.mp hfound
    cases hfound
    have hgrows := RuleEntry.build_grows res reference
    split
    · exact .refused _ _ hgrows
    · next next hnext =>
      split
      · exact .refused _ _ hgrows
      · next hcheck =>
        refine .done _ _ _ hgrows (.ruleList _ hcheck fun rule hrule => ?_)
        rw [eq_of_inserted? hnext] at hrule
        rcases List.eq_or_mem_of_mem_insertIdx hrule with hnew | hold
        · refine .inl ⟨RuleEntry.built_build res (fun d hd => ?_) hnew,
            RuleEntry.pooled_build res hnew⟩
          exact RuleReference.written_of_decode (hd ▸ decodeAs_eq_ok hdecode)
        · exact .inr (Snapshot.inline_mem_allRules (ruleListOf_eq_ok.mp hlist) hold)

theorem deleteEntry_lawful (strict : Bool) (name : String) (position : Nat) :
    Lawful strict (deleteEntry name position) := by
  intro s res
  unfold deleteEntry
  dsimp only
  split
  · exact .refused _ _ (.refl _)
  · next list entry hfound =>
    obtain ⟨list', hlist, hfound⟩ := Except.bind_eq_ok.mp hfound
    obtain ⟨_, -, hfound⟩ := Except.bind_eq_ok.mp hfound
    cases hfound
    have hthere : s.ruleList? name = some list := ruleListOf_eq_ok.mp hlist
    split
    · exact .refused _ _ (.refl _)
    · next next hnext =>
      exact .done _ _ _ (.refl _) (.entryDropped name list next position hthere hnext)

/-! ### Routes -/

theorem buildRoute_lawful (strict : Bool) (name : String) (d : RouteDefinition) :
    Lawful strict (buildRoute strict name d) := by
  intro s res
  have hgrows := res.buildRoute_grows name d
  unfold buildRoute
  dsimp only
  split
  · exact .refused _ _ hgrows
  · next hcheck =>
    exact .done _ _ _ hgrows (.route _ hcheck (res.pooled_buildRoute name d))

theorem addRoute_lawful (strict : Bool) (v : Json) : Lawful strict (addRoute strict v) := by
  intro s res
  unfold addRoute
  split
  · exact .refused _ _ (.refl _)
  · split
    · next hname => exact .refused _ _ (chooseName_grows hname)
    · next name later hname =>
      exact (buildRoute_lawful strict name _ s later).after (chooseName_grows hname)

theorem storeRoute_lawful (strict : Bool) (name : String) (d : RouteDefinition) :
    Lawful strict (storeRoute strict name d) := by
  intro s res
  unfold storeRoute
  split
  · exact .refused _ _ (.refl _)
  · split
    · exact .refused _ _ (.refl _)
    · exact buildRoute_lawful strict name d s res

theorem updateRoute_lawful (strict : Bool) (name : String) (v : Json) :
    Lawful strict (updateRoute strict name v) := by
  intro s res
  unfold updateRoute
  split
  · exact .refused _ _ (.refl _)
  · next d _ => exact storeRoute_lawful strict name d s res

theorem deleteRoute_lawful (strict : Bool) (name : String) :
    Lawful strict (deleteRoute name) := by
  intro s res
  unfold deleteRoute
  split
  · exact .refused _ _ (.refl _)
  · exact .done _ _ _ (.refl _) (.routeDropped name)

/-! ### Clusters and stages -/

theorem buildCluster_lawful (strict : Bool) (time : Nat) (d : ClusterDefinition) :
    Lawful strict (buildCluster time d) := by
  intro s res
  have hname : (Cluster.build d).name = d.name := by
    unfold Cluster.build
    split <;> rfl
  refine .done _ _ _ (res.clusters.grows_add (.build d)) ?_
  exact hname ▸ .cluster _ _ (res.clusters.get?_add_self (.build d))

theorem addCluster_lawful (strict : Bool) (time : Nat) (v : Json) :
    Lawful strict (addCluster time v) := by
  intro s res
  unfold addCluster
  split
  · exact .refused _ _ (.refl _)
  · split
    · exact .refused _ _ (.refl _)
    · exact buildCluster_lawful strict time _ s res

theorem storeCluster_lawful (strict : Bool) (time : Nat) (name : String)
    (d : ClusterDefinition) : Lawful strict (storeCluster time name d) := by
  intro s res
  unfold storeCluster
  split
  · exact .refused _ _ (.refl _)
  · exact buildCluster_lawful strict time d s res

theorem deleteCluster_lawful (strict : Bool) (time : Nat) (name : String) :
    Lawful strict (deleteCluster time name) := by
  intro s res
  unfold deleteCluster
  split
  · exact .refused _ _ (.refl _)
  · next hunused =>
    split
    · exact .refused _ _ (.refl _)
    · exact .done _ _ _ (.refl _) (.clusterDropped name hunused)

theorem addStage_lawful (strict : Bool) (stage : Stage) : Lawful strict (addStage stage) := by
  intro s res
  unfold addStage
  split
  · exact .refused _ _ (.refl _)
  · exact .done _ _ _ (.refl _) (.stage stage)

theorem deleteStage_lawful (strict : Bool) (name : String) :
    Lawful strict (deleteStage name) := by
  intro s res
  unfold deleteStage
  split
  · exact .refused _ _ (.refl _)
  · next hunused =>
    split
    · exact .refused _ _ (.refl _)
    · exact .done _ _ _ (.refl _) (.stageDropped name hunused)

/-! ### Edits at paths -/

theorem storeDefinition_lawful (strict : Bool) (time : Nat) (kind : EntityKind) (name : String)
    (doc : Json) : Lawful strict (storeDefinition strict time kind name doc) := by
  intro s res
  cases kind with
  | rule => exact updateRule_lawful strict name doc s res
  | ruleList => exact updateRuleList_lawful strict name doc s res
  | route => exact updateRoute_lawful strict name doc s res
  | cluster =>
    unfold storeDefinition
    dsimp only
    split
    · exact .refused _ _ (.refl _)
    · exact storeCluster_lawful strict time name _ s res
  | stage => exact .refused _ _ (.refl _)
  | session => exact .refused _ _ (.refl _)

theorem editDefinition_lawful (strict : Bool) (time : Nat) (kind : EntityKind)
    (name path : String) (change : PathEdit) :
    Lawful strict (editDefinition strict time kind name path change) := by
  intro s res
  unfold editDefinition
  dsimp only
  split
  · exact .refused _ _ (.refl _)
  · exact storeDefinition_lawful strict time kind name _ s res

end Admin

theorem Proxy.update_eq_ok {α : Type} {p q : Proxy} {edit : Admin.Edit α} {answer : α}
    (h : p.update edit = (.ok answer, q)) :
    ∃ next later, edit p.registry.current p.registry.resources = (.ok (answer, next), later) ∧
      q.registry = ⟨next, later⟩ := by
  unfold update Registry.update at h
  cases hedit : edit p.registry.current p.registry.resources with
  | mk result later =>
    rw [hedit] at h
    cases result with
    | error f => cases h
    | ok r =>
      cases h
      exact ⟨_, _, rfl, rfl⟩

end Switchboard

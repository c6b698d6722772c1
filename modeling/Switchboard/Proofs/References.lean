/-
References between the things that are registered.

A list of rules names rules, and a route names a cluster and stages. A name is checked when the
thing that uses it is stored, and what is named cannot be taken out. So every name has something
behind it, and a session never comes across one that has not.

* `Snapshot.Closed`: every name that is used is there, and everything goes by its own name;
* `Admin.Change.closed`: every change keeps a snapshot closed;
* `run_references`: after every run of checked events the snapshot is closed, and routing never
  fails for want of a rule, a cluster or a stage.
-/
import Switchboard.Proofs.Proxy.Registered

namespace Switchboard

/-! ### Closed snapshots -/

/-- Every name that is used has something behind it, and everything is stored under its own name. A
snapshot refers to clusters by their numbers in `pool`. -/
structure Snapshot.Closed (s : Snapshot) (pool : ClusterPool) : Prop where
  ruleNames : ∀ e ∈ s.rules, e.2.name = e.1
  ruleListNames : ∀ e ∈ s.ruleLists, e.2.name = e.1
  routeNames : ∀ e ∈ s.routes, e.2.name = e.1
  clusterNames : ∀ e ∈ s.clusters, ∃ c, pool.get? e.2 = some c ∧ c.name = e.1
  stageNames : ∀ e ∈ s.stages, e.2.name = e.1
  entries : ∀ e ∈ s.ruleLists, ∀ name, .named name ∈ e.2.entries → (s.rule? name).isSome
  destinations : ∀ e ∈ s.routes, ∀ name, e.2.destination = .registered name →
    (s.cluster? name).isSome
  ingress : ∀ e ∈ s.routes, ∀ name, .named name ∈ e.2.ingress → (s.stage? name).isSome

namespace Snapshot.Closed

variable {s : Snapshot} {pool : ClusterPool}

theorem empty (pool : ClusterPool) : Snapshot.empty.Closed pool := by
  constructor <;> simp [Snapshot.empty]

theorem grows {later : ClusterPool} (h : s.Closed pool) (hgrows : pool.Grows later) :
    s.Closed later := by
  refine { h with clusterNames := fun e he => ?_ }
  obtain ⟨c, hc, hname⟩ := h.clusterNames e he
  obtain ⟨c', hc', hname'⟩ := hgrows _ c hc
  exact ⟨c', hc', hname'.trans hname⟩

end Snapshot.Closed

/-! ### Changes -/

namespace Admin

variable {strict : Bool} {pool : ClusterPool} {s next : Snapshot}

theorem isSome_rule?_of_checked {list : RuleList} (h : checkRuleList strict s list = .ok ())
    {name : String} (hname : .named name ∈ list.entries) : (s.rule? name).isSome := by
  have hcheck := checkRuleList_eq_ok.mp h _ hname
  cases hrule : s.rule? name with
  | none => simp [checkEntry, hrule] at hcheck
  | some rule => rfl

theorem isSome_cluster?_of_checked {route : Route} (h : checkRoute strict s route = .ok ())
    {name : String} (hname : route.destination = .registered name) :
    (s.cluster? name).isSome := by
  have hcheck := (checkRoute_eq_ok.mp h).1
  cases hcluster : s.cluster? name with
  | none => simp [hname, checkDestination, hcluster] at hcheck
  | some id => rfl

theorem isSome_stage?_of_checked {route : Route} (h : checkRoute strict s route = .ok ())
    {name : String} (hname : .named name ∈ route.ingress) : (s.stage? name).isSome := by
  have hcheck := (checkRoute_eq_ok.mp h).2 _ hname
  cases hstage : s.stage? name with
  | none => simp [checkStage, hstage] at hcheck
  | some stage => rfl

/-- What nobody is found to use, no route uses. -/
theorem not_used_of_user?_eq_none {usesRoute : Route → Bool} {usesRule : Rule → Bool}
    (h : user? s usesRoute usesRule = none) {e : String × Route} (he : e ∈ s.routes) :
    usesRoute e.2 = false := by
  have hfind : (Table.values s.routes).find? usesRoute = none := by
    unfold user? at h
    cases hf : (Table.values s.routes).find? usesRoute with
    | none => rfl
    | some route => simp [hf] at h
  simpa using List.find?_eq_none.mp hfind e.2 (Table.mem_values he)

/-- Every change keeps a snapshot closed. -/
theorem Change.closed (h : Change strict pool s next) (hs : s.Closed pool) :
    next.Closed pool := by
  cases h with
  | rule r _ =>
    exact { hs with
      ruleNames := Table.forall_mem_insert rfl hs.ruleNames
      entries := fun e he name hname => Table.isSome_find?_insert _ (hs.entries e he name hname) }
  | ruleDropped name unused =>
    refine { hs with
      ruleNames := Table.forall_mem_erase hs.ruleNames
      entries := fun e he other hother => ?_ }
    refine Table.isSome_find?_erase ?_ (hs.entries e he other hother)
    -- the list would have been found among those that name the rule
    rintro rfl
    have hunused := List.find?_eq_none.mp unused e.2 (Table.mem_values he)
    exact hunused (List.any_eq_true.mpr ⟨_, hother, by simp [Reference.isNamed]⟩)
  | ruleList list checked =>
    have hentries (name : String) (hname : .named name ∈ list.entries) : (s.rule? name).isSome :=
      isSome_rule?_of_checked checked hname
    exact { hs with
      ruleListNames := Table.forall_mem_insert rfl hs.ruleListNames
      entries := Table.forall_mem_insert hentries hs.entries }
  | ruleListDropped name =>
    exact { hs with
      ruleListNames := Table.forall_mem_erase hs.ruleListNames
      entries := Table.forall_mem_erase hs.entries }
  | entryDropped name list shorterList position there shorter =>
    -- the entries that are left were there before, in the longer list
    have hentries (name : String) (hname : .named name ∈ shorterList.entries) :
        (s.rule? name).isSome :=
      hs.entries _ (Table.mem_of_find? there) name (mem_of_mem_removed? shorter hname)
    exact { hs with
      ruleListNames := Table.forall_mem_insert rfl hs.ruleListNames
      entries := Table.forall_mem_insert hentries hs.entries }
  | route r checked =>
    have hdestination (name : String) (hname : r.destination = .registered name) :
        (s.cluster? name).isSome :=
      isSome_cluster?_of_checked checked hname
    have hingress (name : String) (hname : .named name ∈ r.ingress) : (s.stage? name).isSome :=
      isSome_stage?_of_checked checked hname
    exact { hs with
      routeNames := Table.forall_mem_insert rfl hs.routeNames
      destinations := Table.forall_mem_insert hdestination hs.destinations
      ingress := Table.forall_mem_insert hingress hs.ingress }
  | routeDropped name =>
    exact { hs with
      routeNames := Table.forall_mem_erase hs.routeNames
      destinations := Table.forall_mem_erase hs.destinations
      ingress := Table.forall_mem_erase hs.ingress }
  | cluster id c there =>
    exact { hs with
      clusterNames := Table.forall_mem_insert ⟨c, there, rfl⟩ hs.clusterNames
      destinations := fun e he name hname =>
        Table.isSome_find?_insert _ (hs.destinations e he name hname) }
  | clusterDropped name unused =>
    refine { hs with
      clusterNames := Table.forall_mem_erase hs.clusterNames
      destinations := fun e he other hother => ?_ }
    refine Table.isSome_find?_erase ?_ (hs.destinations e he other hother)
    rintro rfl
    have hunused := not_used_of_user?_eq_none unused he
    simp [Route.usesCluster, hother] at hunused
  | stage stage =>
    exact { hs with
      stageNames := Table.forall_mem_insert rfl hs.stageNames
      ingress := fun e he name hname =>
        Table.isSome_find?_insert _ (hs.ingress e he name hname) }
  | stageDropped name unused =>
    refine { hs with
      stageNames := Table.forall_mem_erase hs.stageNames
      ingress := fun e he other hother => ?_ }
    refine Table.isSome_find?_erase ?_ (hs.ingress e he other hother)
    rintro rfl
    have hunused := not_used_of_user?_eq_none unused he
    rw [Route.usesStage, List.any_eq_false] at hunused
    exact hunused _ hother (by simp)

end Admin

/-! ### Routing in a closed snapshot -/

namespace Snapshot.Closed

variable {s : Snapshot} {pool : ClusterPool}

/-- A search through entries whose names all have rules behind them finds no name without one. -/
theorem firstMatch_ne_error {rules : String → Option Rule} {entries : List RuleEntry}
    (h : ∀ name, .named name ∈ entries → (rules name).isSome) (metadata : Json) (name : String) :
    RuleList.firstMatch rules metadata entries ≠ .error name := by
  induction entries with
  | nil => simp [RuleList.firstMatch]
  | cons entry rest ih =>
    have hrest := ih fun name hname => h name (List.mem_cons_of_mem _ hname)
    cases entry with
    | inline rule =>
      rw [RuleList.firstMatch]
      split
      · simp
      · exact hrest
    | named other =>
      obtain ⟨rule, hrule⟩ := Option.isSome_iff_exists.mp (h other List.mem_cons_self)
      rw [RuleList.firstMatch, hrule]
      dsimp only
      split
      · simp
      · exact hrest

theorem evaluate_ne_ruleNotFound (h : s.Closed pool) {name : String} {list : RuleList}
    (hlist : s.ruleList? name = some list) (metadata : Json) (counters : Counters)
    (inList rule : String) :
    (list.evaluate s.rule? metadata counters).1 ≠ .error (.ruleNotFound inList rule) := by
  have hfirst := firstMatch_ne_error (h.entries _ (Table.mem_of_find? hlist)) metadata
  unfold RuleList.evaluate
  split
  · next missing hmissing => exact absurd hmissing (hfirst missing)
  · simp
  · simp

theorem clusterFor_ne_clusterNotFound (h : s.Closed pool) {name : String} {route : Route}
    (hroute : s.route? name = some route) (cluster : String) :
    s.clusterFor route ≠ .error (.clusterNotFound cluster) := by
  have hdestination := h.destinations _ (Table.mem_of_find? hroute)
  unfold clusterFor
  split
  · simp
  · next wanted hwanted =>
    obtain ⟨id, hid⟩ := Option.isSome_iff_exists.mp (hdestination wanted hwanted)
    simp [hid]

/-- A chain whose stages are all registered never runs into a missing one. -/
theorem runAll_ne_stageNotFound {stages : String → Option Stage}
    {chain : List StageDefinition}
    (h : ∀ name, .named name ∈ chain → (stages name).isSome) (metadata : Json) (stage : String) :
    StageDefinition.runAll stages chain metadata ≠ .error (.stageNotFound stage) := by
  induction chain generalizing metadata with
  | nil => simp [StageDefinition.runAll]
  | cons d rest ih =>
    have hrest := ih fun name hname => h name (List.mem_cons_of_mem _ hname)
    have hrun : d.run stages metadata ≠ .error (.stageNotFound stage) := by
      cases d with
      | named name =>
        obtain ⟨found, hfound⟩ := Option.isSome_iff_exists.mp (h name List.mem_cons_self)
        rw [StageDefinition.run, hfound]
        dsimp only
        cases found.apply metadata with
        | ok _ => rintro ⟨⟩
        | error f => rintro ⟨⟩
      | write writes => simp [StageDefinition.run]
      | filter condition =>
        rw [StageDefinition.run]
        split <;> simp
    rw [StageDefinition.runAll]
    split
    · exact hrest _
    · next f hf => exact fun heq => hrun (hf.trans heq)

end Snapshot.Closed

/-! ### Runs -/

namespace Proxy

/-- **Every name that is used is there.** After any run of checked events the snapshot is closed,
whatever the operations were and whether they succeeded. So a list of rules never comes across a
missing rule, and a registered route neither a missing cluster nor a missing stage, whatever the
metadata of a session is. -/
theorem run_references (strict : Bool) (events : List Event)
    (checked : ∀ e ∈ events, e.isChecked = true) :
    let r := (run events (fresh strict)).registry
    r.current.Closed r.clusters ∧
      (∀ name list, r.current.ruleList? name = some list → ∀ metadata counters inList rule,
        (list.evaluate r.current.rule? metadata counters).1 ≠
          .error (.ruleNotFound inList rule)) ∧
      (∀ name route, r.current.route? name = some route →
        (∀ cluster, r.current.clusterFor route ≠ .error (.clusterNotFound cluster)) ∧
        ∀ metadata stage, StageDefinition.runAll r.current.stage? route.ingress metadata ≠
          .error (.stageNotFound stage)) := by
  have hclosed : (run events (fresh strict)).registry.current.Closed
      (run events (fresh strict)).registry.clusters := by
    -- the snapshot is closed with regard to the pool of its time, which grows later on
    refine run_invariant _ (fun p => p.registry.current.Closed p.registry.clusters)
      (fun p e he hp => ?_) checked (.empty _)
    obtain ⟨⟨hgrows, hcurrent⟩, -⟩ := p.apply_moves he
    rcases hcurrent with hsame | hchange
    · exact hsame ▸ hp.grows hgrows
    · exact hchange.closed (hp.grows hgrows)
  intro r
  refine ⟨hclosed, ?_, ?_⟩
  · intro name list hlist metadata counters inList rule
    exact hclosed.evaluate_ne_ruleNotFound hlist metadata counters inList rule
  · intro name route hroute
    refine ⟨hclosed.clusterFor_ne_clusterNotFound hroute, ?_⟩
    exact Snapshot.Closed.runAll_ne_stageNotFound (hclosed.ingress _ (Table.mem_of_find? hroute))

/-- A rule that a list names is asked to go, which it must not. -/
def ruleInUse : List Event :=
  [.operation (.addRule
      (.ofFields [("name", .string "every"), ("match", .string "*"), ("action", .null)])),
    .operation (.addRuleList
      (.ofFields [("name", .string "entry"), ("rules", .array [.string "every"])])),
    .operation (.deleteRule "every")]

theorem run_references_ruleInUse :
    (∀ e ∈ ruleInUse, e.isChecked = true) ∧
      ((run ruleInUse (fresh false)).registry.current.ruleList? "entry").isSome ∧
      ((run ruleInUse (fresh false)).registry.current.rule? "every").isSome ∧
      (run ruleInUse (fresh false)).registry.current.Closed
        (run ruleInUse (fresh false)).registry.clusters := by
  have hchecked : ∀ e ∈ ruleInUse, e.isChecked = true := by
    simp [ruleInUse, Event.isChecked]
  refine ⟨hchecked, ?_, ?_, (run_references false ruleInUse hchecked).1⟩
  · decide +kernel
  · decide +kernel

end Proxy

end Switchboard

/-
What is found for a session, and why nothing is found.

A session needs an action, a route, a cluster for the route, and metadata that its stages let pass.
The stages come last and are the only ones that may refuse a session. Whatever else fails on the way
is a fault of what is registered.

* `Registry.Resolves`: the route and the cluster that a list of rules leads to;
* `Registry.Stops`: the stage of that route at which a session is refused;
* `Registry.Fails`: why a session ends for which nothing is found;
* `Binding.find_eq_ok_iff`, `Binding.find_fails`: what is found, and what it means if nothing is.
-/
import Switchboard.Proofs.Delegation

namespace Switchboard

/-! ### Stages -/

namespace StageDefinition

variable {stages : String → Option Stage} {d : StageDefinition} {chain : List StageDefinition}
  {metadata written : Json} {f : RoutingFault} {reason : String}

/-- `d.Refuses stages metadata reason`: the stage runs and refuses the metadata. -/
inductive Refuses (stages : String → Option Stage) : StageDefinition → Json → String → Prop
  | named {name : String} {stage : Stage} {metadata : Json} {reason : String}
      (there : stages name = some stage) (refused : stage.apply metadata = .error reason) :
      Refuses stages (.named name) metadata reason
  | filter {condition : Match} {metadata : Json} (unmet : condition.holds metadata = false) :
      Refuses stages (.filter condition) metadata "metadata rejected by filter"

/-- A stage that refuses says so under its label. -/
theorem Refuses.run (h : d.Refuses stages metadata reason) :
    d.run stages metadata = .error (.stageFailed d.label reason) := by
  cases h with
  | named there refused =>
    rw [StageDefinition.run, there]
    dsimp only
    rw [refused]
    rfl
  | filter unmet =>
    rw [StageDefinition.run, if_neg (by simp [unmet])]

/-- A stage fails because it refuses or because there is no such stage. -/
theorem refuses_of_run (h : d.run stages metadata = .error f) (failed : f.isStageFailure = true) :
    ∃ reason, d.Refuses stages metadata reason ∧ f = .stageFailed d.label reason := by
  cases d with
  | named name =>
    rw [run] at h
    split at h
    · cases h
      cases failed
    · next stage hstage =>
      cases hrefused : stage.apply metadata with
      | ok written =>
        rw [hrefused] at h
        cases h
      | error reason =>
        rw [hrefused] at h
        cases h
        exact ⟨reason, .named hstage hrefused, rfl⟩
  | write writes => cases h
  | filter condition =>
    rw [run] at h
    split at h
    · cases h
    · next hunmet =>
      cases h
      exact ⟨_, .filter (Bool.eq_false_iff.mpr hunmet), rfl⟩

theorem runAll_cons_of_ok (h : d.run stages metadata = .ok written) :
    runAll stages (d :: chain) metadata = runAll stages chain written := by
  rw [runAll, h]

/-- Stages fail when one of them does with what those before it have made of the metadata. -/
theorem runAll_eq_error : runAll stages chain metadata = .error f ↔
    ∃ before d after reached, chain = before ++ d :: after ∧
      runAll stages before metadata = .ok reached ∧ d.run stages reached = .error f := by
  -- on the stages, for whatever metadata the first of them gets
  induction chain generalizing metadata with
  | nil =>
    refine ⟨nofun, ?_⟩
    rintro ⟨before, d, after, reached, hchain, -⟩
    simp at hchain
  | cons first rest ih =>
    cases hfirst : first.run stages metadata with
    | error fault =>
      rw [runAll, hfirst]
      constructor
      · rintro ⟨⟩
        exact ⟨[], first, rest, metadata, rfl, rfl, hfirst⟩
      · rintro ⟨before, d, after, reached, hchain, hreached, hfails⟩
        cases before with
        | nil =>
          cases hchain
          cases hreached
          exact hfirst.symm.trans hfails
        | cons _ tail =>
          -- the first stage fails already
          cases hchain
          rw [runAll, hfirst] at hreached
          cases hreached
    | ok written =>
      rw [runAll_cons_of_ok hfirst, ih]
      constructor
      · rintro ⟨before, d, after, reached, rfl, hreached, hfails⟩
        exact ⟨first :: before, d, after, reached, rfl,
          (runAll_cons_of_ok hfirst).trans hreached, hfails⟩
      · rintro ⟨before, d, after, reached, hchain, hreached, hfails⟩
        cases before with
        | nil =>
          cases hchain
          cases hreached
          rw [hfirst] at hfails
          cases hfails
        | cons _ tail =>
          cases hchain
          rw [runAll_cons_of_ok hfirst] at hreached
          exact ⟨tail, d, after, reached, rfl, hreached, hfails⟩

end StageDefinition

/-! ### Faults of what is registered -/

namespace Snapshot

variable {s : Snapshot} {f : RoutingFault}

/-- No list of rules fails at a stage. -/
theorem Decides.isStageFailure {name : String} {metadata : Json}
    {result : Except RoutingFault (Option Decision)} {taken : List Action}
    (h : s.Decides name metadata result taken) (failed : result = .error f) :
    f.isStageFailure = false := by
  cases h with
  | unknown | dangling | malformed =>
    cases failed
    rfl
  | unmatched | routed => cases failed

theorem isStageFailure_of_lookup {name : String} {metadata : Json} {counters : Counters}
    (h : (s.lookup name metadata counters).result = .error f) : f.isStageFailure = false := by
  rcases s.walk_ends_or_goes_on (maxDelegations + 1) name metadata with
    ⟨actions, last, result, taken, hwalk, hlength, hdecides⟩ | ⟨actions, last, hwalk, hlength⟩
  · have hlookup := lookup_of_walk hwalk hdecides (Nat.le_of_lt_succ hlength) counters
    exact hdecides.isStageFailure (hlookup.1.symm.trans h)
  · rw [lookup_of_long_walk hwalk hlength counters] at h
    cases h
    rfl

theorem isStageFailure_of_routeFor {d : Decision} {res : Resources}
    (h : (s.routeFor d res).1 = .error f) : f.isStageFailure = false := by
  unfold routeFor at h
  split at h
  · cases h
  · cases h
  · split at h
    · cases h
    · cases h
      rfl
  · cases h

theorem isStageFailure_of_clusterFor {route : Route} (h : s.clusterFor route = .error f) :
    f.isStageFailure = false := by
  unfold clusterFor at h
  split at h
  · cases h
  · split at h
    · cases h
    · cases h
      rfl

end Snapshot

/-! ### What is found -/

namespace Registry

/-- The list of rules leads to an action, with the metadata `annotated`, and there are a route for the
action and a cluster for the route. -/
def Resolves (r : Registry) (list : String) (metadata annotated : Json) (route : Route)
    (cluster : ClusterId) : Prop :=
  let found := r.current.lookup list metadata r.counters
  ∃ decision, found.result = .ok (some decision) ∧ found.metadata = annotated ∧
    (r.current.routeFor decision (r.setCounters found.counters).resources).1 = .ok (some route) ∧
    r.current.clusterFor route = .ok cluster

/-- The stages of the route that the list leads to stop at `d`: all before it have passed, and it
refuses what they made of the metadata. -/
def Stops (r : Registry) (list : String) (metadata : Json) (d : StageDefinition)
    (reason : String) : Prop :=
  ∃ annotated route cluster before after reached,
    r.Resolves list metadata annotated route cluster ∧ route.ingress = before ++ d :: after ∧
    StageDefinition.runAll r.current.stage? before annotated = .ok reached ∧
    d.Refuses r.current.stage? reached reason

/-- Why a session ends for which nothing is found: no rule matched, or a stage refused it, or it is
for anything else. -/
structure Fails (r : Registry) (list : String) (metadata : Json) (outcome : Outcome) : Prop where
  unroutable : outcome = .unroutable ↔ (r.current.lookup list metadata r.counters).result = .ok none
  aborted : ∀ text, outcome = .routeAborted text ↔ ∃ d reason, r.Stops list metadata d reason ∧
    text = (RoutingFault.stageFailed d.label reason).message
  config : (∃ text, outcome = .configError text) ↔
    (r.current.lookup list metadata r.counters).result ≠ .ok none ∧
      ∀ d reason, ¬r.Stops list metadata d reason

end Registry

namespace Binding

variable {r : Registry} {list : String} {metadata annotated : Json} {route : Route}
  {cluster : ClusterId} {b : Binding} {o : Outcome}

/-- How a binding comes about: an action is found, a route for it, and a cluster for that. -/
theorem find_eq_ok (found : (find r list metadata).1 = .ok b) :
    let looked := r.current.lookup list metadata r.counters
    let counted := (r.setCounters looked.counters).resources
    ∃ d, looked.result = .ok (some d) ∧ (r.current.routeFor d counted).1 = .ok (some b.route) ∧
      r.current.clusterFor b.route = .ok b.cluster ∧
      (find r list metadata).2.resources = (r.current.routeFor d counted).2 := by
  intro looked counted
  unfold find at found ⊢
  dsimp only at found ⊢
  split at found
  · cases found
  · cases found
  · next d hlookup =>
    refine ⟨d, hlookup, ?_⟩
    split at found
    · cases found
    · cases found
    · next route hroute =>
      split at found
      · cases found
      · next cluster hcluster =>
        split at found
        · cases found
        · next written hwritten =>
          cases found
          exact ⟨hroute, hcluster, rfl⟩

/-- Once there is a cluster, only the stages may still refuse the session. -/
theorem find_of_resolves (h : r.Resolves list metadata annotated route cluster) :
    (find r list metadata).1 =
      match StageDefinition.runAll r.current.stage? route.ingress annotated with
      | .ok written => .ok ⟨route, cluster, written⟩
      | .error f => .error (.ofFault f) := by
  obtain ⟨decision, hlookup, rfl, hroute, hcluster⟩ := h
  unfold find
  dsimp only
  rw [hlookup]
  dsimp only
  rw [hroute]
  dsimp only
  rw [hcluster]
  dsimp only
  split
  · next hfails => rw [hfails]
  · next hwritten => rw [hwritten]

theorem find_eq_ok_iff : (find r list metadata).1 = .ok b ↔
    ∃ annotated, r.Resolves list metadata annotated b.route b.cluster ∧
      StageDefinition.runAll r.current.stage? b.route.ingress annotated = .ok b.metadata := by
  constructor
  · intro h
    obtain ⟨decision, hlookup, hroute, hcluster, -⟩ := find_eq_ok h
    have hresolves : r.Resolves list metadata _ b.route b.cluster :=
      ⟨decision, hlookup, rfl, hroute, hcluster⟩
    rw [find_of_resolves hresolves] at h
    refine ⟨_, hresolves, ?_⟩
    split at h
    · next written hwritten =>
      have hmetadata : written = b.metadata := congrArg Binding.metadata (Except.ok.inj h)
      rw [hwritten, hmetadata]
    · cases h
  · rintro ⟨annotated, hresolves, hwritten⟩
    rw [find_of_resolves hresolves, hwritten]

/-- Where the stages stop, the session is refused. -/
theorem find_of_stops {d : StageDefinition} {reason : String}
    (h : r.Stops list metadata d reason) : (find r list metadata).1 =
      .error (.routeAborted (RoutingFault.stageFailed d.label reason).message) := by
  obtain ⟨annotated, route, cluster, before, after, reached, hresolves, hchain, hreached,
    hrefuses⟩ := h
  have hfails := StageDefinition.runAll_eq_error.mpr
    ⟨before, d, after, reached, hchain, hreached, hrefuses.run⟩
  rw [find_of_resolves hresolves, hfails]
  rfl

theorem find_of_unmatched (h : (r.current.lookup list metadata r.counters).result = .ok none) :
    (find r list metadata).1 = .error .unroutable := by
  simp [find, h]

/-- What may be the reason that nothing is found. -/
theorem find_eq_error (h : (find r list metadata).1 = .error o) :
    (o = .unroutable ∧ (r.current.lookup list metadata r.counters).result = .ok none) ∨
      (∃ d reason, r.Stops list metadata d reason ∧
        o = .routeAborted (RoutingFault.stageFailed d.label reason).message) ∨
      ∃ text, o = .configError text := by
  have hfault {f : RoutingFault} (hf : f.isStageFailure = false)
      (ho : (.error (.ofFault f) : Except Outcome Binding) = .error o) :
      ∃ text, o = .configError text := by
    cases ho
    exact ⟨f.message, if_neg (by simp [hf])⟩
  -- the branches of the search, in order; only the last one asks the stages
  unfold find at h
  dsimp only at h
  split at h
  · next f hlookup => exact .inr (.inr (hfault (Snapshot.isStageFailure_of_lookup hlookup) h))
  · next hlookup =>
    cases h
    exact .inl ⟨rfl, hlookup⟩
  · next decision hlookup =>
    split at h
    · next f hroute => exact .inr (.inr (hfault (Snapshot.isStageFailure_of_routeFor hroute) h))
    · cases h
      exact .inr (.inr ⟨_, rfl⟩)
    · next route hroute =>
      split at h
      · next f hcluster =>
        exact .inr (.inr (hfault (Snapshot.isStageFailure_of_clusterFor hcluster) h))
      · next cluster hcluster =>
        split at h
        · next f hchain =>
          cases hfailed : f.isStageFailure with
          | false => exact .inr (.inr (hfault hfailed h))
          | true =>
            -- one of the stages has failed, and it was there
            obtain ⟨before, d, after, reached, hsplit, hreached, hrun⟩ :=
              StageDefinition.runAll_eq_error.mp hchain
            obtain ⟨reason, hrefuses, rfl⟩ := StageDefinition.refuses_of_run hrun hfailed
            cases h
            exact .inr (.inl ⟨d, reason, ⟨_, route, cluster, before, after, reached,
              ⟨decision, hlookup, rfl, hroute, hcluster⟩, hsplit, hreached, hrefuses⟩, rfl⟩)
        · cases h

/-- Why nothing is found. -/
theorem find_fails (h : (find r list metadata).1 = .error o) : r.Fails list metadata o := by
  -- two of the reasons are known to lead to their outcomes, so the third has the others
  have hunmatched (hlookup : (r.current.lookup list metadata r.counters).result = .ok none) :
      o = .unroutable := by
    rw [find_of_unmatched hlookup] at h
    exact (Except.error.inj h).symm
  have hstops {d : StageDefinition} {reason : String} (hstop : r.Stops list metadata d reason) :
      o = .routeAborted (RoutingFault.stageFailed d.label reason).message := by
    rw [find_of_stops hstop] at h
    exact (Except.error.inj h).symm
  constructor
  · refine ⟨fun ho => ?_, hunmatched⟩
    rcases find_eq_error h with ⟨-, hlookup⟩ | ⟨d, reason, -, rfl⟩ | ⟨text, rfl⟩
    · exact hlookup
    · cases ho
    · cases ho
  · intro text
    constructor
    · intro ho
      rcases find_eq_error h with ⟨rfl, -⟩ | ⟨d, reason, hstop, rfl⟩ | ⟨text, rfl⟩
      · cases ho
      · cases ho
        exact ⟨d, reason, hstop, rfl⟩
      · cases ho
    · rintro ⟨d, reason, hstop, rfl⟩
      exact hstops hstop
  · constructor
    · rintro ⟨text, rfl⟩
      refine ⟨fun hlookup => ?_, fun d reason hstop => ?_⟩
      · cases hunmatched hlookup
      · cases hstops hstop
    · rintro ⟨hmatched, hpassed⟩
      rcases find_eq_error h with ⟨-, hlookup⟩ | ⟨d, reason, hstop, -⟩ | hconfig
      · exact absurd hlookup hmatched
      · exact absurd hstop (hpassed d reason)
      · exact hconfig

end Binding

end Switchboard

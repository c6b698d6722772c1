/-
The pool of clusters.

Clusters are referred to by their numbers, so a pool may grow, but no cluster is ever lost. What is
built with a route of its own refers to a cluster that is in the pool by then, and is there for good.

* `ClusterPool.Grows`: every cluster is still there;
* `Route.Pooled`, `Rule.Pooled`: the clusters of routes' own are in the pool;
* `Route.pooled_build`, …, `RuleEntry.pooled_buildAll`: so are those of all that is built.
-/
import Switchboard.Routing.RuleList

namespace Switchboard

/-! ### Pools that grow -/

/-- Every cluster is still there, under its number and its name. -/
def ClusterPool.Grows (pool later : ClusterPool) : Prop :=
  ∀ id c, pool.get? id = some c → ∃ c', later.get? id = some c' ∧ c'.name = c.name

namespace ClusterPool

theorem Grows.refl (pool : ClusterPool) : pool.Grows pool :=
  fun _ c h => ⟨c, h, rfl⟩

theorem Grows.trans {a b c : ClusterPool} (hab : a.Grows b) (hbc : b.Grows c) : a.Grows c := by
  intro id x hx
  obtain ⟨y, hy, hyx⟩ := hab id x hx
  obtain ⟨z, hz, hzy⟩ := hbc id y hy
  exact ⟨z, hz, hzy.trans hyx⟩

theorem get?_add_self (pool : ClusterPool) (c : Cluster) :
    (pool.add c).2.get? (pool.add c).1 = some c := by
  simp [add, get?]

theorem grows_add (pool : ClusterPool) (c : Cluster) : pool.Grows (pool.add c).2 := by
  intro id x hx
  refine ⟨x, ?_, rfl⟩
  rw [get?] at hx
  have hlt : id < pool.clusters.size := (Array.getElem?_eq_some_iff.mp hx).choose
  rw [add, get?, Array.getElem?_push_lt hlt]
  exact (Array.getElem?_eq_getElem hlt).symm.trans hx

theorem grows_set {pool : ClusterPool} {id : ClusterId} {c c' : Cluster}
    (h : pool.get? id = some c) (hname : c'.name = c.name) : pool.Grows (pool.set id c') := by
  intro j x hx
  rw [get?] at h hx
  by_cases hj : id = j
  · subst hj
    refine ⟨c', by simp [set, get?, Array.getElem?_modify, h], ?_⟩
    rw [h, Option.some_inj] at hx
    exact hx ▸ hname
  · exact ⟨x, by simpa [set, get?, Array.getElem?_modify, hj] using hx, rfl⟩

theorem Grows.isSome {pool later : ClusterPool} (h : pool.Grows later) {id : ClusterId}
    (there : (pool.get? id).isSome) : (later.get? id).isSome := by
  obtain ⟨c, hc⟩ := Option.isSome_iff_exists.mp there
  obtain ⟨c', hc', -⟩ := h id c hc
  rw [hc']
  rfl

end ClusterPool

/-! ### Building -/

theorem Route.build_grows (pool : ClusterPool) (name : String) (d : RouteDefinition) :
    pool.Grows (Route.build pool name d).2 := by
  cases hd : d.destination with
  | named n => simpa [Route.build, Destination.build, hd] using .refl pool
  | inline c => simpa [Route.build, Destination.build, hd] using pool.grows_add _

namespace Resources

variable (res : Resources)

theorem buildRoute_grows (name : String) (d : RouteDefinition) :
    res.clusters.Grows (res.buildRoute name d).2.clusters :=
  Route.build_grows res.clusters name d

theorem buildNamedRoute_grows (d : RouteDefinition) :
    res.clusters.Grows (res.buildNamedRoute d).2.clusters := by
  rw [buildNamedRoute]
  split
  · exact res.buildRoute_grows _ d
  · exact (res.nextName .route).2.buildRoute_grows _ d

end Resources

namespace Rule

variable (res : Resources)

theorem buildOwnRoute_grows (rule : String) (action : Json) :
    res.clusters.Grows (buildOwnRoute res rule action).2.clusters := by
  rw [buildOwnRoute]
  split
  · exact .refl _
  · next d _ => exact res.buildRoute_grows (d.name.getD (rule ++ "_route")) d

theorem build_grows (name : String) (condition : Match) (action : Json) :
    res.clusters.Grows (build res name condition action).2.clusters :=
  buildOwnRoute_grows res name action

theorem ofDefinition_grows (d : RuleDefinition) :
    res.clusters.Grows (ofDefinition res d).2.clusters := by
  rw [ofDefinition]
  split
  · exact build_grows res _ _ _
  · exact build_grows (res.nextName .rule).2 _ _ _

theorem updated_grows (rule : Rule) (d : RuleDefinition) :
    res.clusters.Grows (updated res rule d).2.clusters :=
  buildOwnRoute_grows res rule.name d.action

end Rule

namespace RuleEntry

theorem build_grows (res : Resources) (r : RuleReference) :
    res.clusters.Grows (build res r).2.clusters := by
  cases r with
  | named name => exact .refl _
  | inline d => exact Rule.ofDefinition_grows res d

theorem buildAll_grows (res : Resources) (rs : List RuleReference) :
    res.clusters.Grows (buildAll res rs).2.clusters := by
  induction rs generalizing res with
  | nil => exact .refl _
  | cons r rest ih => exact (build_grows res r).trans (ih (build res r).2)

end RuleEntry

theorem RuleList.build_grows (res : Resources) (name : String) (d : RuleListDefinition) :
    res.clusters.Grows (RuleList.build res name d).2.clusters :=
  RuleEntry.buildAll_grows res d.rules

/-! ### Clusters of routes' own -/

/-- If the route has a cluster of its own, the pool has it. -/
def Route.Pooled (pool : ClusterPool) (route : Route) : Prop :=
  ∀ d id, route.destination = .own d id → (pool.get? id).isSome

/-- If the rule has a route of its own, and that a cluster, the pool has it. -/
def Rule.Pooled (pool : ClusterPool) (rule : Rule) : Prop :=
  ∀ route ∈ rule.route, route.Pooled pool

theorem Route.Pooled.grows {pool later : ClusterPool} {route : Route} (h : route.Pooled pool)
    (grows : pool.Grows later) : route.Pooled later :=
  fun d id own => grows.isSome (h d id own)

theorem Rule.Pooled.grows {pool later : ClusterPool} {rule : Rule} (h : rule.Pooled pool)
    (grows : pool.Grows later) : rule.Pooled later :=
  fun route hroute => (h route hroute).grows grows

theorem Route.pooled_build (pool : ClusterPool) (name : String) (d : RouteDefinition) :
    (build pool name d).1.Pooled (build pool name d).2 := by
  obtain ⟨own, destination, ingress, retry⟩ := d
  intro definition id hown
  cases destination with
  | named n => cases hown
  | inline c =>
    cases hown
    show ((pool.add (.build definition)).2.get? (pool.add (.build definition)).1).isSome
    rw [pool.get?_add_self]
    rfl

namespace Resources

variable (res : Resources)

theorem pooled_buildRoute (name : String) (d : RouteDefinition) :
    (res.buildRoute name d).1.Pooled (res.buildRoute name d).2.clusters :=
  Route.pooled_build res.clusters name d

theorem pooled_buildNamedRoute (d : RouteDefinition) :
    (res.buildNamedRoute d).1.Pooled (res.buildNamedRoute d).2.clusters := by
  rw [buildNamedRoute]
  split
  · exact res.pooled_buildRoute _ d
  · exact (res.nextName .route).2.pooled_buildRoute _ d

end Resources

namespace Rule

variable (res : Resources)

theorem pooled_buildOwnRoute (rule : String) (action : Json) :
    ∀ route ∈ (buildOwnRoute res rule action).1,
      route.Pooled (buildOwnRoute res rule action).2.clusters := by
  intro route hroute
  unfold buildOwnRoute at hroute ⊢
  split at hroute
  · cases hroute
  · next d hd =>
    cases hroute
    exact res.pooled_buildRoute (d.name.getD (rule ++ "_route")) d

theorem pooled_build (name : String) (condition : Match) (action : Json) :
    (build res name condition action).1.Pooled (build res name condition action).2.clusters :=
  pooled_buildOwnRoute res name action

theorem pooled_ofDefinition (d : RuleDefinition) :
    (ofDefinition res d).1.Pooled (ofDefinition res d).2.clusters := by
  rw [ofDefinition]
  split
  · exact pooled_build res _ _ _
  · exact pooled_build (res.nextName .rule).2 _ _ _

theorem pooled_updated (rule : Rule) (d : RuleDefinition) :
    (updated res rule d).1.Pooled (updated res rule d).2.clusters :=
  pooled_buildOwnRoute res rule.name d.action

end Rule

namespace RuleEntry

theorem pooled_build (res : Resources) {r : RuleReference} {rule : Rule}
    (h : .inline rule = (build res r).1) : rule.Pooled (build res r).2.clusters := by
  cases r with
  | named name => cases h
  | inline d =>
    cases h
    exact Rule.pooled_ofDefinition res d

theorem pooled_buildAll (res : Resources) {rs : List RuleReference} {rule : Rule}
    (h : .inline rule ∈ (buildAll res rs).1) : rule.Pooled (buildAll res rs).2.clusters := by
  induction rs generalizing res with
  | nil => cases h
  | cons r rest ih =>
    rcases List.mem_cons.mp h with hfirst | hrest
    · exact (pooled_build res hfirst).grows (buildAll_grows _ rest)
    · exact ih _ hrest

end RuleEntry

end Switchboard

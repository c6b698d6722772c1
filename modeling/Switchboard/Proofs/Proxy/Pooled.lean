/-
Clusters that are referred to.

What is registered refers to clusters by their numbers: clusters by their names, and the routes that
have clusters of their own. No number is without a cluster, however what is registered changes, so
every session that is bound has one to go to.

* `Snapshot.Pooled`: every cluster that is referred to is in the pool;
* `Admin.Change.pooled`: every change keeps it so;
* `Binding.find_pooled`: what is found for a session has a cluster;
* `Event.KeepsClusters`: what may be handed in;
* `Proxy.pooled_apply`: no event loses a cluster, or refers to one that there is not.
-/
import Switchboard.Proofs.Proxy.Registered
import Switchboard.Proofs.Routing.Applied
import Switchboard.Proofs.Routing.Binding

namespace Switchboard

/-- Every cluster that is referred to is in the pool. -/
structure Snapshot.Pooled (s : Snapshot) (pool : ClusterPool) : Prop where
  rules : ∀ rule ∈ s.allRules, rule.Pooled pool
  routes : ∀ e ∈ s.routes, e.2.Pooled pool
  clusters : ∀ e ∈ s.clusters, (pool.get? e.2).isSome

theorem Snapshot.Pooled.grows {s : Snapshot} {pool later : ClusterPool} (h : s.Pooled pool)
    (grows : pool.Grows later) : s.Pooled later where
  rules rule hrule := (h.rules rule hrule).grows grows
  routes e he := (h.routes e he).grows grows
  clusters e he := grows.isSome (h.clusters e he)

theorem Snapshot.Pooled.empty (pool : ClusterPool) : Snapshot.empty.Pooled pool :=
  ⟨nofun, nofun, nofun⟩

theorem Admin.Change.pooled {strict : Bool} {pool : ClusterPool} {s next : Snapshot}
    (h : Change strict pool s next) (hs : s.Pooled pool) : next.Pooled pool := by
  have hrules : ∀ rule ∈ next.allRules, rule.Pooled pool := by
    intro rule hrule
    rcases h.rule_origin hrule with hold | ⟨-, hpooled, -⟩
    · exact hs.rules rule hold
    · exact hpooled
  cases h with
  | route r _ pooled => exact ⟨hrules, Table.forall_mem_insert pooled hs.routes, hs.clusters⟩
  | routeDropped name => exact ⟨hrules, Table.forall_mem_erase hs.routes, hs.clusters⟩
  | cluster id c there =>
    have hthere : (pool.get? id).isSome := by
      rw [there]
      rfl
    exact ⟨hrules, hs.routes, Table.forall_mem_insert hthere hs.clusters⟩
  | clusterDropped name => exact ⟨hrules, hs.routes, Table.forall_mem_erase hs.clusters⟩
  | _ => exact ⟨hrules, hs.routes, hs.clusters⟩

/-! ### What is found -/

namespace Snapshot

variable {s : Snapshot} {pool : ClusterPool} {res : Resources} {d : Decision} {route : Route}

/-- A rule that a list takes is one of the snapshot's. -/
theorem Takes.mem_allRules {name : String} {metadata : Json} {rule : Rule}
    (h : s.Takes name metadata rule) : rule ∈ s.allRules := by
  obtain ⟨list, there, found⟩ := h
  have hhit := RuleList.map_hit? s.rule? metadata list.entries
  rw [found] at hhit
  obtain ⟨hit, hsome, rfl⟩ := Option.map_eq_some_iff.mp hhit
  obtain ⟨hentry, hbehind⟩ := RuleList.hit?_eq_some _ _ hsome
  cases hhead : hit.entry with
  | inline own =>
    rw [hhead] at hentry hbehind
    cases hbehind
    exact inline_mem_allRules there hentry
  | named other =>
    rw [hhead] at hbehind
    exact Snapshot.mem_allRules.mpr (.inl ⟨_, Table.mem_of_find? hbehind, rfl⟩)

/-- The route of a rule that a look-up finds. -/
theorem Pooled.decision (h : s.Pooled pool) {list : String} {metadata : Json} {counters : Counters}
    (found : (s.lookup list metadata counters).result = .ok (some d)) :
    ∀ route ∈ d.route, route.Pooled pool := by
  obtain ⟨_, _, _, hdecides⟩ := decides_of_lookup found
  cases hdecides with
  | routed takes _ _ => exact h.rules _ takes.mem_allRules

theorem Pooled.routeFor (h : s.Pooled res.clusters)
    (own : ∀ route ∈ d.route, route.Pooled res.clusters)
    (found : (s.routeFor d res).1 = .ok (some route)) :
    route.Pooled (s.routeFor d res).2.clusters := by
  unfold Snapshot.routeFor at found ⊢
  split at found
  · next hroute =>
    cases found
    exact own _ hroute
  · cases found
  · next name _ _ =>
    cases hname : s.route? name with
    | none =>
      rw [hname] at found
      cases found
    | some registered =>
      rw [hname] at found
      cases found
      exact h.routes _ (Table.mem_of_find? hname)
  · next definition _ _ =>
    cases found
    exact res.pooled_buildNamedRoute definition

theorem Pooled.clusterFor (h : s.Pooled pool) (own : route.Pooled pool) {id : ClusterId}
    (found : s.clusterFor route = .ok id) : (pool.get? id).isSome := by
  unfold Snapshot.clusterFor at found
  split at found
  · next definition id' hdestination =>
    cases found
    exact own _ _ hdestination
  · next name _ =>
    split at found
    · next hcluster =>
      cases found
      exact h.clusters _ (Table.mem_of_find? hcluster)
    · cases found

end Snapshot

namespace Binding

variable {r : Registry} {list : String} {metadata : Json} {b : Binding}

/-- What a session is bound to has a cluster, in the pool as it is once the session is bound. -/
theorem find_pooled (h : r.current.Pooled r.clusters) (found : (find r list metadata).1 = .ok b) :
    ((find r list metadata).2.clusters.get? b.cluster).isSome := by
  obtain ⟨d, hlookup, hroute, hcluster, hresources⟩ := find_eq_ok found
  -- the counts change first, and the route may be built only then, with its cluster
  have hcounted : r.current.Pooled (r.setCounters
      (r.current.lookup list metadata r.counters).counters).resources.clusters := h
  have hown := hcounted.routeFor (h.decision hlookup) hroute
  have hlater := hcounted.grows (Registry.routeFor_grows r.current d _)
  rw [Registry.clusters, hresources]
  exact hlater.clusterFor hown hcluster

end Binding

/-! ### Events -/

/-- Whether what is handed in at an event leaves the clusters that there are in the pool, and refers
to such only. -/
def Event.KeepsClusters : Event → Prop
  | .handIn change => ∀ r : Registry, r.current.Pooled r.clusters →
      (change r).current.Pooled (change r).clusters ∧ r.clusters.Grows (change r).clusters
  | _ => True

/-- A cluster may be handed in under any name. -/
theorem Event.keepsClusters_putCluster (cluster : Cluster) :
    (Event.handIn (·.putCluster cluster)).KeepsClusters := by
  intro r hr
  have hgrows := r.clusters.grows_add cluster
  have hthere : ((r.clusters.add cluster).2.get? (r.clusters.add cluster).1).isSome := by
    rw [r.clusters.get?_add_self]
    rfl
  have hlater := hr.grows hgrows
  exact ⟨⟨hlater.rules, hlater.routes, Table.forall_mem_insert hthere hlater.clusters⟩, hgrows⟩

namespace Proxy

variable {p : Proxy} {e : Event}

theorem pooled_apply (keeps : e.KeepsClusters) (h : p.registry.current.Pooled p.registry.clusters) :
    (p.apply e).registry.current.Pooled (p.apply e).registry.clusters ∧
      p.registry.clusters.Grows (p.apply e).registry.clusters := by
  cases hchecked : e.isChecked with
  | false =>
    cases e with
    | handIn change => exact keeps p.registry h
    | _ => cases hchecked
  | true =>
    obtain ⟨⟨hgrows, hcurrent⟩, -⟩ := p.apply_moves hchecked
    refine ⟨?_, hgrows⟩
    rcases hcurrent with hsame | hchange
    · exact hsame ▸ h.grows hgrows
    · exact hchange.pooled (h.grows hgrows)

end Proxy

end Switchboard

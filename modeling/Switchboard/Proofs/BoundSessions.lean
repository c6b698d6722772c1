/-
Bound sessions.

A session is bound in its first step, to what is found for it then. Later on rules, lists, routes
and clusters may be replaced and deleted, and the session may be refused, cut off, and connect
again: it keeps its route and its policy, it goes to the same cluster, and nothing that it does looks
at rules again. Its metadata changes by edits of this very session only.

* `Event.IsSound`: what may be handed in;
* `Proxy.BoundIn`: when and how a session was bound;
* `Registry.CallsOnly`: nothing changes but the state of one cluster;
* `run_bound`: what a bound session keeps, whatever happens later.
-/
import Mathlib.Data.List.Induction
import Switchboard.Proofs.Locality
import Switchboard.Proofs.Proxy.Pooled
import Switchboard.Proofs.Session.Ending

namespace Switchboard

/-- Whether what is handed in at an event is in order: things are stored under their own names, and
clusters that are referred to are in the pool. -/
structure Event.IsSound (e : Event) : Prop where
  names : e.KeepsNames
  clusters : e.KeepsClusters

theorem Event.IsSound.of_isChecked {e : Event} (checked : e.isChecked = true) : e.IsSound := by
  cases e with
  | handIn change => cases checked
  | _ => exact ⟨trivial, trivial⟩

/-- The session that goes on at an event. -/
def Event.session? : Event → Option ActorId
  | step id | timer id | answer id _ | handOver id _ => some id
  | _ => none

/-- A session shows its route, or the name of it. -/
theorem Session.field?_view {s : Session} {route : Route} (h : s.route = some route)
    (recursive : Bool) : (s.view recursive).field? "route" =
      some (if recursive then route.view else route.name) := by
  rw [view, Json.ofFields, Json.field?, Table.find?_ofList]
  simp [Table.find?, h]

/-! ### Calls -/

/-- Nothing has changed but the state of one cluster. -/
structure Registry.CallsOnly (id : ClusterId) (r later : Registry) : Prop where
  current : later.current = r.current
  names : later.resources.names = r.resources.names
  counters : later.counters = r.counters
  clusters : ∀ other, other ≠ id → later.clusters.get? other = r.clusters.get? other

theorem Registry.CallsOnly.refl (id : ClusterId) (r : Registry) : r.CallsOnly id r :=
  ⟨rfl, rfl, rfl, fun _ _ => rfl⟩

theorem ClusterPool.get?_set_of_ne {id other : ClusterId} (h : other ≠ id) (pool : ClusterPool)
    (c : Cluster) : (pool.set id c).get? other = pool.get? other := by
  rw [get?, set, Array.getElem?_modify, if_neg h.symm]
  rfl

namespace Proxy

variable {p q : Proxy} {id : ActorId} {a : Actor} {b : Binding} {e : Event}

theorem callCluster_callsOnly (p : Proxy) (id : ClusterId) (metadata : Json) :
    p.registry.CallsOnly id (p.callCluster id metadata).2.registry := by
  rcases p.callCluster_registry id metadata with heq | ⟨cluster, after, -, -, heq⟩
  · exact heq ▸ .refl id _
  · rw [heq]
    exact ⟨rfl, rfl, rfl, fun _ hother => ClusterPool.get?_set_of_ne hother _ _⟩

theorem callsOnly_of_setting {cluster : ClusterId} (h : q.setting = p.setting) :
    p.registry.CallsOnly cluster q.registry := by
  rw [show q.registry = p.registry from congrArg Prod.fst h]
  exact .refl cluster _

/-- A bound session calls into its own cluster only. -/
theorem StepOf.callsOnly (h : p.StepOf id a q) (bound : a.running.Bound b) :
    p.registry.CallsOnly b.cluster q.registry := by
  cases h with
  | begin task => exact absurd task bound.started
  | call c task =>
    have hcluster : c.cluster = b.cluster := (bound.connector c (by rw [task]; rfl)).1
    -- what is done with the answer changes nothing that is registered
    have hsetting := setting_goOnConnected (p.callCluster c.cluster a.session.metadata).2 id a c
      (p.callCluster c.cluster a.session.metadata).1
    rw [← hcluster, show (Proxy.goOnConnected _ id a c _).registry = _ from
      congrArg Prod.fst hsetting]
    exact p.callCluster_callsOnly c.cluster a.session.metadata
  | pipe c since _ _ piped => exact callsOnly_of_setting (setting_stepPiping piped)
  | wake c delay next _ => exact callsOnly_of_setting rfl
  | wait delay => exact callsOnly_of_setting rfl
  | callHook c _ reply hook => exact callsOnly_of_setting (by simp)
  | finish outcome _ => exact callsOnly_of_setting (by simp)
  | leave _ => exact callsOnly_of_setting (by simp)

/-- A bound session looks at no rules when it goes on. -/
theorem lookUp?_of_bound (ha : p.actor? id = some a) (bound : a.running.Bound b)
    (he : e.session? = some id) : p.lookUp? e = none := by
  cases e with
  | step j =>
    cases he
    rw [lookUp?, ha, Option.bind_some]
    split
    · next task => exact absurd task bound.started
    · rfl
  | _ => rfl

theorem apply_callsOnly (ha : p.actor? id = some a) (bound : a.running.Bound b)
    (he : e.session? = some id) : p.registry.CallsOnly b.cluster (p.apply e).registry := by
  cases e with
  | step j =>
    cases he
    rw [apply]
    cases hstep : p.stepActor id with
    | none => exact .refl _ _
    | some next =>
      obtain ⟨a', ha', hof⟩ := stepActor_inv hstep
      rw [ha, Option.some_inj] at ha'
      exact hof.callsOnly (ha' ▸ bound)
  | timer j => exact callsOnly_of_setting (p.setting_endTimer j)
  | answer j answer => exact callsOnly_of_setting (p.setting_answerCall j answer)
  | handOver j reply => exact callsOnly_of_setting (p.setting_answerHook j reply)
  | _ => cases he

/-! ### Metadata -/

/-- Once a session has started, its metadata changes by edits that name this session. -/
theorem apply_metadata (own : p.OwnSessions) (ha : p.actor? id = some a)
    (started : a.running.task ≠ .starting) (e : Event) {x : Actor}
    (hx : (p.apply e).actor? id = some x) :
    x.session.metadata = a.session.metadata ∨
      e.edits? = some a.session.name ∧ Table.find? p.live a.session.name = some id := by
  obtain ⟨next, hnext, hgoes⟩ := (p.apply_tells e).old id a.running (running?_of_actor? ha)
  obtain rfl : x.running = next := by
    rwa [running?_of_actor? hx, Option.some_inj] at hnext
  rcases hgoes with hsame | ⟨signal, htold, hstep⟩
  · exact .inl (congrArg (·.session.metadata) hsame)
  · cases htold with
    | edited metadata edits listed =>
      -- the session that the edit names is this one, for it goes by its own name
      obtain ⟨a', ha', hname⟩ := own _ id listed
      rw [ha, Option.some_inj] at ha'
      subst ha'
      exact .inr (hname ▸ ⟨edits, listed⟩)
    | bound _ _ _ _ => exact absurd hstep.eq_begin.1 started
    | awaited hawaited =>
      refine .inl (hstep.keeps ?_ ?_).metadata
      · rintro hook binding rfl
        exact hawaited
      · rintro metadata rfl
        exact hawaited
    | destroyed _ => exact .inl (hstep.keeps nofun nofun).metadata

/-! ### Bindings -/

/-- In a run, the session `id` was bound to `b`: this was found for it in its first step. -/
def BoundIn (strict : Bool) (events : List Event) (id : ActorId) (b : Binding) : Prop :=
  ∃ earlier later a, events = earlier ++ .step id :: later ∧
    (run earlier (fresh strict)).actor? id = some a ∧ a.running.task = .starting ∧
    (Binding.find (run earlier (fresh strict)).registry a.session.ruleList
      a.session.metadata).1 = .ok b

/-- What is registered, and the live sessions, are in order. -/
structure Kept (p : Proxy) : Prop where
  names : p.registry.current.OwnNames
  sessions : p.OwnSessions
  pooled : p.registry.current.Pooled p.registry.clusters

theorem kept_fresh (strict : Bool) : (fresh strict).Kept :=
  ⟨ownNames_fresh strict, nofun, .empty _⟩

theorem Kept.apply (h : p.Kept) (sound : e.IsSound) : (p.apply e).Kept :=
  ⟨ownNames_apply sound.names h.names, ownSessions_apply h.sessions e,
    (pooled_apply sound.clusters h.pooled).1⟩

theorem Kept.run {events : List Event} (h : p.Kept) (sound : ∀ e ∈ events, e.IsSound) :
    (run events p).Kept :=
  run_invariant _ Kept (fun _ _ he hp => hp.apply he) sound h

/-- A session stays bound at every event. -/
theorem apply_bound (e : Event) {r : Running} (hr : p.running? id = some r) (bound : r.Bound b) :
    ∃ next, (p.apply e).running? id = some next ∧ next.Bound b := by
  obtain ⟨next, hnext, hsame | ⟨x, -, hstep⟩⟩ := (p.apply_tells e).old id r hr
  · exact ⟨next, hnext, hsame ▸ bound⟩
  · exact ⟨next, hnext, bound.step hstep⟩

theorem bound_run {r : Running} (later : List Event) (hr : p.running? id = some r)
    (bound : r.Bound b) : ∃ next, (run later p).running? id = some next ∧ next.Bound b := by
  refine run_invariant (fun _ => True) (fun p => ∃ r, p.running? id = some r ∧ r.Bound b)
    (fun p e _ hp => ?_) (fun _ _ => trivial) ⟨r, hr, bound⟩
  obtain ⟨r, hr, hbound⟩ := hp
  exact apply_bound e hr hbound

/-- A session that is not bound stays so at an event, or it starts and is bound to what is found for
it then. -/
theorem apply_unbound (e : Event) {r next : Running} (hr : p.running? id = some r)
    (unbound : r.Unbound) (hnext : (p.apply e).running? id = some next) :
    next.Unbound ∨ ∃ a b, e = .step id ∧ p.actor? id = some a ∧ a.running.task = .starting ∧
      Binding.find p.registry a.session.ruleList a.session.metadata =
        (.ok b, (p.apply e).registry) ∧ next.Bound b := by
  obtain ⟨next', hnext', hgoes⟩ := (p.apply_tells e).old id r hr
  rw [hnext, Option.some_inj] at hnext'
  subst hnext'
  rcases hgoes with rfl | ⟨x, htold, hstep⟩
  · exact .inl unbound
  rcases unbound.step hstep with hstill | ⟨hook, b, rfl, hbound⟩
  · exact .inl hstill
  obtain ⟨a, ha, rfl, hfound, hregistry⟩ := htold.bound_inv
  refine .inr ⟨a, b, rfl, ha, ?_, Prod.ext hfound.symm hregistry.symm, hbound⟩
  rw [running?_of_actor? ha, Option.some_inj] at hr
  exact hr ▸ hstep.eq_begin.1

/-- A session of a run is not bound, or it is bound and does not fail for want of a route. -/
theorem run_unbound_or_routed (strict : Bool) (events : List Event) {r : Running}
    (h : (run events (fresh strict)).running? id = some r) :
    r.Unbound ∨ (∃ b, r.Bound b) ∧ r.IsRouted := by
  obtain ⟨number, name, ruleList, metadata, history, hfollows⟩ := run_follows strict events h
  exact hfollows.unbound_or_routed (Running.sound_ofSession number name ruleList metadata)
    (Running.unbound_ofSession number name ruleList metadata)

theorem BoundIn.append {strict : Bool} {events : List Event} (h : BoundIn strict events id b)
    (more : List Event) : BoundIn strict (events ++ more) id b := by
  obtain ⟨earlier, later, a, rfl, hrest⟩ := h
  exact ⟨earlier, later ++ more, a, by simp, hrest⟩

/-- A session of a run is not bound, or it is bound to what was found for it in its first step, and
there is a cluster for it. -/
theorem unbound_or_boundIn {strict : Bool} {events : List Event} (sound : ∀ e ∈ events, e.IsSound)
    {r : Running} (h : (run events (fresh strict)).running? id = some r) :
    r.Unbound ∨ ∃ b, BoundIn strict events id b ∧ r.Bound b ∧
      ((run events (fresh strict)).registry.clusters.get? b.cluster).isSome := by
  -- on the events up to the last one, since a binding is known by the events before it
  induction events using List.reverseRecOn generalizing r with
  | nil => cases h
  | append_singleton events e ih =>
    obtain ⟨hevents, he⟩ := List.forall_mem_append.mp sound
    have hkept := (kept_fresh strict).run hevents
    have hsound : e.IsSound := he e (List.mem_singleton_self e)
    rw [run_append] at h ⊢
    generalize hp : run events (fresh strict) = p at *
    change (p.apply e).running? id = some r at h
    show r.Unbound ∨ ∃ b, BoundIn strict (events ++ [e]) id b ∧ r.Bound b ∧
      ((p.apply e).registry.clusters.get? b.cluster).isSome
    cases hbefore : p.running? id with
    | none =>
      obtain ⟨number, name, ruleList, metadata, rfl⟩ := (p.apply_tells e).new id r hbefore h
      exact .inl (Running.unbound_ofSession number name ruleList metadata)
    | some before =>
      rcases ih hevents hbefore with hunbound | ⟨b, hfound, hbound, hthere⟩
      · rcases apply_unbound e hbefore hunbound h with hstill | ⟨a, b, rfl, ha, htask, hfind, hbound⟩
        · exact .inl hstill
        · have hok := congrArg Prod.fst hfind
          have hthere := Binding.find_pooled hkept.pooled hok
          rw [hfind] at hthere
          exact .inr ⟨b, ⟨events, [], a, rfl, hp ▸ ha, htask, hp ▸ hok⟩, hbound, hthere⟩
      · obtain ⟨next, hnext, hstill⟩ := apply_bound e hbefore hbound
        rw [h, Option.some_inj] at hnext
        exact .inr ⟨b, hfound.append [e], hnext ▸ hstill,
          (pooled_apply hsound.clusters hkept.pooled).2.isSome hthere⟩

/-- What a session has later on that was bound once. -/
theorem run_stillBound {later : List Event} (hp : p.Kept) (sound : ∀ e ∈ later, e.IsSound)
    {r : Running} (hr : p.running? id = some r) (bound : r.Bound b)
    (there : (p.registry.clusters.get? b.cluster).isSome) :
    ∃ next, (run later p).running? id = some next ∧ next.Bound b ∧
      ((run later p).registry.clusters.get? b.cluster).isSome := by
  refine (run_invariant Event.IsSound (fun p => p.Kept ∧ ∃ r, p.running? id = some r ∧ r.Bound b ∧
    (p.registry.clusters.get? b.cluster).isSome) (fun p e he h => ?_) sound
      ⟨hp, r, hr, bound, there⟩).2
  obtain ⟨hkept, r, hr, hbound, hthere⟩ := h
  obtain ⟨next, hnext, hstill⟩ := apply_bound e hr hbound
  exact ⟨hkept.apply he, next, hnext, hstill,
    (pooled_apply he.clusters hkept.pooled).2.isSome hthere⟩

/-- **A bound session keeps its binding.** Take any session of a run that is routed. It was bound to
what was found for it in its first step, and whatever happens later it has the route of that
binding, which is what its view shows, and wherever it connects it goes to the cluster and by the
retry policy of that binding. The cluster is there, and no operation touches it. As the session goes
on it looks at no rules, and nothing that is registered changes but the state of its own cluster.
Its metadata changes at no event but an edit that names this session while it is live. -/
theorem run_bound {strict : Bool} {events : List Event} (sound : ∀ e ∈ events, e.IsSound)
    {id : ActorId} {a : Actor} (there : (run events (fresh strict)).actor? id = some a)
    (routed : a.session.state = .routed) :
    ∃ b, BoundIn strict events id b ∧ ∀ later, (∀ e ∈ later, e.IsSound) →
      let p := run later (run events (fresh strict))
      ∃ x, p.actor? id = some x ∧ x.running.Bound b ∧
        (∀ recursive, (x.session.view recursive).field? "route" =
          some (if recursive then b.route.view else b.route.name)) ∧
        (∃ cluster, p.registry.clusters.get? b.cluster = some cluster ∧
          ∀ op : Admin.Operation,
            (op.carryOut p).2.registry.clusters.get? b.cluster = some cluster) ∧
        (∀ e, e.session? = some id →
          p.lookUp? e = none ∧ p.registry.CallsOnly b.cluster (p.apply e).registry) ∧
        ∀ e y, (p.apply e).actor? id = some y → y.session.metadata = x.session.metadata ∨
          e.edits? = some x.session.name ∧ Table.find? p.live x.session.name = some id := by
  have hkept := (kept_fresh strict).run sound
  have hrunning := running?_of_actor? there
  rcases unbound_or_boundIn sound hrunning with hunbound | ⟨b, hfound, hbound, hthere⟩
  · exact absurd routed hunbound.routed
  refine ⟨b, hfound, fun later hlater => ?_⟩
  intro p
  have hlaterKept : p.Kept := hkept.run hlater
  obtain ⟨next, hnext, hstill, hcluster⟩ := run_stillBound hkept hlater hrunning hbound hthere
  obtain ⟨x, hx, rfl⟩ := Option.map_eq_some_iff.mp hnext
  obtain ⟨cluster, hcluster⟩ := Option.isSome_iff_exists.mp hcluster
  refine ⟨x, hx, hstill, Session.field?_view hstill.route, ⟨cluster, hcluster, fun op => ?_⟩,
    fun e he => ⟨lookUp?_of_bound hx hstill he, apply_callsOnly hx hstill he⟩,
    fun e y hy => apply_metadata hlaterKept.sessions hx hstill.started e hy⟩
  exact (carryOut_acts hlaterKept.names op).1.cluster _ _ hcluster

/-- A session is routed to a cluster that is handed in, with three attempts to make up for
failures. -/
def routed : List Event :=
  [.handIn (·.putCluster (.scripted ⟨"upstream", [.accept, .refuse "busy"], .accept, true⟩)),
    .operation (.addRoute (.ofFields [("name", "web"), ("destination", "upstream"),
      ("retry", .ofFields [("retry_on", "always"), ("num_retries", .nat 3)])])),
    .operation (.addRule (.ofFields [("name", "all"),
      ("action", .ofFields [("route", "web")])])),
    .operation (.addRuleList (.ofFields [("name", "main"), ("rules", .array ["all"])])),
    .dispatch (.ofFields [("name", "s")]) "main" none, .step 0]

/-- Its route is replaced by one without attempts, and everything is deleted. Then it connects, is
cut off, and is refused when it connects again. -/
def orphaned : List Event :=
  [.operation (.updateRoute "web" (.ofFields [("destination", "upstream")])),
    .operation (.deleteRuleList "main"), .operation (.deleteRule "all"),
    .operation (.deleteRoute "web"), .operation (.deleteCluster "upstream"),
    .step 0, .far 1 .shutdown, .step 0, .step 0, .pass 2000 2000, .timer 0, .step 0]

/-- Whether a session waits for its third attempt, by a policy that allows for three. -/
def waitsForThird (a : Actor) : Bool :=
  a.session.state == .reconnecting && a.session.connectAttempts == 2 &&
    a.running.task.connector?.any (·.policy.retries == 3)

theorem run_bound_orphaned :
    let p := run orphaned (run routed (fresh false))
    p.registry.current.routes = [] ∧ p.registry.current.clusters = [] ∧
      ∃ b x, BoundIn false routed 0 b ∧ p.actor? 0 = some x ∧ waitsForThird x = true ∧
        b.route.retry.retries = 3 ∧ (p.registry.clusters.get? b.cluster).isSome := by
  intro p
  have hsound : ∀ e ∈ routed, e.IsSound := by
    intro e he
    cases he with
    | head => exact ⟨fun _ own => ⟨own.rules, own.ruleLists⟩, Event.keepsClusters_putCluster _⟩
    | tail _ he =>
      have hchecked : ∀ e ∈ routed.tail, e.isChecked = true := by
        simp [routed, Event.isChecked]
      exact .of_isChecked (hchecked e he)
  have hlater : ∀ e ∈ orphaned, e.isChecked = true := by
    simp [orphaned, Event.isChecked]
  have hstate : ((run routed (fresh false)).actor? 0).map (·.session.state) = some .routed := by
    decide +kernel
  have hwaits : (p.actor? 0).any waitsForThird = true := by decide +kernel
  obtain ⟨a, ha, hrouted⟩ := Option.map_eq_some_iff.mp hstate
  obtain ⟨b, hfound, hbound⟩ := run_bound hsound ha hrouted
  obtain ⟨x, hx, hkept, -, ⟨cluster, hcluster, -⟩, -⟩ :=
    hbound orphaned fun e he => .of_isChecked (hlater e he)
  rw [hx, Option.any_some] at hwaits
  refine ⟨by decide +kernel, by decide +kernel, b, x, hfound, hx, hwaits, ?_, ?_⟩
  · obtain ⟨-, hretries⟩ := Bool.and_eq_true_iff.mp hwaits
    obtain ⟨c, hc, hthree⟩ := (Option.any_eq_true _ _).mp hretries
    rw [← (hkept.connector c hc).2]
    exact beq_iff_eq.mp hthree
  · exact hcluster ▸ rfl

end Proxy

end Switchboard

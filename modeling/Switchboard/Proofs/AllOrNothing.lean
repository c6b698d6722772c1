/-
Routing is all or nothing.

In its first step a session gets the route and the metadata that are found for it, or it is left as
it is and comes to its end. Then it never calls into a cluster, and its outcome tells why nothing was
found, unless it is destroyed before it is terminated.

* `DestroyedFirst`: a session may have been destroyed before its next step;
* `apply_begin`, `apply_finish`: the first step of a session, and the one that terminates it;
* `run_endsWith`, `run_terminated`: what becomes of a session for which nothing is found;
* `run_allOrNothing`: **a session is bound as a whole or not at all**.
-/
import Switchboard.Proofs.BoundSessions
import Switchboard.Proofs.Lifecycle
import Switchboard.Proofs.Proxy.Calls
import Switchboard.Proofs.Session.Attempts

namespace Switchboard

namespace Proxy

variable {p : Proxy} {id : ActorId} {a : Actor} {r : Running} {e : Event} {outcome : Outcome}
  {destroyed : Prop}

/-! ### Steps -/

/-- A session starts with what is found for it. -/
theorem apply_begin (ha : p.actor? id = some a) (task : a.running.task = .starting) :
    (p.apply (.step id)).actor? id = some (a.become (.begin a.session a.hook.isSome
      (Binding.find p.registry a.session.ruleList a.session.metadata).1)) := by
  simp only [apply, stepActor, ha, bind, Option.bind_some, task, Option.getD_some]
  refine actor?_setActor_self ?_ _
  show (p.actor? id).isSome
  rw [ha]
  rfl

/-- A session that has come to its end is terminated in its next step. -/
theorem apply_finish (ha : p.actor? id = some a) (task : a.running.task = .ended outcome) :
    (p.apply (.step id)).running? id = some (.finish a.session outcome) := by
  have hrunning : (p.dropStreams id).running? id = some a.running := by
    rw [running?_dropStreams, running?_of_actor? ha]
  obtain ⟨b, hb, hsame⟩ := Option.map_eq_some_iff.mp hrunning
  simp only [apply, stepActor, ha, bind, Option.bind_some, task, Option.getD_some]
  rw [running?_changeActor, if_pos rfl, hb]
  show some (Running.finish b.running.session outcome) = some (Running.finish a.session outcome)
  rw [hsame]
  rfl

/-! ### After the end -/

/-- Some sessions are destroyed before the session `id` takes its next step. -/
def DestroyedFirst (id : ActorId) (events : List Event) : Prop :=
  ∃ before e after, events = before ++ e :: after ∧ e.isDestroying = true ∧ .step id ∉ before

theorem destroyedFirst_of_mem {events : List Event} (idle : .step id ∉ events) (he : e ∈ events)
    (destroying : e.isDestroying = true) (more : List Event) :
    DestroyedFirst id (events ++ more) := by
  obtain ⟨before, after, rfl⟩ := List.append_of_mem he
  refine ⟨before, e, after ++ more, by simp, destroying, fun hstep => idle ?_⟩
  exact List.mem_append_left _ hstep

/-- One event after the end of a session. -/
theorem endsWith_apply (hr : p.running? id = some r) (ends : r.EndsWith outcome destroyed)
    (told : e.isDestroying = true → destroyed) :
    ∃ next, (p.apply e).running? id = some next ∧ next.EndsWith outcome destroyed ∧
      next.session.name = r.session.name ∧ (r.Unbound → next.Unbound) ∧
      (r.session.isTerminated = true → next.session.isTerminated = true) := by
  obtain ⟨next, hnext, rfl | ⟨x, htells, hstep⟩⟩ := (p.apply_evolves e).old id r hr
  · exact ⟨next, hnext, ends, rfl, fun h => h, fun h => h⟩
  · refine ⟨next, hnext, ends.step hstep fun hx => told (htells hx),
      congrArg Prod.snd hstep.identity, fun unbound => ?_, hstep.isTerminated⟩
    rcases unbound.step hstep with hstill | ⟨hook, b, rfl, -⟩
    · exact hstill
    · exact absurd hstep.eq_begin.1 ends.started

/-- The next step of a session after its end. -/
theorem endsWith_step (hr : p.running? id = some r) (ends : r.EndsWith outcome destroyed) :
    ∃ next, (p.apply (.step id)).running? id = some next ∧ next.EndsWith outcome destroyed ∧
      next.session.isTerminated = true := by
  cases ends with
  | @ended s live unset =>
    obtain ⟨a, ha, hrunning⟩ := Option.map_eq_some_iff.mp hr
    have hsession : a.session = s := congrArg Running.session hrunning
    refine ⟨_, apply_finish ha (congrArg Running.task hrunning), ?_, ?_⟩
    · exact .finish (hsession ▸ live) outcome destroyed
    · exact a.session.isTerminated_terminate outcome
  | terminated settled done how =>
    obtain ⟨next, hnext, hends, -, -, hover⟩ :=
      endsWith_apply (e := .step id) hr (.terminated settled done how) nofun
    exact ⟨next, hnext, hends, hover settled⟩

/-- Whatever happens after the end of a session, it is terminated at most, and its metadata changes
by edits only. -/
theorem run_endsWith (later : List Event) (told : ∀ e ∈ later, e.isDestroying = true → destroyed)
    (own : p.OwnSessions) (ha : p.actor? id = some a)
    (ends : a.running.EndsWith outcome destroyed) (unbound : a.running.Unbound) :
    ∃ x, (run later p).actor? id = some x ∧ x.running.EndsWith outcome destroyed ∧
      x.running.Unbound ∧ (x.session.metadata = a.session.metadata ∨
        ∃ e ∈ later, e.edits? = some a.session.name) := by
  have hrun := run_invariant (· ∈ later) (fun p => p.OwnSessions ∧ ∃ x, p.actor? id = some x ∧
    x.running.EndsWith outcome destroyed ∧ x.running.Unbound ∧ x.session.name = a.session.name ∧
      (x.session.metadata = a.session.metadata ∨ ∃ e ∈ later, e.edits? = some a.session.name))
    (fun p e he hp => ?_) (fun _ h => h) ⟨own, a, ha, ends, unbound, rfl, .inl rfl⟩
  · obtain ⟨-, x, hx, hends, hunbound, -, hmetadata⟩ := hrun
    exact ⟨x, hx, hends, hunbound, hmetadata⟩
  · obtain ⟨hown, x, hx, hends, hunbound, hname, hmetadata⟩ := hp
    obtain ⟨next, hnext, hendsNext, hnameNext, hunboundNext, -⟩ :=
      endsWith_apply (running?_of_actor? hx) hends (told e he)
    obtain ⟨y, hy, rfl⟩ := Option.map_eq_some_iff.mp hnext
    refine ⟨ownSessions_apply hown e, y, hy, hendsNext, hunboundNext hunbound,
      hnameNext.trans hname, ?_⟩
    rcases apply_metadata hown hx hends.started e hy with hsame | ⟨hedits, -⟩
    · exact hsame ▸ hmetadata
    · exact .inr ⟨e, he, hname ▸ hedits⟩

/-- A session that has come to its end is terminated once it takes a step, and with the outcome that
it has come to unless it was destroyed before. -/
theorem run_terminated (later : List Event) (own : p.OwnSessions) (ha : p.actor? id = some a)
    (ends : ∀ destroyed, a.running.EndsWith outcome destroyed) (unbound : a.running.Unbound) :
    ∃ x, (run later p).actor? id = some x ∧
      (.step id ∈ later → x.session.state = .terminated) ∧
      (x.session.state = .terminated → x.session.outcome = some outcome ∨
        DestroyedFirst id later ∧ x.session.outcome = some .destroyed) := by
  by_cases hstep : .step id ∈ later
  · -- the events are cut at its first step, up to which it waits
    obtain ⟨before, after, rfl, hidle⟩ := List.eq_append_cons_of_mem hstep
    have htold : ∀ e ∈ before, e.isDestroying = true →
        DestroyedFirst id (before ++ .step id :: after) :=
      fun e he destroying => destroyedFirst_of_mem hidle he destroying _
    obtain ⟨y, hy, hyEnds, -⟩ := run_endsWith _ htold own ha (ends _) unbound
    obtain ⟨z, hz, hzEnds, hzOver⟩ := endsWith_step (running?_of_actor? hy) hyEnds
    -- it is terminated now, and whatever happens then is too late
    have hover : z.session.state = .terminated := of_decide_eq_true hzOver
    obtain ⟨final, hfinal, hrecord⟩ := run_settled after hz hzEnds.sound hover
    rw [← run_cons, ← run_append] at hfinal
    obtain ⟨x, hx, rfl⟩ := Option.map_eq_some_iff.mp hfinal
    refine ⟨x, hx, fun _ => (congrArg Prod.fst hrecord).trans hover, fun _ => ?_⟩
    have houtcome : x.session.outcome = z.session.outcome := congrArg (·.2.1) hrecord
    rw [houtcome]
    exact hzEnds.how hover
  · have htold : ∀ e ∈ later, e.isDestroying = true → DestroyedFirst id later := by
      intro e he destroying
      rw [← List.append_nil later]
      exact destroyedFirst_of_mem hstep he destroying []
    obtain ⟨x, hx, hxEnds, -⟩ := run_endsWith _ htold own ha (ends _) unbound
    exact ⟨x, hx, fun h => absurd h hstep, hxEnds.how⟩

/-! ### Runs -/

theorem ownSessions_run (strict : Bool) (events : List Event) :
    (run events (fresh strict)).OwnSessions :=
  run_invariant (fun _ => True) OwnSessions (fun _ e _ own => ownSessions_apply own e)
    (fun _ _ => trivial) nofun

/-- A session without a route has made no attempt to connect. -/
theorem attempts_of_unrouted (strict : Bool) (events : List Event)
    (h : (run events (fresh strict)).running? id = some r) (unrouted : r.session.route = none) :
    r.session.connectAttempts = 0 := by
  obtain ⟨number, name, ruleList, metadata, history, hfollows⟩ := run_follows strict events h
  exact (hfollows.accounts (Running.accounts_ofSession number name ruleList metadata)).balanced.unrouted
    unrouted

theorem calling?_of_unbound (ha : p.actor? id = some a) (unbound : a.running.Unbound) :
    p.calling? id = none := by
  cases hcalling : p.calling? id with
  | none => rfl
  | some c =>
    obtain ⟨b, hb, task, -⟩ := calling?_eq_some.mp hcalling
    rw [ha, Option.some_inj] at hb
    have hidle := unbound.idle
    rw [hb, task] at hidle
    cases hidle

/-- A session that is not bound has called into no cluster, and its next step is no call. -/
theorem run_callsNone {strict : Bool} {events : List Event}
    (there : (run events (fresh strict)).actor? id = some a) (unbound : a.running.Unbound) :
    let q := run events (fresh strict)
    a.session.connectAttempts = 0 ∧ q.calling? id = none ∧ (q.apply (.step id)).calls = q.calls := by
  intro q
  have hcalling : q.calling? id = none := calling?_of_unbound there unbound
  refine ⟨attempts_of_unrouted strict events (running?_of_actor? there) unbound.route, hcalling,
    q.calls_apply (.step id) fun j hj => ?_⟩
  cases hj
  exact hcalling

/-- A session that has not started is not bound. -/
theorem unbound_of_starting {strict : Bool} {events : List Event}
    (there : (run events (fresh strict)).actor? id = some a)
    (task : a.running.task = .starting) : a.running.Unbound := by
  rcases run_unbound_or_routed strict events (running?_of_actor? there) with
    hunbound | ⟨⟨b, hbound⟩, -⟩
  · exact hunbound
  · exact absurd task hbound.started

/-- A session that starts with a binding is routed at once. -/
theorem apply_begin_of_found {b : Binding} (ha : p.actor? id = some a)
    (task : a.running.task = .starting) (sound : a.running.Sound)
    (found : (Binding.find p.registry a.session.ruleList a.session.metadata).1 = .ok b) :
    ∃ x, (p.apply (.step id)).actor? id = some x ∧ x.running.Bound b ∧
      x.session = { a.session with
        metadata := b.metadata
        route := some b.route
        state := .routed
        connectAttempts := a.session.connectAttempts + 1 } := by
  have hlive : a.session.isTerminated = false := by
    refine Running.isTerminated_eq_false (sound.fits.live ?_ ?_) <;> simp [task]
  have hbound : { a.session with metadata := b.metadata, route := some b.route }.isTerminated =
      false := hlive
  refine ⟨_, apply_begin ha task, ?_, ?_⟩
  · rw [found]
    exact Running.bound_begin a.session a.hook.isSome b
  · rw [found]
    show (Running.begin a.session a.hook.isSome (.ok b)).session = _
    rw [Running.begin, Running.advance_of_live hbound]
    rfl

/-- What becomes of a session for which nothing is found. -/
theorem run_lost {strict : Bool} {events : List Event}
    (there : (run events (fresh strict)).actor? id = some a) (task : a.running.task = .starting)
    (found : (Binding.find (run events (fresh strict)).registry a.session.ruleList
      a.session.metadata).1 = .error outcome) (later : List Event) :
    let q := run later ((run events (fresh strict)).apply (.step id))
    ∃ x, q.actor? id = some x ∧ x.running.Unbound ∧
      (x.session.metadata = a.session.metadata ∨
        ∃ e ∈ later, e.edits? = some a.session.name) ∧
      (.step id ∈ later → x.session.state = .terminated) ∧
      (x.session.state = .terminated → x.session.outcome = some outcome ∨
        DestroyedFirst id later ∧ x.session.outcome = some .destroyed) := by
  intro q
  have hsound := run_sound strict events (running?_of_actor? there)
  have hlive : a.session.state ≠ .terminated := hsound.fits.live (by simp [task]) (by simp [task])
  have hunbound := unbound_of_starting there task
  -- the session as it is once it has looked for a route
  let ended : Actor := a.become ⟨a.session, .ended outcome⟩
  have hended : ((run events (fresh strict)).apply (.step id)).actor? id = some ended := by
    rw [apply_begin there task, found]
    rfl
  have hends : ∀ destroyed, ended.running.EndsWith outcome destroyed := fun _ =>
    .ended (Running.isTerminated_eq_false hlive) (hsound.outcome_eq_none hlive)
  have hendedUnbound : ended.running.Unbound := ⟨hunbound.route, rfl, hunbound.routed⟩
  have hown := ownSessions_apply (ownSessions_run strict events) (.step id)
  obtain ⟨x, hx, -, hxUnbound, hmetadata⟩ :=
    run_endsWith later (fun _ _ _ => trivial) hown hended (hends True) hendedUnbound
  obtain ⟨y, hy, hterminated⟩ := run_terminated later hown hended hends hendedUnbound
  rw [hx, Option.some_inj] at hy
  exact ⟨x, hx, hxUnbound, hmetadata, hy ▸ hterminated⟩

/-- A session that has attempted to connect is bound, and stays so. -/
theorem run_attempted {strict : Bool} {events : List Event}
    (there : (run events (fresh strict)).actor? id = some a)
    (attempted : a.session.connectAttempts ≠ 0) (later : List Event) :
    ∃ x, (run later (run events (fresh strict))).actor? id = some x ∧ x.running.IsRouted := by
  have hrunning := running?_of_actor? there
  rcases run_unbound_or_routed strict events hrunning with hunbound | ⟨⟨b, hbound⟩, -⟩
  · exact absurd (attempts_of_unrouted strict events hrunning hunbound.route) attempted
  · obtain ⟨next, hnext, hstill⟩ := bound_run later hrunning hbound
    obtain ⟨x, hx, rfl⟩ := Option.map_eq_some_iff.mp hnext
    refine ⟨x, hx, ?_⟩
    rw [← run_append] at hnext
    rcases run_unbound_or_routed strict _ hnext with hunbound | ⟨-, hrouted⟩
    · have hroute := hstill.route
      rw [hunbound.route] at hroute
      cases hroute
    · exact hrouted

/-- **Routing is all or nothing.** Take any session of a run that is about to start. If its list of
rules leads to a route and a cluster, and the stages of the route let its metadata pass, it has that
route and the metadata that came out of the stages, and calls into that cluster. In every other case
it is as it was before. Then it has no route and calls into no cluster, whatever happens later, and
its metadata changes by edits of this session only. It is terminated when it goes on, and its outcome
tells why nothing was found, unless it was destroyed first. A session that has attempted to connect
never ends with such an outcome. -/
theorem run_allOrNothing {strict : Bool} {events : List Event} {id : ActorId} {a : Actor}
    (there : (run events (fresh strict)).actor? id = some a) :
    let p := run events (fresh strict)
    let stages := p.registry.current.stage?
    (a.running.task = .starting →
      (∀ annotated route cluster metadata,
        p.registry.Resolves a.session.ruleList a.session.metadata annotated route cluster →
        StageDefinition.runAll stages route.ingress annotated = .ok metadata →
        ∃ x, (p.apply (.step id)).actor? id = some x ∧
          x.running.Bound ⟨route, cluster, metadata⟩ ∧
          x.session = { a.session with
            metadata, route := some route, state := .routed, connectAttempts := 1 }) ∧
      ((∀ annotated route cluster metadata,
        p.registry.Resolves a.session.ruleList a.session.metadata annotated route cluster →
        StageDefinition.runAll stages route.ingress annotated ≠ .ok metadata) →
        ∃ outcome, p.registry.Fails a.session.ruleList a.session.metadata outcome ∧
          (∃ x, (p.apply (.step id)).actor? id = some x ∧ x.session = a.session) ∧
          ∀ later,
            let q := run later (p.apply (.step id))
            ∃ x, q.actor? id = some x ∧ x.session.route = none ∧
              (x.session.metadata = a.session.metadata ∨
                ∃ e ∈ later, e.edits? = some a.session.name) ∧
              x.session.connectAttempts = 0 ∧ q.calling? id = none ∧
              (q.apply (.step id)).calls = q.calls ∧
              (.step id ∈ later → x.session.state = .terminated) ∧
              (x.session.state = .terminated → x.session.outcome = some outcome ∨
                DestroyedFirst id later ∧ x.session.outcome = some .destroyed))) ∧
    (a.session.connectAttempts ≠ 0 → ∀ later, ∃ x, (run later p).actor? id = some x ∧
      ∀ outcome, x.session.outcome = some outcome → outcome.isRoutingFailure = false) := by
  intro p stages
  have hrunning := running?_of_actor? there
  refine ⟨fun task => ⟨fun annotated route cluster metadata hresolves hwritten => ?_, fun hlost => ?_⟩,
    fun hattempted later => ?_⟩
  · have hfound : (Binding.find p.registry a.session.ruleList a.session.metadata).1 =
        .ok ⟨route, cluster, metadata⟩ :=
      Binding.find_eq_ok_iff.mpr ⟨annotated, hresolves, hwritten⟩
    obtain ⟨x, hx, hbound, hsession⟩ :=
      apply_begin_of_found there task (run_sound strict events hrunning) hfound
    have hattempts : a.session.connectAttempts = 0 :=
      attempts_of_unrouted strict events hrunning (unbound_of_starting there task).route
    rw [hattempts] at hsession
    exact ⟨x, hx, hbound, hsession⟩
  · cases hfound : (Binding.find p.registry a.session.ruleList a.session.metadata).1 with
    | ok b =>
      obtain ⟨annotated, hresolves, hwritten⟩ := Binding.find_eq_ok_iff.mp hfound
      exact absurd hwritten (hlost annotated b.route b.cluster b.metadata hresolves)
    | error outcome =>
      refine ⟨outcome, Binding.find_fails hfound, ⟨_, apply_begin there task, ?_⟩, fun later => ?_⟩
      · rw [hfound]
        rfl
      · obtain ⟨x, hx, hunbound, hmetadata, hterminated⟩ := run_lost there task hfound later
        -- the first step and what follows it are one run
        rw [← run_cons, ← run_append] at hx ⊢
        obtain ⟨hattempts, hcalling, hcalls⟩ := run_callsNone hx hunbound
        exact ⟨x, hx, hunbound.route, hmetadata, hattempts, hcalling, hcalls, hterminated⟩
  · obtain ⟨x, hx, hrouted⟩ := run_attempted there hattempted later
    exact ⟨x, hx, hrouted.outcome⟩

/-- A list of rules writes a mark into the metadata, the first stage of its route another one, and
the second one refuses the session. -/
def gated : List Event :=
  [.handIn (·.putCluster (.scripted ⟨"upstream", [], .accept, true⟩)),
    .operation (.addStage (.set "stamp" "/stamped" true)),
    .operation (.addStage (.deny "gate" "closed")),
    .operation (.addRoute (.ofFields [("name", "web"), ("destination", "upstream"),
      ("ingress", .array ["stamp", "gate"])])),
    .operation (.addRule (.ofFields [("name", "all"),
      ("action", .ofFields [("route", "web"), ("set", .ofFields [("seen", true)])])])),
    .operation (.addRuleList (.ofFields [("name", "main"), ("rules", .array ["all"])])),
    .dispatch (.ofFields [("name", "s")]) "main" none]

theorem run_allOrNothing_gated :
    let p := run gated (fresh false)
    let text := "stage \"gate\" failed: closed"
    ∃ a x d reason, p.actor? 0 = some a ∧ (run [.step 0, .step 0] p).actor? 0 = some x ∧
      p.registry.Stops a.session.ruleList a.session.metadata d reason ∧
      text = (RoutingFault.stageFailed d.label reason).message ∧
      x.session.metadata = a.session.metadata ∧ x.session.route = none ∧
      x.session.connectAttempts = 0 ∧ x.session.outcome = some (.routeAborted text) := by
  intro p text
  have hstarting : (p.actor? 0).map (·.running.task) = some .starting := by decide +kernel
  have hnothing : (p.actor? 0).map (fun a =>
      (Binding.find p.registry a.session.ruleList a.session.metadata).1.isOk) = some false := by
    decide +kernel
  have haborted : ((run [.step 0, .step 0] p).actor? 0).map (·.session.outcome) =
      some (some (.routeAborted text)) := by
    decide +kernel
  obtain ⟨a, ha, htask⟩ := Option.map_eq_some_iff.mp hstarting
  rw [ha, Option.map_some, Option.some_inj] at hnothing
  obtain ⟨outcome, hfails, -, hlater⟩ := ((run_allOrNothing ha).1 htask).2 <| by
    intro annotated route cluster metadata hresolves hwritten
    have hfound : (Binding.find p.registry a.session.ruleList a.session.metadata).1 =
        .ok ⟨route, cluster, metadata⟩ :=
      Binding.find_eq_ok_iff.mpr ⟨annotated, hresolves, hwritten⟩
    rw [hfound] at hnothing
    cases hnothing
  obtain ⟨x, hx, hroute, hmetadata, hattempts, -, -, hover, hended⟩ := hlater [.step 0]
  have houtcome : x.session.outcome = some (.routeAborted text) := by
    rw [run_cons, hx, Option.map_some, Option.some_inj] at haborted
    exact haborted
  rcases hended (hover (List.mem_singleton_self _)) with hsame | ⟨-, hdestroyed⟩
  · rw [houtcome, Option.some_inj] at hsame
    obtain ⟨d, reason, hstops, htext⟩ := (hfails.aborted text).mp hsame.symm
    refine ⟨a, x, d, reason, ha, hx, hstops, htext, ?_, hroute, hattempts, houtcome⟩
    rcases hmetadata with hkept | ⟨e, he, hedits⟩
    · exact hkept
    · cases List.mem_singleton.mp he
      cases hedits
  · rw [houtcome] at hdestroyed
    cases hdestroyed

end Proxy

end Switchboard

/-
How soon a session calls into its cluster again.

A call puts off the next one by the timeout of the session's policy, and nothing that happens until
then brings it forward. So a session that fails over and over again calls no faster than that.

* `restsUntil_call`, `restsUntil_run`: what a call puts off, and that it stays put off;
* `bound_of_calling`: a session that calls is bound to a route;
* `run_callsApart`: **any two calls of a session are a timeout apart**.
-/
import Switchboard.Proofs.BoundSessions
import Switchboard.Proofs.Proxy.Resting

namespace Switchboard

namespace Proxy

variable {p : Proxy} {id : ActorId} {a : Actor} {c : Connector}

/-! ### Runs -/

theorem clock_apply {e : Event} (timed : e.isTimed = true) (clock : p.wallTime = p.now) :
    (p.apply e).wallTime = (p.apply e).now := by
  by_cases hpass : ∃ duration wallDuration, e = .pass duration wallDuration
  · obtain ⟨duration, wallDuration, rfl⟩ := hpass
    have hsame : duration = wallDuration := beq_iff_eq.mp timed
    show p.wallTime + wallDuration = p.now + duration
    rw [clock, hsame]
  · have hclocks := p.clocks_apply e fun duration wallDuration h => hpass ⟨_, _, h⟩
    calc (p.apply e).wallTime = p.wallTime := congrArg Prod.snd hclocks
      _ = p.now := clock
      _ = (p.apply e).now := (congrArg Prod.fst hclocks).symm

theorem clock_run {events : List Event} (timed : ∀ e ∈ events, e.isTimed = true)
    (clock : p.wallTime = p.now) : (run events p).wallTime = (run events p).now :=
  run_invariant (·.isTimed = true) (fun p => p.wallTime = p.now) (fun _ _ => clock_apply) timed clock

/-- What rests until a time rests until then, whatever happens. -/
theorem restsUntil_run {events : List Event} {t : Nat} (timed : ∀ e ∈ events, e.isTimed = true)
    (clock : p.wallTime = p.now) (ha : p.actor? id = some a)
    (h : a.running.task.RestsUntil p.now t a.hold) :
    ∃ b, (run events p).actor? id = some b ∧
      b.running.task.RestsUntil (run events p).now t b.hold := by
  refine (run_invariant (·.isTimed = true) (fun p => p.wallTime = p.now ∧
    ∃ b, p.actor? id = some b ∧ b.running.task.RestsUntil p.now t b.hold)
    (fun p e he hp => ?_) timed ⟨clock, a, ha, h⟩).2
  obtain ⟨hclock, b, hb, hrests⟩ := hp
  exact ⟨clock_apply he hclock, restsUntil_apply he hclock hb hrests⟩

/-- From a call on a session rests for the timeout of its policy. -/
theorem restsUntil_call (clock : p.wallTime = p.now) (h : p.calling? id = some c) :
    ∃ b, (p.apply (.step id)).actor? id = some b ∧
      b.running.task.RestsUntil (p.apply (.step id)).now (p.now + c.policy.timeout) b.hold := by
  obtain ⟨a, ha, task, hold⟩ := calling?_eq_some.mp h
  let called := (p.callCluster c.cluster a.session.metadata).2
  have hstep : p.apply (.step id) =
      called.goOnConnected id a c (p.callCluster c.cluster a.session.metadata).1 := by
    simp [apply, stepActor, ha, task, hold, called]
  have hwall : called.wallTime = p.now :=
    (congrArg Prod.snd (p.clocks_callCluster c.cluster a.session.metadata)).trans clock
  have hthere : (called.actor? id).isSome := by
    rw [actor?, actors_callCluster, ← actor?, ha]
    rfl
  have hnow : (p.apply (.step id)).now = p.now := by
    refine congrArg Prod.fst (p.clocks_apply (.step id) ?_)
    intro duration wallDuration h
    cases h
  obtain ⟨b, hb, hrests⟩ := called.restsUntil_goOnConnected id task
    (p.callCluster c.cluster a.session.metadata).1
  rw [hnow]
  refine ⟨b, by rw [hstep, hb, actor?_setActor_self hthere], ?_⟩
  rw [hwall] at hrests
  exact hrests _ (Nat.le_refl _)

/-- A session that calls is bound. -/
theorem bound_of_calling (strict : Bool) (events : List Event)
    (h : (run events (fresh strict)).calling? id = some c) :
    ∃ r b, (run events (fresh strict)).running? id = some r ∧ r.Bound b ∧
      c.cluster = b.cluster ∧ c.policy = b.route.retry := by
  obtain ⟨a, ha, task, -⟩ := calling?_eq_some.mp h
  have hconnector : a.running.task.connector? = some c := by
    rw [task]
    rfl
  rcases run_unbound_or_routed strict events (running?_of_actor? ha) with
    hunbound | ⟨⟨b, hbound⟩, -⟩
  · rw [hunbound.idle] at hconnector
    cases hconnector
  · exact ⟨a.running, b, running?_of_actor? ha, hbound, hbound.connector c hconnector⟩

/-- **Reconnects are rate limited.** When a session of a run calls into its cluster and later on calls
again, the timeout of its route's policy lies between the two calls, as long as the timers and the
connections are measured by one clock. It is the same route and the same cluster. What happened in
between does not matter, nor how often it failed. -/
theorem run_callsApart {strict : Bool} {earlier between : List Event}
    (timed : ∀ e ∈ earlier ++ between, e.isTimed = true) {id : ActorId} {c c' : Connector}
    (first : (run earlier (fresh strict)).calling? id = some c)
    (second : (run between ((run earlier (fresh strict)).apply (.step id))).calling? id = some c') :
    let p := run earlier (fresh strict)
    let q := run between (p.apply (.step id))
    ∃ a b route, p.actor? id = some a ∧ a.session.route = some route ∧
      q.actor? id = some b ∧ b.session.route = some route ∧
      c'.cluster = c.cluster ∧ p.now + route.retry.timeout ≤ q.now := by
  intro p q
  obtain ⟨hearlier, hbetween⟩ := List.forall_mem_append.mp timed
  have hclock : p.wallTime = p.now := clock_run hearlier rfl
  have hclockCalled : (p.apply (.step id)).wallTime = (p.apply (.step id)).now :=
    clock_apply rfl hclock
  obtain ⟨r, binding, hr, hbound, hcluster, hpolicy⟩ := bound_of_calling strict earlier first
  obtain ⟨a, ha, rfl⟩ := Option.map_eq_some_iff.mp hr
  -- the session stays bound up to the second call
  obtain ⟨next, hnext, hstill⟩ : ∃ next, q.running? id = some next ∧ next.Bound binding := by
    obtain ⟨called, hcalled, hboundCalled⟩ := apply_bound (.step id) hr hbound
    exact bound_run between hcalled hboundCalled
  obtain ⟨b, hb, task, hold⟩ := calling?_eq_some.mp second
  obtain rfl : b.running = next := by
    rwa [running?_of_actor? hb, Option.some_inj] at hnext
  obtain ⟨hcluster', -⟩ := hstill.connector c' (by rw [task]; rfl)
  -- it rests from the first call on, and does not when it calls again
  obtain ⟨called, hcalled, hrests⟩ := restsUntil_call hclock first
  obtain ⟨b', hb', hdue⟩ := restsUntil_run hbetween hclockCalled hcalled hrests
  rw [hb, Option.some_inj] at hb'
  rw [← hb', task, hold, hpolicy] at hdue
  exact ⟨a, b, binding.route, ha, hbound.route, hb, hstill.route, hcluster'.trans hcluster.symm, hdue⟩

/-- A session is cut off a quarter into its timeout, and calls again when the timeout is over. -/
theorem run_callsApart_cutOff :
    let p := run routed (fresh false)
    let q := run [.pass 500 500, .far 1 .shutdown, .step 0, .step 0, .pass 1500 1500, .timer 0]
      (p.apply (.step 0))
    ∃ c c' b route, p.calling? 0 = some c ∧ q.calling? 0 = some c' ∧ q.actor? 0 = some b ∧
      b.session.route = some route ∧ p.now + route.retry.timeout ≤ q.now ∧ q.now = 2000 := by
  intro p q
  have hfirst : (p.calling? 0).isSome = true := by decide +kernel
  have hsecond : (q.calling? 0).isSome = true := by decide +kernel
  obtain ⟨c, hc⟩ := Option.isSome_iff_exists.mp hfirst
  obtain ⟨c', hc'⟩ := Option.isSome_iff_exists.mp hsecond
  obtain ⟨-, b, route, -, -, hb, hroute, -, hapart⟩ :=
    run_callsApart (by simp [routed, Event.isTimed]) hc hc'
  exact ⟨c, c', b, route, hc, hc', hb, hroute, hapart, by decide +kernel⟩

end Proxy

end Switchboard

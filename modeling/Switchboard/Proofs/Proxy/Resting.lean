/-
How long sessions rest between two calls.

After a call a session waits in one way or another, and each way has a time before which it does not
call again: the end of its timer, the delay that it has yet to wait for, the timeout of its policy
after the connect. No event brings this time forward, and a call puts it off by the whole timeout. So
it does not matter how often the session fails in between, and in which way.

* `Event.isTimed`: one clock for the timers and for the connections;
* `Task.RestsUntil`: the session does not call before a time;
* `Proxy.Rests`: sessions that rest until a time still do;
* `restsUntil_goOnConnected`: what comes of a call rests for the whole timeout;
* `restsUntil_apply`: no event brings the time forward.
-/
import Switchboard.Proofs.Proxy.Calls
import Switchboard.Proofs.Proxy.Turn

namespace Switchboard

/-- Whether both clocks go on alike. -/
def Event.isTimed : Event → Bool
  | pass duration wallDuration => duration == wallDuration
  | _ => true

/-- A session that has this task and is held up like this at the time `now` does not call into its
cluster before the time `t`. -/
def Task.RestsUntil (now t : Nat) : Task → Hold → Prop
  | starting, _ => t ≤ now
  | connecting _, .none => t ≤ now
  | connecting c, .forever => t ≤ now + c.policy.timeout
  | piping c since, _ => since ≤ now ∧ t ≤ since + c.policy.timeout
  | waiting _ delay _, .none => t ≤ now + delay
  | connecting _, .timer deadline _ | waiting _ _ _, .timer deadline _ => t ≤ deadline
  | reacquiring _, _ => t ≤ now
  | _, _ => True

/-! ### What a session does next -/

/-- Time that passes shortens what a session waits for, and brings nothing forward. -/
theorem Task.RestsUntil.pass {now t : Nat} {task : Task} {hold : Hold}
    (h : task.RestsUntil now t hold) (duration : Nat) :
    task.RestsUntil (now + duration) t hold := by
  cases task with
  | starting | reacquiring c => exact Nat.le_add_right_of_le h
  | connecting c =>
    cases hold with
    | none => exact Nat.le_add_right_of_le h
    | forever =>
      show t ≤ now + duration + c.policy.timeout
      have ht : t ≤ now + c.policy.timeout := h
      omega
    | timer deadline ticket => exact h
  | piping c since => exact ⟨Nat.le_add_right_of_le h.1, h.2⟩
  | waiting c delay next =>
    cases hold with
    | none =>
      show t ≤ now + duration + delay
      have ht : t ≤ now + delay := h
      omega
    | forever => trivial
    | timer deadline ticket => exact h
  | _ => trivial

namespace Running

variable {now t : Nat}

theorem restsUntil_begin (s : Session) (hook : Bool) (binding : Except Outcome Binding)
    (h : t ≤ now) : (begin s hook binding).task.RestsUntil now t .none := by
  cases binding with
  | error outcome => trivial
  | ok b =>
    rw [begin, advance]
    split
    · trivial
    · exact h

/-- The delay of a retry is the timeout, less what has gone by of it. -/
theorem restsUntil_retry (s : Session) (c : Connector) (failure : FailureKind) (reason : String)
    (elapsed : Option Nat) (next : Next) (h : t ≤ now + (c.policy.timeout - elapsed.getD 0)) :
    (retry s c failure reason elapsed next).task.RestsUntil now t .none := by
  unfold retry
  dsimp only
  split
  · trivial
  · split
    · trivial
    · rw [advance]
      split
      · trivial
      · exact h

theorem restsUntil_connected (s : Session) (c : Connector) (h : t ≤ now + c.policy.timeout) :
    (connected s c now).task.RestsUntil now t .none := by
  rw [connected, advance]
  split
  · trivial
  · exact ⟨Nat.le_refl now, h⟩

theorem restsUntil_pipeEnded (s : Session) (c : Connector) {since : Nat} (retriable : Bool)
    (e : Pipe.End) (hsince : since ≤ now) (h : t ≤ since + c.policy.timeout) :
    (pipeEnded s c since now retriable e).task.RestsUntil now t .none := by
  have hdelay : t ≤ now + (c.policy.timeout - (some (now - since)).getD 0) := by
    rw [Option.getD_some]
    omega
  cases e with
  | source reason =>
    rw [pipeEnded]
    split
    · exact restsUntil_retry s c _ reason _ _ hdelay
    · trivial
  | destination reason =>
    rw [pipeEnded]
    split
    · exact restsUntil_retry s c _ reason _ _ hdelay
    · trivial

theorem restsUntil_woken (s : Session) (c : Connector) (next : Next) (h : t ≤ now) :
    (woken s c next).task.RestsUntil now t .none := by
  cases next <;> exact h

end Running

/-! ### Single sessions -/

/-- The session `a` has gone on as `b`, and `b` rests as long as `a` did. -/
def Actor.StillRests (now : Nat) (a b : Actor) : Prop :=
  ∀ t, a.running.task.RestsUntil now t a.hold → b.running.task.RestsUntil now t b.hold

namespace Proxy

variable {now : Nat} {p q r : Proxy} {id : ActorId} {a : Actor} {c : Connector}

/-- At the time `now` all sessions go on resting while the proxy goes on from `p` to `q`. -/
def Rests (now : Nat) (p q : Proxy) : Prop :=
  ∀ id a, p.actor? id = some a → ∃ b, q.actor? id = some b ∧ a.StillRests now b

theorem Rests.of_actors (h : q.actors = p.actors) : p.Rests now q := by
  intro id a ha
  exact ⟨a, by rwa [actor?, h], fun _ h => h⟩

theorem Rests.refl (p : Proxy) : p.Rests now p := .of_actors rfl

theorem Rests.trans (h : p.Rests now q) (h' : q.Rests now r) : p.Rests now r := by
  intro id a ha
  obtain ⟨b, hb, hrests⟩ := h id a ha
  obtain ⟨b', hb', hrests'⟩ := h' id b hb
  exact ⟨b', hb', fun t ht => hrests' t (hrests t ht)⟩

/-- One session goes on. -/
theorem Rests.of_changeActor {f : Actor → Actor} (hq : q.actors = p.actors)
    (h : ∀ a, p.actor? id = some a → a.StillRests now (f a)) :
    p.Rests now (q.changeActor id f) := by
  intro j a ha
  have hactor : q.actor? j = some a := by rwa [actor?, hq]
  rw [actor?_changeActor, hactor]
  split
  · next hj => exact ⟨f a, rfl, h a (hj ▸ ha)⟩
  · exact ⟨a, rfl, fun _ h => h⟩

theorem Rests.of_setActor {b : Actor} (hq : q.actors = p.actors) (ha : p.actor? id = some a)
    (h : a.StillRests now b) : p.Rests now (q.setActor id b) :=
  .of_changeActor hq fun a' ha' => by
    rw [ha, Option.some_inj] at ha'
    exact ha' ▸ h

/-- After a call, or a late answer to one, a session rests for the whole timeout. -/
theorem restsUntil_goOnConnected (p : Proxy) (id : ActorId) (task : a.running.task = .connecting c)
    (answer : Option (Except String StreamId)) :
    ∃ b, p.goOnConnected id a c answer = p.setActor id b ∧
      ∀ t, t ≤ p.wallTime + c.policy.timeout → b.running.task.RestsUntil p.wallTime t b.hold := by
  rcases answer with _ | reason | stream
  · refine ⟨_, rfl, fun t ht => ?_⟩
    show a.running.task.RestsUntil p.wallTime t .forever
    rw [task]
    exact ht
  · exact ⟨_, rfl, fun t ht => Running.restsUntil_retry _ c _ reason none _ ht⟩
  · exact ⟨_, rfl, fun t ht => Running.restsUntil_connected _ c ht⟩

theorem rests_goOnConnected (clock : q.wallTime = now) (hq : q.actors = p.actors)
    (ha : p.actor? id = some a) (task : a.running.task = .connecting c)
    (hdue : ∀ t, a.running.task.RestsUntil now t a.hold → t ≤ now + c.policy.timeout)
    (answer : Option (Except String StreamId)) : p.Rests now (q.goOnConnected id a c answer) := by
  obtain ⟨b, hb, hrests⟩ := q.restsUntil_goOnConnected id task answer
  rw [hb]
  subst clock
  exact .of_setActor hq ha fun t ht => hrests t (hdue t ht)

/-- A pipe that ends leaves what is left of the timeout since the connect. -/
theorem rests_goOnPiped {since : Nat} (clock : q.wallTime = now) (hq : q.actors = p.actors)
    (ha : p.actor? id = some a) (task : a.running.task = .piping c since) (b : Actor)
    (e : Pipe.End) : p.Rests now (q.goOnPiped id b c since e) := by
  refine .of_setActor (by simp [hq]) ha fun t ht => ?_
  rw [task] at ht
  show (Running.pipeEnded b.session c since q.wallTime _ e).task.RestsUntil now t .none
  rw [clock]
  exact Running.restsUntil_pipeEnded _ c _ e ht.1 ht.2

/-- The delay is over when the source is asked for, and a failure starts another one. -/
theorem rests_goOnReacquired (ha : p.actor? id = some a) (task : a.running.task = .reacquiring c)
    (hook : Option Hook) (reply : Reply) :
    p.Rests now (p.goOnReacquired id { a with hook } c reply) := by
  have hdue {t : Nat} (ht : a.running.task.RestsUntil now t a.hold) : t ≤ now := by
    rwa [task] at ht
  cases reply with
  | hang =>
    refine .of_setActor rfl ha fun t ht => ?_
    show a.running.task.RestsUntil now t .forever
    rw [task]
    exact hdue ht
  | refuse reason =>
    exact .of_setActor rfl ha fun t ht =>
      Running.restsUntil_retry _ c _ reason none _ (Nat.le_add_right_of_le (hdue ht))
  | accept => exact .of_setActor (by simp) ha fun t ht => hdue ht

theorem rests_setTimer {delay : Nat} (h : ∀ a, p.actor? id = some a →
      a.StillRests now { a with hold := .timer (p.now + delay) p.nextTicket }) :
    p.Rests now (p.setTimer id delay) :=
  .of_changeActor (q := { p with nextTicket := p.nextTicket + 1 }) rfl h

/-- While a session forwards bytes, it does not matter what holds it up. -/
theorem rests_stepPiping {since : Nat} {next : Proxy} (clock : p.wallTime = now)
    (ha : p.actor? id = some a) (task : a.running.task = .piping c since)
    (h : p.stepPiping id a c since = some next) : p.Rests now next := by
  have hstill {b : Actor} (hb : b.running.task = a.running.task) : a.StillRests now b := by
    intro t ht
    rw [task] at ht
    rw [hb, task]
    exact ht
  unfold stepPiping at h
  split at h
  · next source destination _ _ =>
    split at h
    · dsimp only at h
      split at h
      · next pipe _ =>
        cases h
        let stored := (p.changeStream source fun _ => pipe.source).changeStream destination fun _ =>
          pipe.destination
        let b : Actor :=
          { a with
            running := ⟨{ a.session with bytesIn := pipe.bytesIn, bytesOut := pipe.bytesOut },
              a.running.task⟩
            draining := pipe.draining }
        have hset : p.Rests now (stored.setActor id b) := .of_setActor rfl ha (hstill rfl)
        have hthere : (stored.actor? id).isSome := ha ▸ rfl
        split
        · refine hset.trans (rests_setTimer fun b' hb' t ht => ?_)
          rw [actor?_setActor_self hthere b, Option.some_inj] at hb'
          subst hb'
          show a.running.task.RestsUntil now t _
          have ht : a.running.task.RestsUntil now t a.hold := ht
          rw [task] at ht ⊢
          exact ht
        · exact hset
      · cases h
        exact rests_goOnPiped (p := p) (a := a) (q := (p.changeStream _ _).changeStream _ _)
          clock rfl ha task _ _
      · obtain ⟨d, -, rfl⟩ := Option.map_eq_some_iff.mp h
        exact .of_actors rfl
    · cases h
  · cases h

/-! ### Events -/

theorem Aborts.rests (h : p.Aborts q) : p.Rests now q := by
  intro id a ha
  obtain ⟨b, hb, rfl | ⟨running, -⟩⟩ := h.old id a ha
  · exact ⟨b, hb, fun _ h => h⟩
  · refine ⟨b, hb, fun t _ => ?_⟩
    rw [running]
    trivial

theorem rests_stepActor {next : Proxy} (clock : p.wallTime = p.now)
    (h : p.stepActor id = some next) : p.Rests p.now next := by
  unfold stepActor at h
  obtain ⟨a, ha, h⟩ := Option.bind_eq_some_iff.mp h
  split at h
  · next task =>
    cases h
    refine .of_setActor rfl ha fun t ht => Running.restsUntil_begin _ _ _ ?_
    rwa [task] at ht
  · next c task hold =>
    have hnext : (p.callCluster c.cluster a.session.metadata).2.goOnConnected id a c
        (p.callCluster c.cluster a.session.metadata).1 = next := Option.some.inj h
    rw [← hnext]
    have hclocks := p.clocks_callCluster c.cluster a.session.metadata
    refine rests_goOnConnected ((congrArg Prod.snd hclocks).trans clock) (by simp) ha task
      (fun t ht => ?_) _
    rw [task, hold] at ht
    exact Nat.le_add_right_of_le ht
  · cases h
  · next task => exact rests_stepPiping clock ha task h
  · next c next task hold =>
    cases h
    refine .of_setActor rfl ha fun t ht => Running.restsUntil_woken _ c next ?_
    rwa [task, hold] at ht
  · next task hold =>
    cases h
    refine rests_setTimer fun b hb t ht => ?_
    rw [ha, Option.some_inj] at hb
    subst hb
    rw [task, hold] at ht
    show a.running.task.RestsUntil p.now t _
    rw [task]
    exact ht
  · cases h
  · next task _ =>
    cases h
    exact rests_goOnReacquired ha task _ _
  · cases h
  · next outcome task =>
    cases h
    have hdrops := dropStreams_drops ha
    refine fun j b hb => ?_
    rw [actor?_changeActor]
    split
    · next hj =>
      rw [← hj, hdrops.self]
      exact ⟨_, rfl, fun t _ => trivial⟩
    · next hj => exact ⟨b, by rw [hdrops.others j (Ne.symm hj), hb], fun _ h => h⟩
  · next task =>
    cases h
    exact .of_changeActor (by simp) fun b _ t _ => trivial
  · cases h

theorem rests_endTimer (clock : p.wallTime = p.now) (id : ActorId) :
    p.Rests p.now (p.endTimer id) := by
  unfold endTimer
  split
  · next deadline ticket hhold =>
    split
    · next hdeadline =>
      obtain ⟨a, ha, hold⟩ := Option.map_eq_some_iff.mp hhold
      unfold wake
      rw [ha]
      dsimp only
      split
      · next c _ next task =>
        refine .of_setActor rfl ha fun t ht => Running.restsUntil_woken _ c next ?_
        rw [task, hold] at ht
        exact Nat.le_trans ht hdeadline
      · next c since task => exact rests_goOnPiped clock rfl ha task a _
      · next waiting piping =>
        refine .of_changeActor rfl fun b hb t ht => ?_
        rw [ha, Option.some_inj] at hb
        subst hb
        show a.running.task.RestsUntil p.now t .none
        rw [hold] at ht
        cases htask : a.running.task with
        | starting | reacquiring c =>
          rw [htask] at ht
          exact ht
        | connecting c =>
          rw [htask] at ht
          exact Nat.le_trans ht hdeadline
        | waiting c delay next => exact absurd htask (waiting c delay next)
        | piping c since => exact absurd htask (piping c since)
        | _ => trivial
    · exact .refl p
  · exact .refl p

theorem rests_answerCall (clock : p.wallTime = p.now) (id : ActorId)
    (answer : Except String Duplex) : p.Rests p.now (p.answerCall id answer) := by
  unfold answerCall
  split
  · exact .refl p
  · next a ha =>
    split
    · next c task hold =>
      have hdue (t : Nat) (ht : a.running.task.RestsUntil p.now t a.hold) :
          t ≤ p.now + c.policy.timeout := by
        rwa [task, hold] at ht
      split
      · exact rests_goOnConnected clock rfl ha task hdue _
      · next s =>
        exact rests_goOnConnected (q := (p.openStream s).2) clock rfl ha task hdue _
    · exact .refl p

theorem rests_answerHook (p : Proxy) (id : ActorId) (reply : Reply) :
    p.Rests p.now (p.answerHook id reply) := by
  unfold answerHook
  split
  · exact .refl p
  · next a ha =>
    split
    · next c task hold => exact rests_goOnReacquired ha task a.hook reply
    · exact .refl p

theorem rests_destroy (p : Proxy) (name : String) : p.Rests p.now (p.destroy name).2 := by
  unfold destroy
  split
  · exact .refl p
  · next id _ => exact ((p.abort_aborts id).trans (leave_aborts _ id)).rests

theorem rests_accept (p : Proxy) (metadata : Json) (ruleList : String) (hook : Option Hook) :
    p.Rests p.now (p.accept metadata ruleList hook) := by
  have hactors : ((p.openStream .fresh).2.wishedName metadata).2.actors = p.actors := by simp
  unfold accept dispatch
  dsimp only
  split
  · next heq =>
    split at heq
    · cases heq
    · cases heq
      refine fun j a ha => ⟨a, ?_, fun _ h => h⟩
      rw [actor?_of_push (congrArg (Array.push · _) hactors), if_neg (ne_size_of_actor? ha), ha]
  · next heq =>
    split at heq
    · cases heq
      exact .of_actors (by simp)
    · cases heq

theorem rests_carryOut (p : Proxy) (op : Admin.Operation) : p.Rests p.now (op.carryOut p).2 := by
  have hpath (kind : EntityKind) (name path : String) (change : Admin.PathEdit) :
      p.Rests p.now (Admin.editPath p kind name path change).2 := by
    unfold Admin.editPath
    split
    · exact .refl p
    · split
      · exact .refl p
      · unfold Admin.editSession
        split
        · exact .refl p
        · split
          · exact .refl p
          · split
            · exact .refl p
            · exact .of_changeActor rfl fun _ _ _ h => h
      · exact .of_actors rfl
  cases op with
  | deleteSession name =>
    unfold Admin.Operation.carryOut Admin.deleteSession
    dsimp only
    split
    · exact .refl p
    · exact p.rests_destroy name
  | setPath kind name path value => exact hpath kind name path _
  | deletePath kind name path => exact hpath kind name path _
  | _ => exact .of_actors rfl

/-- At no event a session comes closer to its next call than by the time that passes. -/
theorem restsUntil_apply {e : Event} {t : Nat} (timed : e.isTimed = true)
    (clock : p.wallTime = p.now) (ha : p.actor? id = some a)
    (h : a.running.task.RestsUntil p.now t a.hold) :
    ∃ b, (p.apply e).actor? id = some b ∧
      b.running.task.RestsUntil (p.apply e).now t b.hold := by
  by_cases hpass : ∃ duration wallDuration, e = .pass duration wallDuration
  · obtain ⟨duration, wallDuration, rfl⟩ := hpass
    exact ⟨a, ha, h.pass duration⟩
  have hstill : p.Rests p.now (p.apply e) := by
    cases e with
    | operation op => exact p.rests_carryOut op
    | handIn change => exact .of_actors rfl
    | dispatch metadata ruleList hook => exact p.rests_accept metadata ruleList hook
    | destroy name => exact p.rests_destroy name
    | shutdown => exact (abortAll_aborts p.live p).rests
    | step id =>
      rw [apply]
      cases hstep : p.stepActor id with
      | none => exact .refl p
      | some next => exact rests_stepActor clock hstep
    | timer id => exact rests_endTimer clock id
    | answer id answer => exact rests_answerCall clock id answer
    | handOver id reply => exact p.rests_answerHook id reply
    | far id action => exact .of_actors rfl
    | reconnect network => exact .of_actors rfl
    | pass duration wallDuration => exact absurd ⟨_, _, rfl⟩ hpass
  have hclocks := p.clocks_apply e fun duration wallDuration h => hpass ⟨_, _, h⟩
  obtain ⟨b, hb, hrests⟩ := hstill id a ha
  refine ⟨b, hb, ?_⟩
  rw [show (p.apply e).now = p.now from congrArg Prod.fst hclocks]
  exact hrests t h

end Proxy

end Switchboard

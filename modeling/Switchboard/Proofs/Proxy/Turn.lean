/-
The turns that sessions take.

At every event each session goes on in one of a few ways, and only some of them touch the streams
that it holds. The module says so once, so that whatever depends on streams need not open the steps
again.

* `Goes`: the ways in which a session may go on, with what it holds;
* `Proxy.handedOut`: the stream that its cluster hands out to a session at an event;
* `apply_turns`: at every event every session goes on in one of these ways;
* `apply_turns_of_quiet`: unless bytes are forwarded or a far end does something, all bytes under
  way stay.
-/
import Switchboard.Proofs.Proxy.Sessions
import Switchboard.Proofs.Proxy.Streams

namespace Switchboard

/-! ### What a session does -/

/-- Whether bytes are forwarded. -/
def Task.isPiping : Task → Bool
  | .piping _ _ => true
  | _ => false

/-- What a session holds: its source, its destination, and all sources that it has had. -/
def Actor.holdings (a : Actor) : Option StreamId × Option StreamId × List StreamId :=
  (a.source, a.destination, a.sources)

/-- The signals that are no matter of streams. A session is bound to what is found for it. -/
inductive Signal.IsMinor : Signal → Prop
  | bound (hook : Bool) (r : Registry) (ruleList : String) (metadata : Json) :
      IsMinor (.bound hook (Binding.find r ruleList metadata).1)
  | refused (reason : String) : IsMinor (.refused reason)
  | delayOver : IsMinor .delayOver
  | notReacquired (reason : String) : IsMinor (.notReacquired reason)
  | edited (metadata : Json) : IsMinor (.edited metadata)

/-- What a session may do at some events only. -/
inductive Deed
  | forward
  /-- Its task comes to its end. -/
  | goAway

/-- `Goes may p q a b handed`: while the proxy goes on from `p` to `q`, a session goes on from `a` to
`b`, and `handed` is the stream that its cluster hands out to it. `may` says what of the above it
may do. -/
inductive Goes (may : Deed → Prop) (p q : Proxy) (a b : Actor) : Option StreamId → Prop
  | idle (running : b.running = a.running) (holdings : b.holdings = a.holdings) :
      Goes may p q a b none
  | told (x : Signal) (minor : x.IsMinor) (step : a.running.Step x b.running)
      (holdings : b.holdings = a.holdings) : Goes may p q a b none
  | forwarded (allowed : may .forward) (c : Connector) (since bytesIn bytesOut : Nat)
      (task : a.running.task = .piping c since)
      (running : b.running = ⟨{ a.session with bytesIn, bytesOut }, .piping c since⟩)
      (moreIn : a.session.bytesIn ≤ bytesIn) (moreOut : a.session.bytesOut ≤ bytesOut)
      (holdings : b.holdings = a.holdings) : Goes may p q a b none
  | connected (c : Connector) (now : Nat) (d : StreamId) (task : a.running.task = .connecting c)
      (running : b.running = .connected a.session c now)
      (holdings : b.holdings = (a.source, some d, a.sources)) (new : p.stream? d = none)
      (opened : (q.stream? d).isSome) : Goes may p q a b (some d)
  | unpiped (c : Connector) (since now : Nat) (retriable : Bool) (e : Pipe.End)
      (task : a.running.task = .piping c since)
      (running : b.running = .pipeEnded a.session c since now retriable e)
      (holdings : b.holdings = (a.source, none, a.sources))
      (letGo : ∀ d, a.destination = some d → (p.stream? d).isSome → q.LetGo d) :
      Goes may p q a b none
  | reacquired (c : Connector) (s : StreamId) (task : a.running.task = .reacquiring c)
      (running : b.running = .reacquired a.session c)
      (holdings : b.holdings = (some s, a.destination, a.sources ++ [s])) (new : p.stream? s = none)
      (opened : q.stream? s = some .fresh)
      (letGo : ∀ old, a.source = some old → (p.stream? old).isSome → q.LetGo old) :
      Goes may p q a b none
  | finished (outcome : Outcome) (task : a.running.task = .ended outcome)
      (running : b.running = .finish a.session outcome)
      (holdings : b.holdings = (none, none, a.sources))
      (letGo : ∀ s, a.source = some s ∨ a.destination = some s → (p.stream? s).isSome → q.LetGo s) :
      Goes may p q a b none
  | left (allowed : may .goAway) (task : a.running.task = .leaving)
      (running : b.running = ⟨a.session, .gone⟩) (holdings : b.holdings = a.holdings) :
      Goes may p q a b none
  | aborted (allowed : may .goAway) (running : b.running = a.running.destroy)
      (holdings : b.holdings = (none, none, a.sources))
      (letGo : ∀ s, a.source = some s ∨ a.destination = some s → (p.stream? s).isSome → q.LetGo s) :
      Goes may p q a b none
  -- it may be terminated some time before its task is broken off or takes note of that
  | terminated (running : b.running = ⟨a.session.terminate .destroyed, a.running.task⟩)
      (holdings : b.holdings = a.holdings) : Goes may p q a b none
  | noticed (terminated : a.session.isTerminated = true)
      (running : b.running = ⟨a.session, .ended .destroyed⟩) (holdings : b.holdings = a.holdings) :
      Goes may p q a b none

/-- How a session goes on does not depend on what it waits for. -/
theorem Goes.congr {may may' : Deed → Prop} {p q q' : Proxy} {a b b' : Actor} {h : Option StreamId}
    (hgoes : Goes may p q a b h) (weaker : ∀ d, may d → may' d)
    (streams : q'.streams = q.streams) (same : b'.running = b.running)
    (held : b'.holdings = b.holdings) : Goes may' p q' a b' h := by
  have hopen (s : StreamId) : q'.stream? s = q.stream? s := by
    rw [Proxy.stream?, streams, ← Proxy.stream?]
  have hgone {s : StreamId} (hs : q.LetGo s) : q'.LetGo s := by
    rwa [Proxy.LetGo, hopen]
  cases hgoes with
  | idle running holdings => exact .idle (same.trans running) (held.trans holdings)
  | told x minor step holdings => exact .told x minor (same ▸ step) (held.trans holdings)
  | forwarded allowed c since bytesIn bytesOut task running moreIn moreOut holdings =>
    exact .forwarded (weaker _ allowed) c since bytesIn bytesOut task (same.trans running)
      moreIn moreOut (held.trans holdings)
  | connected c now d task running holdings new opened =>
    exact .connected c now d task (same.trans running) (held.trans holdings) new
      (by rwa [hopen])
  | unpiped c since now retriable e task running holdings letGo =>
    exact .unpiped c since now retriable e task (same.trans running) (held.trans holdings)
      fun d hd there => hgone (letGo d hd there)
  | reacquired c s task running holdings new opened letGo =>
    exact .reacquired c s task (same.trans running) (held.trans holdings) new (by rwa [hopen])
      fun old hold there => hgone (letGo old hold there)
  | finished outcome task running holdings letGo =>
    exact .finished outcome task (same.trans running) (held.trans holdings)
      fun s hs there => hgone (letGo s hs there)
  | left allowed task running holdings =>
    exact .left (weaker _ allowed) task (same.trans running) (held.trans holdings)
  | aborted allowed running holdings letGo =>
    exact .aborted (weaker _ allowed) (same.trans running) (held.trans holdings)
      fun s hs there => hgone (letGo s hs there)
  | terminated running holdings => exact .terminated (same.trans running) (held.trans holdings)
  | noticed terminated running holdings =>
    exact .noticed terminated (same.trans running) (held.trans holdings)

namespace Proxy

/-- What becomes of the streams and the sessions of a proxy. `handed` says which stream is handed
out to which session. -/
structure Turns (R : Duplex → Duplex → Prop) (may : Deed → Prop) (handed : ActorId → Option StreamId)
    (p q : Proxy) : Prop where
  streams : p.Streams R q
  old : ∀ id a, p.actor? id = some a →
    ∃ b, q.actor? id = some b ∧ Goes may p q a b (handed id)
  /-- A session that is new has a source that is new. -/
  new : ∀ id b, p.actor? id = none → q.actor? id = some b → handed id = none ∧
    ∃ number name ruleList metadata s,
      b.running = .ofSession (.create number name ruleList metadata) ∧
        b.holdings = (some s, none, [s]) ∧ p.stream? s = none ∧ q.stream? s = some .fresh
  /-- At most one session is given a stream. -/
  alone : ∃ i, ∀ id, id ≠ i → handed id = none ∧
    ∀ b, q.actor? id = some b → ∃ a, p.actor? id = some a ∧ b.sources = a.sources

variable {R : Duplex → Duplex → Prop} {may : Deed → Prop} {handed : ActorId → Option StreamId}
  {p q r : Proxy} {id : ActorId} {a : Actor}

theorem Turns.mono {R' : Duplex → Duplex → Prop} {may' : Deed → Prop}
    (h : p.Turns R may handed q) (weaker : ∀ s t, R s t → R' s t)
    (weaker' : ∀ d, may d → may' d) : p.Turns R' may' handed q where
  streams := h.streams.mono weaker
  old id a ha := by
    obtain ⟨b, hb, hgoes⟩ := h.old id a ha
    exact ⟨b, hb, Goes.congr hgoes weaker' rfl rfl rfl⟩
  new := h.new
  alone := h.alone

/-- The sessions are left alone. -/
theorem Turns.of_actors (streams : p.Streams R q) (h : q.actors = p.actors) :
    p.Turns R may (fun _ => none) q where
  streams
  old id a ha := ⟨a, by rwa [actor?, h], .idle rfl rfl⟩
  new id b hnone hb := by
    rw [actor?, h, ← actor?, hnone] at hb
    cases hb
  alone := ⟨0, fun id _ => ⟨rfl, fun b hb => ⟨b, by rwa [actor?, h] at hb, rfl⟩⟩⟩

theorem actor?_changeActor (p : Proxy) (id : ActorId) (f : Actor → Actor) (j : ActorId) :
    (p.changeActor id f).actor? j = if id = j then (p.actor? j).map f else p.actor? j := by
  rw [actor?, changeActor, Array.getElem?_modify]
  rfl

theorem actor?_setActor_self (h : (p.actor? id).isSome) (b : Actor) :
    (p.setActor id b).actor? id = some b := by
  obtain ⟨a, ha⟩ := Option.isSome_iff_exists.mp h
  rw [setActor, actor?_changeActor, if_pos rfl, ha]
  rfl

theorem actor?_changeActor_of_ne {j : ActorId} (h : j ≠ id) (f : Actor → Actor) :
    (p.changeActor id f).actor? j = p.actor? j := by
  rw [actor?_changeActor, if_neg (Ne.symm h)]

theorem changeActor_of_none (h : p.actor? id = none) (f : Actor → Actor) :
    p.changeActor id f = p := by
  have hsame : p.actors.modify id f = p.actors := by
    rw [← Array.toList_inj, Array.toList_modify, List.modify_eq_self]
    exact Array.getElem?_eq_none_iff.mp h
  rw [changeActor, hsame]

/-- What holds a session up may change besides, and its table of names. -/
theorem Turns.hold {f : Actor → Hold} (h : p.Turns R may handed q) (id : ActorId)
    (streams : r.streams = q.streams)
    (actors : r.actors = (q.changeActor id fun a => { a with hold := f a }).actors) :
    p.Turns R may handed r := by
  have hactor (j : ActorId) : r.actor? j = if id = j then
      (q.actor? j).map fun a => { a with hold := f a } else q.actor? j := by
    rw [actor?, actors, ← actor?, actor?_changeActor]
  have hopen (s : StreamId) : r.stream? s = q.stream? s := by rw [stream?, streams, ← stream?]
  refine ⟨fun j s hs => ?_, fun j a ha => ?_, fun j b hnone hb => ?_, ?_⟩
  · rw [hopen]
    exact h.streams j s hs
  · obtain ⟨b, hb, hgoes⟩ := h.old j a ha
    rw [hactor, hb]
    split
    · exact ⟨_, rfl, hgoes.congr (fun _ h => h) streams rfl rfl⟩
    · exact ⟨b, rfl, hgoes.congr (fun _ h => h) streams rfl rfl⟩
  · simp only [hopen]
    rw [hactor] at hb
    split at hb
    · obtain ⟨b', hb', rfl⟩ := Option.map_eq_some_iff.mp hb
      exact h.new j b' hnone hb'
    · exact h.new j b hnone hb
  · obtain ⟨i, halone⟩ := h.alone
    refine ⟨i, fun j hj => ⟨(halone j hj).1, fun b hb => ?_⟩⟩
    rw [hactor] at hb
    split at hb
    · obtain ⟨b', hb', rfl⟩ := Option.map_eq_some_iff.mp hb
      exact (halone j hj).2 b' hb'
    · exact (halone j hj).2 b hb

theorem Turns.setTimer (h : p.Turns R may handed q) (id : ActorId) (delay : Nat) :
    p.Turns R may handed (q.setTimer id delay) :=
  h.hold id (f := fun _ => .timer (q.now + delay) q.nextTicket) rfl rfl

/-- One session goes on, and it alone. -/
theorem Turns.of_one {b : Actor} {h : Option StreamId} (streams : p.Streams R q)
    (ha : p.actor? id = some a) (hb : q.actor? id = some b)
    (others : ∀ j, j ≠ id → q.actor? j = p.actor? j) (goes : Goes may p q a b h)
    (hid : handed id = h) (hothers : ∀ j, j ≠ id → handed j = none) :
    p.Turns R may handed q where
  streams
  old j c hc := by
    by_cases hj : j = id
    · subst hj
      rw [ha, Option.some_inj] at hc
      exact ⟨b, hb, hc ▸ hid ▸ goes⟩
    · exact ⟨c, (others j hj).trans hc, by rw [hothers j hj]; exact .idle rfl rfl⟩
  new j c hnone hc := by
    have hj : j ≠ id := by
      rintro rfl
      rw [ha] at hnone
      cases hnone
    rw [others j hj, hnone] at hc
    cases hc
  alone := ⟨id, fun j hj => ⟨hothers j hj, fun c hc => ⟨c, others j hj ▸ hc, rfl⟩⟩⟩

/-- A session goes on after everything else has been done. -/
theorem Turns.of_setActor {b : Actor} {h : Option StreamId} (hq : q.actors = p.actors)
    (streams : p.Streams R q) (ha : p.actor? id = some a)
    (goes : Goes may p (q.setActor id b) a b h) (hid : handed id = h)
    (hothers : ∀ j, j ≠ id → handed j = none) : p.Turns R may handed (q.setActor id b) := by
  have hactor (j : ActorId) : q.actor? j = p.actor? j := by rw [actor?, hq, ← actor?]
  refine .of_one (fun j s hs => streams j s hs) ha ?_ (fun j hj => ?_) goes hid hothers
  · exact actor?_setActor_self (by rw [hactor, ha]; rfl) b
  · rw [setActor, actor?_changeActor_of_ne hj, hactor]

/-! ### Steps -/

/-- The stream that a call into a cluster has given. -/
def answered : Option (Except String StreamId) → Option StreamId
  | some (.ok d) => some d
  | _ => none

@[simp] theorem streams_noteCall (p : Proxy) (cluster : Cluster) (metadata : Json) :
    (p.noteCall cluster metadata).streams = p.streams := by
  cases cluster <;> rfl

/-- A call opens a stream if it gives one, and none else. -/
theorem callCluster_streams (p : Proxy) (id : ClusterId) (metadata : Json) :
    (answered (p.callCluster id metadata).1 = none ∧
        (p.callCluster id metadata).2.streams = p.streams) ∨
      answered (p.callCluster id metadata).1 = some p.streams.size ∧
        ∃ s, (p.callCluster id metadata).2.streams = p.streams.push s := by
  rw [callCluster]
  split
  · exact .inl ⟨rfl, rfl⟩
  · dsimp only
    split
    · simp [answered]
    · simp [answered]
    all_goals exact .inr ⟨by simp [answered, addPeer, openStream], _, by
      simp only [addPeer, openStream, streams_noteCall]; rfl⟩

theorem goOnConnected_turns {c : Connector} {answer : Option (Except String StreamId)}
    (hq : q.actors = p.actors) (streams : p.Streams R q) (ha : p.actor? id = some a)
    (task : a.running.task = .connecting c)
    (opened : ∀ d, answered answer = some d → p.stream? d = none ∧ (q.stream? d).isSome)
    (hid : handed id = answered answer) (hothers : ∀ j, j ≠ id → handed j = none) :
    p.Turns R may handed (q.goOnConnected id a c answer) := by
  rcases answer with _ | reason | d
  · exact .of_setActor hq streams ha (.idle rfl rfl) hid hothers
  · refine .of_setActor hq streams ha (.told _ (.refused reason) ?_ rfl) hid hothers
    rw [running_of_task task]
    exact .refused _ _ _
  · obtain ⟨hnew, hopened⟩ := opened d rfl
    exact .of_setActor hq streams ha (.connected c _ d task rfl rfl hnew hopened) hid hothers

theorem goOnPiped_turns {c : Connector} {since : Nat} (hq : q.actors = p.actors)
    (streams : p.Streams R q) (refl : ∀ s, R s s) (drop : ∀ s, R s s.drop)
    (trans : ∀ s t u, R s t → R t u → R s u) (ha : p.actor? id = some a)
    (task : a.running.task = .piping c since) (e : Pipe.End) :
    p.Turns R may (fun _ => none) (q.goOnPiped id a c since e) := by
  have hactors : (q.dropStream a.destination).actors = p.actors := by simp [hq]
  refine .of_setActor hactors (streams.trans (q.streams_dropStream _ refl drop) trans) ha
    (.unpiped c since q.wallTime _ e task rfl rfl fun d hd hthere => ?_) rfl fun _ _ => rfl
  obtain ⟨s, hs⟩ := Option.isSome_iff_exists.mp hthere
  obtain ⟨t, ht, -⟩ := streams d s hs
  rw [hd]
  exact letGo_dropStream (by rw [ht]; rfl)

theorem goOnReacquired_turns {c : Connector} (refl : ∀ s, R s s) (drop : ∀ s, R s s.drop)
    (trans : ∀ s t u, R s t → R t u → R s u) (ha : p.actor? id = some a)
    (task : a.running.task = .reacquiring c) (hook : Option Hook) (reply : Reply) :
    p.Turns R may (fun _ => none) (p.goOnReacquired id { a with hook } c reply) := by
  cases reply with
  | accept =>
    have hactors : ((p.dropStream a.source).openStream .fresh).2.actors = p.actors := by simp
    have hsize : (p.dropStream a.source).streams.size = p.streams.size := by
      cases a.source <;> simp [dropStream, changeStream]
    refine .of_setActor hactors ((p.streams_dropStream _ refl drop).trans
      (.of_push rfl refl) trans) ha (.reacquired c _ task rfl rfl ?_ ?_ fun old hold hthere => ?_)
      rfl fun _ _ => rfl
    · show p.stream? (p.dropStream a.source).streams.size = none
      rw [hsize, stream?_size]
    · exact stream?_of_push (p := p.dropStream a.source) rfl
    · -- the old source is let go of before the new one is opened
      have hgone : (p.dropStream a.source).LetGo old := hold ▸ letGo_dropStream hthere
      exact hgone.streams (.of_push (p := p.dropStream a.source) rfl fun _ h => h)
  | hang => exact .of_setActor rfl (.of_eq rfl refl) ha (.idle rfl rfl) rfl fun _ _ => rfl
  | refuse reason =>
    refine .of_setActor rfl (.of_eq rfl refl) ha (.told _ (.notReacquired reason) ?_ rfl) rfl
      fun _ _ => rfl
    rw [running_of_task task]
    exact .notReacquired _ _ _

/-! ### Pipes -/

end Proxy

/-- A step of a pipe forgets no end that was let go of. -/
def Pipe.Keeps (p : Pipe) : Pipe.Progress → Prop
  | .idle => True
  | .on next | .over _ next =>
    p.source.Lasts next.source ∧ p.destination.Lasts next.destination

namespace Pipe

theorem keeps_stepIn (p : Pipe) : p.Keeps p.stepIn := by
  have hread := p.source.lasts_read
  unfold stepIn
  split
  · trivial
  · exact ⟨id, id⟩
  · split
    · exact ⟨id, id⟩
    · next hshut => exact ⟨id, Duplex.lasts_shutdown hshut⟩
  · next heq =>
    rw [heq] at hread
    dsimp only
    split
    · exact ⟨hread, id⟩
    · next hwrite => exact ⟨hread, Duplex.lasts_write hwrite⟩

theorem keeps_stepOut (p : Pipe) : p.Keeps p.stepOut := by
  have hread := p.destination.lasts_read
  unfold stepOut
  split
  · trivial
  · exact ⟨id, id⟩
  · exact ⟨id, id⟩
  · next heq =>
    rw [heq] at hread
    dsimp only
    split
    · exact ⟨id, hread⟩
    · next hwrite => exact ⟨Duplex.lasts_write hwrite, hread⟩

theorem keeps_step (p : Pipe) : p.Keeps p.step := by
  have hin := p.keeps_stepIn
  have hout := p.keeps_stepOut
  unfold step
  split
  · split
    · next hover => rwa [hover] at hout
    · exact hout
  · split
    · exact hout
    · exact hin

end Pipe

namespace Proxy

variable {may : Deed → Prop} {handed : ActorId → Option StreamId} {p q : Proxy} {id : ActorId}
  {a : Actor}

theorem stepPiping_turns {c : Connector} {since : Nat} {next : Proxy} (allowed : may .forward)
    (ha : p.actor? id = some a) (task : a.running.task = .piping c since)
    (h : p.stepPiping id a c since = some next) :
    p.Turns Duplex.Lasts may (fun _ => none) next := by
  unfold stepPiping at h
  split at h
  · next source destination hsource hdestination =>
    split at h
    · next s d hs hd =>
      have hkeeps := Pipe.keeps_step ⟨s, d, a.draining, a.session.bytesIn, a.session.bytesOut⟩
      have hcounts := Pipe.counts_step ⟨s, d, a.draining, a.session.bytesIn, a.session.bytesOut⟩
      dsimp only at h
      split at h
      · next pipe hpipe =>
        rw [hpipe] at hkeeps hcounts
        cases h
        have hturns : p.Turns Duplex.Lasts may (fun _ => none)
            (((p.changeStream source fun _ => pipe.source).changeStream destination fun _ =>
              pipe.destination).setActor id { a with
                running := ⟨{ a.session with
                  bytesIn := pipe.bytesIn, bytesOut := pipe.bytesOut }, .piping c since⟩
                draining := pipe.draining }) :=
          .of_setActor rfl (streams_changeBoth hs hd hkeeps.1 hkeeps.2 Duplex.lasts_refl) ha
            (.forwarded allowed c since _ _ task rfl hcounts.1 hcounts.2 rfl) rfl fun _ _ => rfl
        rw [← task] at hturns
        split
        · exact hturns.setTimer id Pipe.drainTime
        · exact hturns
      · next e pipe hpipe =>
        rw [hpipe] at hkeeps hcounts
        obtain ⟨hin, hout⟩ := hcounts
        cases h
        rw [hin, hout]
        have hstored := streams_changeBoth hs hd hkeeps.1 hkeeps.2 Duplex.lasts_refl
        exact goOnPiped_turns (p := p) (a := a)
          (q := (p.changeStream source fun _ => pipe.source).changeStream destination
            fun _ => pipe.destination)
          rfl hstored Duplex.lasts_refl (fun _ _ => rfl) (fun _ _ _ => .trans) ha task e
      · obtain ⟨t, ht, rfl⟩ := Option.map_eq_some_iff.mp h
        refine .of_actors (p.streams_changeStream _ (fun u hu => ?_) Duplex.lasts_refl) rfl
        rw [hd, Option.some_inj] at hu
        exact hu ▸ Duplex.lasts_echo ht
    · cases h
  · cases h

/-! ### Single sessions -/

/-- Whether a session forwards bytes at an event. -/
def isForwarding (p : Proxy) : Event → Bool
  | .step id => (p.actor? id).any fun a => a.running.task.isPiping
  | _ => false

/-- Whether the task of a session may come to its end at an event. -/
def isEnding (p : Proxy) : Event → Bool
  | .step id => (p.actor? id).any fun a => a.running.task = .leaving
  | e => e.isDestroying

/-- What sessions may do at an event. -/
def mayDo (p : Proxy) (e : Event) : Deed → Prop
  | .forward => p.isForwarding e = true
  | .goAway => p.isEnding e = true

/-- The stream that the cluster of a session gives when the session calls into it now. -/
def called? (p : Proxy) (id : ActorId) : Option StreamId :=
  (p.actor? id).bind fun a =>
    match a.running.task, a.hold with
    | .connecting c, .none => answered (p.callCluster c.cluster a.session.metadata).1
    | _, _ => none

/-- Whether a session waits for an answer that its cluster has left open. -/
def awaitsAnswer (p : Proxy) (id : ActorId) : Bool :=
  (p.actor? id).any fun a =>
    match a.running.task, a.hold with
    | .connecting _, .forever => true
    | _, _ => false

/-- The stream that its cluster hands out to a session at an event. -/
def handedOut (p : Proxy) : Event → ActorId → Option StreamId
  | .step i, id => if i = id then p.called? id else none
  | .answer i (.ok s), id => if i = id && p.awaitsAnswer id then some (p.openStream s).1 else none
  | _, _ => none

theorem called?_of_task (ha : p.actor? id = some a)
    (h : ∀ c, a.running.task ≠ .connecting c) : p.called? id = none := by
  rw [called?, ha, Option.bind_some]
  split
  · next c htask _ => exact absurd htask (h c)
  · rfl

theorem called?_of_stepActor_eq_none (h : p.stepActor id = none) : p.called? id = none := by
  cases ha : p.actor? id with
  | none => rw [called?, ha, Option.bind_none]
  | some a =>
    rw [called?, ha, Option.bind_some]
    split
    · next c task hold => simp [stepActor, ha, task, hold] at h
    · rfl

theorem handedOut_step_of_ne {j : ActorId} (h : j ≠ id) : p.handedOut (.step id) j = none :=
  if_neg (Ne.symm h)

theorem handedOut_step_of_called?_eq_none (h : p.called? id = none) :
    p.handedOut (.step id) = fun _ => none := by
  funext j
  by_cases hj : id = j
  · subst hj
    exact (if_pos rfl).trans h
  · exact if_neg hj

theorem handedOut_of_absent (h : p.actor? id = none) (e : Event) : p.handedOut e id = none := by
  cases e with
  | step i => simp [handedOut, called?, h]
  | answer i answer => cases answer <;> simp [handedOut, awaitsAnswer, h]
  | _ => rfl

@[simp] theorem streams_leave (p : Proxy) (id : ActorId) : (p.leave id).streams = p.streams := by
  rw [leave]
  split
  · rfl
  · split
    · split <;> rfl
    · rfl

/-- A session lets go of its streams, and nothing else happens. -/
structure Drops (p : Proxy) (id : ActorId) (a : Actor) (q : Proxy) : Prop where
  streams : p.Streams Duplex.Stays q
  self : q.actor? id = some { a with source := none, destination := none }
  others : ∀ j, j ≠ id → q.actor? j = p.actor? j
  letGo : ∀ s, a.source = some s ∨ a.destination = some s → (p.stream? s).isSome → q.LetGo s

theorem dropStreams_drops (ha : p.actor? id = some a) : p.Drops id a (p.dropStreams id) := by
  have hsource := p.streams_dropStream a.source .refl Duplex.stays_drop
  have hdestination := (p.dropStream a.source).streams_dropStream a.destination .refl
    Duplex.stays_drop
  have hactors : ((p.dropStream a.source).dropStream a.destination).actors = p.actors := by simp
  have hactor (j : ActorId) :
      ((p.dropStream a.source).dropStream a.destination).actor? j = p.actor? j := by
    rw [actor?, hactors, ← actor?]
  have hdrop : p.dropStreams id = ((p.dropStream a.source).dropStream a.destination).setActor id
      { a with source := none, destination := none } := by
    rw [dropStreams, ha]
  rw [hdrop]
  refine ⟨hsource.trans hdestination fun _ _ _ => .trans, ?_, fun j hj => ?_, ?_⟩
  · exact actor?_setActor_self (by rw [hactor, ha]; rfl) _
  · rw [setActor, actor?_changeActor_of_ne hj, hactor]
  · rintro s (hs | hs) hthere
    · have hgone := hs ▸ letGo_dropStream (p := p) hthere
      exact hgone.streams (hdestination.mono fun _ _ h => h.gone)
    · obtain ⟨t, ht⟩ := Option.isSome_iff_exists.mp hthere
      obtain ⟨u, hu, -⟩ := hsource s t ht
      rw [hs]
      exact letGo_dropStream (p := p.dropStream a.source) (by rw [hu]; rfl)

/-- A step of a session that does not forward bytes. -/
theorem stepActor_turns {next : Proxy} (h : p.stepActor id = some next)
    (quiet : p.isForwarding (.step id) = false) :
    p.Turns Duplex.Stays (p.mayDo (.step id)) (p.handedOut (.step id)) next := by
  have hrefl : p.Streams Duplex.Stays p := .of_eq rfl .refl
  unfold stepActor at h
  obtain ⟨a, ha, h⟩ := Option.bind_eq_some_iff.mp h
  -- only a session that calls into its cluster is given a stream
  have hnone (other : ∀ c, a.running.task ≠ .connecting c) :
      p.handedOut (.step id) = fun _ => none :=
    handedOut_step_of_called?_eq_none (called?_of_task ha other)
  split at h
  · next task =>
    rw [hnone (by simp [task])]
    cases h
    refine .of_setActor rfl hrefl ha (.told _ (.bound a.hook.isSome p.registry a.session.ruleList
      a.session.metadata) ?_ rfl) rfl fun _ _ => rfl
    rw [running_of_task task]
    exact .bound _ _ _
  · next c task hold =>
    have hnext : (p.callCluster c.cluster a.session.metadata).2.goOnConnected id a c
        (p.callCluster c.cluster a.session.metadata).1 = next := Option.some.inj h
    rw [← hnext]
    have hhanded : p.handedOut (.step id) id =
        answered (p.callCluster c.cluster a.session.metadata).1 := by
      simp [handedOut, called?, ha, task, hold]
    rcases p.callCluster_streams c.cluster a.session.metadata with ⟨hfailed, hsame⟩ |
      ⟨hsome, s, hpush⟩
    · exact goOnConnected_turns (by simp) (.of_eq hsame .refl) ha task (by simp [hfailed]) hhanded
        fun j hj => handedOut_step_of_ne hj
    · refine goOnConnected_turns (by simp) (.of_push hpush .refl) ha task (fun d hd => ?_) hhanded
        fun j hj => handedOut_step_of_ne hj
      rw [hsome, Option.some_inj] at hd
      exact hd ▸ ⟨p.stream?_size, isSome_stream?_of_push hpush⟩
  · cases h
  · next task => simp [isForwarding, ha, task, Task.isPiping] at quiet
  · next c next task _ =>
    rw [hnone (by simp [task])]
    cases h
    refine .of_setActor rfl hrefl ha (.told _ .delayOver ?_ rfl) rfl fun _ _ => rfl
    rw [running_of_task task]
    exact .delayOver _ _ _ _
  · next task _ =>
    rw [hnone (by simp [task])]
    cases h
    exact (Turns.of_actors hrefl rfl).setTimer id _
  · cases h
  · next c task _ =>
    rw [hnone (by simp [task])]
    cases h
    exact goOnReacquired_turns .refl Duplex.stays_drop (fun _ _ _ => .trans) ha task _ _
  · cases h
  · next outcome task =>
    rw [hnone (by simp [task])]
    cases h
    have hdrops := dropStreams_drops ha
    refine .of_one hdrops.streams ha (b := Actor.become { a with
      source := none, destination := none } (.finish a.session outcome)) ?_ (fun j hj => ?_)
      (.finished outcome task rfl rfl hdrops.letGo) rfl fun _ _ => rfl
    · rw [actor?_changeActor, if_pos rfl, hdrops.self]
      rfl
    · rw [actor?_changeActor_of_ne hj, hdrops.others j hj]
  · next task =>
    rw [hnone (by simp [task])]
    cases h
    have hactor (j : ActorId) : (p.leave id).actor? j = p.actor? j := by
      rw [actor?, actors_leave, ← actor?]
    refine .of_one (.of_eq (p.streams_leave id) .refl) ha (b := a.become ⟨a.session, .gone⟩) ?_
      (fun j hj => ?_) (.left (by simp [mayDo, isEnding, ha, task]) task rfl rfl) rfl fun _ _ => rfl
    · rw [actor?_changeActor, if_pos rfl, hactor, ha]
      rfl
    · rw [actor?_changeActor_of_ne hj, hactor]
  · cases h

theorem Turns.refl (p : Proxy) : p.Turns Duplex.Stays may (fun _ => none) p :=
  .of_actors (.of_eq rfl .refl) rfl

theorem wake_turns (p : Proxy) (id : ActorId) :
    p.Turns Duplex.Stays may (fun _ => none) (p.wake id) := by
  have hrefl : p.Streams Duplex.Stays p := .of_eq rfl .refl
  unfold wake
  split
  · exact .refl p
  · next a ha =>
    split
    · next task =>
      refine .of_setActor rfl hrefl ha (.told _ .delayOver ?_ rfl) rfl fun _ _ => rfl
      rw [running_of_task task]
      exact .delayOver _ _ _ _
    · next task =>
      exact goOnPiped_turns rfl hrefl .refl Duplex.stays_drop (fun _ _ _ => .trans) ha task _
    · exact (Turns.refl p).hold id (f := fun _ => .none) rfl rfl

theorem endTimer_turns (p : Proxy) (id : ActorId) :
    p.Turns Duplex.Stays may (fun _ => none) (p.endTimer id) := by
  unfold endTimer
  split
  · split
    · exact p.wake_turns id
    · exact .refl p
  · exact .refl p

theorem awaitsAnswer_of (ha : p.actor? id = some a) {c : Connector}
    (task : a.running.task = .connecting c) (hold : a.hold = .forever) :
    p.awaitsAnswer id = true := by
  simp [awaitsAnswer, ha, task, hold]

theorem handedOut_answer_of_not_awaits (h : p.awaitsAnswer id = false)
    (answer : Except String Duplex) : p.handedOut (.answer id answer) = fun _ => none := by
  funext j
  cases answer with
  | error reason => rfl
  | ok s =>
    refine if_neg fun hj => ?_
    rw [Bool.and_eq_true, decide_eq_true_iff] at hj
    rw [hj.1, hj.2] at h
    cases h

theorem answerCall_turns (p : Proxy) (id : ActorId) (answer : Except String Duplex) :
    p.Turns Duplex.Stays may (p.handedOut (.answer id answer)) (p.answerCall id answer) := by
  unfold answerCall
  split
  · next ha =>
    rw [handedOut_answer_of_not_awaits (by rw [awaitsAnswer, ha]; rfl)]
    exact .refl p
  · next a ha =>
    split
    · next c task hold =>
      have hawaits := awaitsAnswer_of ha task hold
      split
      · next reason =>
        exact goOnConnected_turns rfl (.of_eq rfl Duplex.Stays.refl) ha task
          (fun _ hd => by cases hd) rfl fun _ _ => rfl
      · next s =>
        refine goOnConnected_turns (p.actors_openStream s) (.of_push (s := s) rfl .refl) ha task
          (fun d hd => ?_) ?_ fun j hj => ?_
        · cases hd
          exact ⟨p.stream?_size, isSome_stream?_of_push (s := s) rfl⟩
        · simp [handedOut, hawaits, answered, openStream]
        · simp [handedOut, Ne.symm hj]
    · next other =>
      rw [handedOut_answer_of_not_awaits ?_]
      · exact .refl p
      · rw [awaitsAnswer, ha, Option.any_some]
        split
        · next c task hold => exact absurd hold (other c task)
        · rfl

theorem answerHook_turns (p : Proxy) (id : ActorId) (reply : Reply) :
    p.Turns Duplex.Stays may (fun _ => none) (p.answerHook id reply) := by
  unfold answerHook
  split
  · exact .refl p
  · next a ha =>
    split
    · next c task _ =>
      exact goOnReacquired_turns .refl Duplex.stays_drop (fun _ _ _ => .trans) ha task a.hook reply
    · exact .refl p

theorem setMetadata_turns (p : Proxy) (id : ActorId) (metadata : Json) :
    p.Turns Duplex.Stays may (fun _ => none) (p.setMetadata id metadata) := by
  cases ha : p.actor? id with
  | none =>
    rw [setMetadata, changeActor_of_none ha]
    exact .refl p
  | some a =>
    refine .of_one (.of_eq rfl .refl) ha (b := { a with running := { a.running with session :=
      { a.session with metadata } } }) ?_ (fun j hj => actor?_changeActor_of_ne hj _)
      (.told _ (.edited metadata) ?_ rfl) rfl fun _ _ => rfl
    · rw [setMetadata, actor?_changeActor, if_pos rfl, ha]
      rfl
    · exact .edited _ _ _

/-! ### Starts and ends -/

/-- A session is added, and its source is a new stream. -/
theorem Turns.of_push {b : Actor} {number : SessionId} {name ruleList : String} {metadata : Json}
    (streams : q.streams = p.streams.push .fresh) (actors : q.actors = p.actors.push b)
    (running : b.running = .ofSession (.create number name ruleList metadata))
    (holdings : b.holdings = (some p.streams.size, none, [p.streams.size])) :
    p.Turns Duplex.Stays may (fun _ => none) q := by
  have hactor := actor?_of_push actors
  refine ⟨.of_push streams .refl, fun j a ha => ⟨a, ?_, .idle rfl rfl⟩, fun j c hnone hc => ?_,
    p.actors.size, fun j hj => ⟨rfl, fun c hc => ?_⟩⟩
  · rw [hactor, if_neg (ne_size_of_actor? ha), ha]
  · rw [hactor, hnone] at hc
    split at hc
    · cases hc
      exact ⟨rfl, _, _, _, _, _, running, holdings, p.stream?_size, stream?_of_push streams⟩
    · cases hc
  · rw [hactor, if_neg hj] at hc
    exact ⟨c, hc, rfl⟩

theorem accept_turns (p : Proxy) (metadata : Json) (ruleList : String) (hook : Option Hook) :
    p.Turns Duplex.Stays may (fun _ => none) (p.accept metadata ruleList hook) := by
  have hstreams := (p.openStream .fresh).2.streams_wishedName metadata
  have hactors : ((p.openStream .fresh).2.wishedName metadata).2.actors = p.actors := by simp
  unfold accept dispatch
  dsimp only
  split
  · next heq =>
    split at heq
    · cases heq
    · cases heq
      exact .of_push hstreams (congrArg (Array.push · _) hactors) rfl rfl
  · next heq =>
    split at heq
    · cases heq
      have hpush : p.Streams Duplex.Stays _ := .of_push hstreams .refl
      exact .of_actors (hpush.trans (streams_dropStream _ _ .refl Duplex.stays_drop)
        fun _ _ _ => .trans) (by simp)
    · cases heq

/-- Some sessions are aborted. -/
structure Aborts (p q : Proxy) : Prop where
  streams : p.Streams Duplex.Stays q
  old : ∀ id a, p.actor? id = some a → ∃ b, q.actor? id = some b ∧
    (b = a ∨ (b.running = a.running.destroy ∧ b.holdings = (none, none, a.sources) ∧
      ∀ s, a.source = some s ∨ a.destination = some s → (p.stream? s).isSome → q.LetGo s))
  new : ∀ id, p.actor? id = none → q.actor? id = none

theorem Aborts.refl (p : Proxy) : p.Aborts p :=
  ⟨.of_eq rfl .refl, fun _ a ha => ⟨a, ha, .inl rfl⟩, fun _ h => h⟩

/-- A session that is aborted twice is as it was after the first time. -/
theorem Aborts.trans (h : p.Aborts q) (h' : q.Aborts r) : p.Aborts r := by
  have hlasts := h'.streams.mono fun _ _ hst => hst.gone
  refine ⟨h.streams.trans h'.streams fun _ _ _ => .trans, fun id a ha => ?_,
    fun id hnone => h'.new id (h.new id hnone)⟩
  obtain ⟨b, hb, hfirst⟩ := h.old id a ha
  obtain ⟨c, hc, hsecond⟩ := h'.old id b hb
  refine ⟨c, hc, ?_⟩
  rcases hfirst with rfl | ⟨hrun, hheld, hgone⟩
  · rcases hsecond with rfl | ⟨hrun', hheld', hgone'⟩
    · exact .inl rfl
    · refine .inr ⟨hrun', hheld', fun s hs there => hgone' s hs ?_⟩
      obtain ⟨t, ht⟩ := Option.isSome_iff_exists.mp there
      obtain ⟨u, hu, -⟩ := h.streams s t ht
      rw [hu]
      rfl
  · have hgoneLater (s : StreamId) (hs : a.source = some s ∨ a.destination = some s)
        (there : (p.stream? s).isSome) : r.LetGo s := (hgone s hs there).streams hlasts
    rcases hsecond with rfl | ⟨hrun', hheld', -⟩
    · exact .inr ⟨hrun, hheld, hgoneLater⟩
    · refine .inr ⟨?_, ?_, hgoneLater⟩
      · rw [hrun', hrun, Running.destroy_destroy]
      · rw [hheld', show b.sources = a.sources from congrArg (·.2.2) hheld]

theorem Aborts.turns (h : p.Aborts q) (allowed : may .goAway) :
    p.Turns Duplex.Stays may (fun _ => none) q where
  streams := h.streams
  old id a ha := by
    obtain ⟨b, hb, rfl | ⟨running, holdings, letGo⟩⟩ := h.old id a ha
    · exact ⟨b, hb, .idle rfl rfl⟩
    · exact ⟨b, hb, .aborted allowed running holdings letGo⟩
  new id b hnone hb := by
    rw [h.new id hnone] at hb
    cases hb
  alone := by
    refine ⟨0, fun id _ => ⟨rfl, fun b hb => ?_⟩⟩
    cases ha : p.actor? id with
    | none =>
      rw [h.new id ha] at hb
      cases hb
    | some a =>
      obtain ⟨b', hb', hchange⟩ := h.old id a ha
      rw [hb, Option.some_inj] at hb'
      refine ⟨a, rfl, ?_⟩
      rcases hchange with rfl | ⟨-, holdings, -⟩
      · rw [hb']
      · rw [hb']
        exact congrArg (·.2.2) holdings

theorem abort_of_absent (h : p.actor? id = none) : p.abort id = p := by
  have hdrops : p.dropStreams id = p := by rw [dropStreams, h]
  rw [abort, hdrops, changeActor_of_none h]

theorem actor?_abort_of_ne {j : ActorId} (h : j ≠ id) : (p.abort id).actor? j = p.actor? j := by
  cases ha : p.actor? id with
  | none => rw [abort_of_absent ha]
  | some a => rw [abort, actor?_changeActor_of_ne h, (dropStreams_drops ha).others j h]

theorem abort_aborts (p : Proxy) (id : ActorId) : p.Aborts (p.abort id) := by
  cases ha : p.actor? id with
  | none =>
    rw [abort_of_absent ha]
    exact .refl p
  | some a =>
    have hdrops := dropStreams_drops ha
    refine ⟨hdrops.streams, fun j b hb => ?_, fun j hnone => ?_⟩
    · by_cases hj : j = id
      · subst hj
        rw [ha, Option.some_inj] at hb
        subst hb
        refine ⟨Actor.become { a with source := none, destination := none } a.running.destroy, ?_,
          .inr ⟨rfl, rfl, hdrops.letGo⟩⟩
        rw [abort, actor?_changeActor, if_pos rfl, hdrops.self]
        rfl
      · exact ⟨b, by rw [actor?_abort_of_ne hj, hb], .inl rfl⟩
    · have hj : j ≠ id := by
        rintro rfl
        rw [ha] at hnone
        cases hnone
      rw [actor?_abort_of_ne hj, hnone]

theorem leave_aborts (p : Proxy) (id : ActorId) : p.Aborts (p.leave id) := by
  have hactor (j : ActorId) : (p.leave id).actor? j = p.actor? j := by
    rw [actor?, actors_leave, ← actor?]
  exact ⟨.of_eq (p.streams_leave id) .refl, fun j a hj => ⟨a, by rw [hactor, hj], .inl rfl⟩,
    fun j hj => by rw [hactor, hj]⟩

theorem abortAll_aborts (entries : Table ActorId) (p : Proxy) :
    p.Aborts (entries.foldl (fun p e => (p.abort e.2).leave e.2) p) := by
  induction entries generalizing p with
  | nil => exact .refl p
  | cons e rest ih =>
    exact ((p.abort_aborts e.2).trans (leave_aborts _ e.2)).trans (ih _)

theorem destroy_turns (p : Proxy) (name : String) (allowed : may .goAway) :
    p.Turns Duplex.Stays may (fun _ => none) (p.destroy name).2 := by
  unfold destroy
  split
  · exact .refl p
  · next id _ => exact ((p.abort_aborts id).trans (leave_aborts _ id)).turns allowed

/-! ### Events -/

theorem editPath_turns (p : Proxy) (kind : EntityKind) (name path : String)
    (change : Admin.PathEdit) :
    p.Turns Duplex.Stays may (fun _ => none) (Admin.editPath p kind name path change).2 := by
  unfold Admin.editPath
  split
  · exact .refl p
  · split
    · exact .refl p
    · unfold Admin.editSession
      split
      · exact .refl p
      · split
        · exact .refl p
        · split
          · exact .refl p
          · exact p.setMetadata_turns _ _
    · exact .of_actors (.of_eq rfl .refl) rfl

theorem carryOut_turns (p : Proxy) (op : Admin.Operation) :
    p.Turns Duplex.Stays (p.mayDo (.operation op)) (fun _ => none) (op.carryOut p).2 := by
  cases op with
  | deleteSession name =>
    unfold Admin.Operation.carryOut Admin.deleteSession
    dsimp only
    split
    · exact .refl p
    · exact p.destroy_turns name rfl
  | setPath kind name path value => exact p.editPath_turns kind name path _
  | deletePath kind name path => exact p.editPath_turns kind name path _
  | _ => exact .of_actors (.of_eq rfl .refl) rfl

/-- An event at which no far end does anything and no bytes are forwarded leaves all bytes under
way. -/
theorem apply_turns_of_quiet (p : Proxy) {e : Event} (quiet : p.isForwarding e = false)
    (near : ∀ id action, e ≠ .far id action) :
    p.Turns Duplex.Stays (p.mayDo e) (p.handedOut e) (p.apply e) := by
  cases e with
  | operation op => exact p.carryOut_turns op
  | handIn change => exact .of_actors (.of_eq rfl .refl) rfl
  | dispatch metadata ruleList hook => exact p.accept_turns metadata ruleList hook
  | destroy name => exact p.destroy_turns name rfl
  | shutdown => exact (abortAll_aborts p.live p).turns rfl
  | step id =>
    cases hstep : p.stepActor id with
    | none =>
      rw [apply, hstep, handedOut_step_of_called?_eq_none (called?_of_stepActor_eq_none hstep)]
      exact .refl p
    | some next =>
      rw [apply, hstep]
      exact stepActor_turns hstep quiet
  | timer id => exact p.endTimer_turns id
  | answer id answer => exact p.answerCall_turns id answer
  | handOver id reply => exact p.answerHook_turns id reply
  | far id action => exact absurd rfl (near id action)
  | reconnect network => exact .of_actors (.of_eq rfl .refl) rfl
  | pass duration wallDuration => exact .of_actors (.of_eq rfl .refl) rfl

/-- Bytes are forwarded in steps of connected sessions. -/
theorem exists_of_isForwarding {e : Event} (h : p.isForwarding e = true) :
    ∃ id a c since, e = .step id ∧ p.actor? id = some a ∧ a.running.task = .piping c since := by
  cases e with
  | step id =>
    cases ha : p.actor? id with
    | none => simp [isForwarding, ha] at h
    | some a =>
      rw [isForwarding, ha, Option.any_some] at h
      cases htask : a.running.task with
      | piping c since => exact ⟨id, a, c, since, rfl, ha, htask⟩
      | _ => simp [htask, Task.isPiping] at h
  | _ => cases h

theorem stepActor_of_piping {c : Connector} {since : Nat} (ha : p.actor? id = some a)
    (task : a.running.task = .piping c since) : p.stepActor id = p.stepPiping id a c since := by
  simp [stepActor, ha, task]

/-- At every event every session goes on in one of the ways that there are. -/
theorem apply_turns (p : Proxy) (e : Event) :
    p.Turns Duplex.Lasts (p.mayDo e) (p.handedOut e) (p.apply e) := by
  cases hforwarding : p.isForwarding e with
  | false =>
    by_cases hfar : ∃ id action, e = .far id action
    · obtain ⟨id, action, rfl⟩ := hfar
      exact .of_actors (p.streams_changeStream id (fun s _ => s.lasts_act action)
        Duplex.lasts_refl) rfl
    · exact (p.apply_turns_of_quiet hforwarding fun id action he => hfar ⟨id, action, he⟩).mono
        (fun _ _ hst => hst.gone) fun _ h => h
  | true =>
    obtain ⟨id, a, c, since, rfl, ha, task⟩ := exists_of_isForwarding hforwarding
    rw [handedOut_step_of_called?_eq_none (called?_of_task ha (by simp [task]))]
    rw [apply, stepActor_of_piping ha task]
    cases hpiped : p.stepPiping id a c since with
    | none => exact (Turns.refl p).mono (fun _ _ hst => hst.gone) fun _ h => h
    | some next => exact stepPiping_turns hforwarding ha task hpiped

end Proxy

end Switchboard

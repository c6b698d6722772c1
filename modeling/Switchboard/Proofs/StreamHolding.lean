/-
The streams that sessions hold.

A session holds one source and, while it forwards bytes, one destination. Whatever it was given
before is let go of, and a session that is terminated lets go of everything, wherever its task was.

* `Proxy.Holds`: of some streams all but the one that is held are let go of;
* `Actor.Tidy`: what a session holds goes with its task;
* `Scene.handouts`: the streams that its cluster has handed out to a session in a run;
* `run_holdings`: what sessions hold when everything is quiet.
-/
import Switchboard.Proofs.Proxy.Course
import Switchboard.Proofs.Proxy.Teardown

namespace Switchboard

/-! ### Streams held -/

/-- Of the streams that somebody was given in some role one after the other, at most one is still
held, and that is the last one. All others are let go of. -/
structure Proxy.Holds (p : Proxy) (streams : List StreamId) (current : Option StreamId) : Prop where
  nodup : streams.Nodup
  opened : ∀ s ∈ streams, (p.stream? s).isSome
  last : ∀ s, current = some s → streams.getLast? = some s
  letGo : ∀ s ∈ streams, current ≠ some s → p.LetGo s

namespace Proxy.Holds

variable {p q : Proxy} {streams : List StreamId} {current : Option StreamId} {s : StreamId}

theorem nil (p : Proxy) : p.Holds [] none where
  nodup := .nil
  opened := by simp
  last := nofun
  letGo := by simp

theorem mono (h : p.Holds streams current) (hpq : p.Streams Duplex.Lasts q) :
    q.Holds streams current where
  nodup := h.nodup
  opened s hs := by
    obtain ⟨d, hd⟩ := Option.isSome_iff_exists.mp (h.opened s hs)
    obtain ⟨d', hd', -⟩ := hpq s d hd
    rw [hd']
    rfl
  last := h.last
  letGo s hs other := (h.letGo s hs other).streams hpq

/-- What was held is let go of. -/
theorem release (h : p.Holds streams current) (hpq : p.Streams Duplex.Lasts q)
    (letGo : ∀ s, current = some s → (p.stream? s).isSome → q.LetGo s) :
    q.Holds streams none where
  nodup := h.nodup
  opened := (h.mono hpq).opened
  last := nofun
  letGo s hs _ := by
    by_cases hcurrent : current = some s
    · exact letGo s hcurrent (h.opened s hs)
    · exact (h.letGo s hs hcurrent).streams hpq

/-- When nothing is held, a new stream may be. -/
theorem take (h : q.Holds streams none) (new : p.stream? s = none)
    (old : ∀ t ∈ streams, (p.stream? t).isSome) (opened : (q.stream? s).isSome) :
    q.Holds (streams ++ [s]) (some s) where
  nodup := by
    have hnew : s ∉ streams := by
      intro hs
      have hopen := old s hs
      rw [new] at hopen
      cases hopen
    rw [List.nodup_append]
    refine ⟨h.nodup, List.pairwise_singleton _ s, fun t ht u hu heq => hnew ?_⟩
    rwa [← List.mem_singleton.mp hu, ← heq]
  opened t ht := by
    rcases List.mem_append.mp ht with ht | ht
    · exact h.opened t ht
    · rw [List.mem_singleton.mp ht]
      exact opened
  last t ht := by
    rw [List.getLast?_concat]
    exact ht
  letGo t ht other := by
    rcases List.mem_append.mp ht with ht | ht
    · exact h.letGo t ht nofun
    · exact absurd (congrArg some (List.mem_singleton.mp ht).symm) other

theorem first (new : p.stream? s = none) (opened : (q.stream? s).isSome) :
    q.Holds [s] (some s) :=
  (Holds.nil q).take new (by simp) opened

end Proxy.Holds

namespace Actor

/-- What a session may hold while it does something. -/
def Fitting (a : Actor) : Prop :=
  match a.running.task with
  | .piping _ _ => a.destination.isSome = true
  | .ended _ => True
  | .leaving | .gone => a.source = none ∧ a.destination = none
  | _ => a.destination = none

theorem Fitting.of_isSeeking {a : Actor} (h : a.Fitting) (seeking : a.running.task.isSeeking = true) :
    a.destination = none := by
  unfold Fitting at h
  split at h
  · next htask => simp [htask, Task.isSeeking] at seeking
  · next htask => simp [htask, Task.isSeeking] at seeking
  · next htask => simp [htask, Task.isSeeking] at seeking
  · next htask => simp [htask, Task.isSeeking] at seeking
  · exact h

theorem Fitting.of_isLoose {a : Actor} (loose : a.running.IsLoose) (h : a.destination = none) :
    a.Fitting := by
  unfold Fitting
  rcases loose with hseeking | ⟨outcome, htask⟩
  · split
    · next htask => simp [htask, Task.isSeeking] at hseeking
    · trivial
    · next htask => simp [htask, Task.isSeeking] at hseeking
    · next htask => simp [htask, Task.isSeeking] at hseeking
    · exact h
  · simp [htask]

/-- A session holds what goes with its task, and nothing that it was given before. -/
structure Tidy (p : Proxy) (handouts : List StreamId) (a : Actor) : Prop where
  sources : p.Holds a.sources a.source
  destinations : p.Holds handouts a.destination
  fitting : a.Fitting
  sound : a.session.isTerminated = false → a.running.Sound

end Actor

theorem Actor.Tidy.of_holdings {p : Proxy} {handouts sources : List StreamId} {a : Actor}
    {source destination : Option StreamId} (held : a.holdings = (source, destination, sources))
    (hsources : p.Holds sources source) (hdestinations : p.Holds handouts destination)
    (fitting : a.source = source → a.destination = destination → a.Fitting)
    (sound : a.session.isTerminated = false → a.running.Sound) : a.Tidy p handouts := by
  have hsource : a.source = source := congrArg Prod.fst held
  have hdestination : a.destination = destination := congrArg (·.2.1) held
  have hall : a.sources = sources := congrArg (·.2.2) held
  exact ⟨by rwa [hall, hsource], by rwa [hdestination], fitting hsource hdestination, sound⟩

/-- A new session has nothing but its source. -/
theorem Actor.Tidy.start {p q : Proxy} {a : Actor} {number : SessionId} {name ruleList : String}
    {metadata : Json} {s : StreamId}
    (running : a.running = .ofSession (.create number name ruleList metadata))
    (held : a.holdings = (some s, none, [s])) (new : p.stream? s = none)
    (opened : q.stream? s = some .fresh) : a.Tidy q [] := by
  refine .of_holdings held (.first new (by rw [opened]; rfl)) (.nil _) (fun _ hdestination => ?_)
    fun _ => ?_
  · unfold Actor.Fitting
    rw [running]
    exact hdestination
  · rw [running]
    exact ⟨rfl, by simp [Running.ofSession, Session.create]⟩

/-- However a session goes on, it stays tidy. -/
theorem Goes.tidy {may : Deed → Prop} {p q : Proxy} {a b : Actor} {handed : Option StreamId}
    {handouts : List StreamId} (goes : Goes may p q a b handed)
    (streams : p.Streams Duplex.Lasts q) (h : a.Tidy p handouts) :
    b.Tidy q (handouts ++ handed.toList) := by
  have hsound := goes.sound h.sound
  have hsources := h.sources.mono streams
  have hdestinations := h.destinations.mono streams
  have hfitting := h.fitting
  -- nothing is taken and nothing given
  have hsame (held : b.holdings = a.holdings)
      (fitting : b.source = a.source → b.destination = a.destination → b.Fitting) :
      b.Tidy q (handouts ++ []) := by
    rw [List.append_nil]
    exact .of_holdings held hsources hdestinations fitting hsound
  have hfit (task : b.running.task = a.running.task) (hsource : b.source = a.source)
      (hdestination : b.destination = a.destination) : b.Fitting := by
    unfold Actor.Fitting at hfitting ⊢
    rwa [task, hsource, hdestination]
  cases goes with
  | idle running holdings => exact hsame holdings (hfit (congrArg Running.task running))
  | told x minor step holdings =>
    rcases step.isLoose minor with htask | ⟨hseeking, hloose⟩
    · exact hsame holdings (hfit htask)
    · exact hsame holdings fun _ hdestination =>
        .of_isLoose hloose (hdestination.trans (hfitting.of_isSeeking hseeking))
  | forwarded _ c since bytesIn bytesOut task running _ _ holdings =>
    exact hsame holdings (hfit (by rw [running, task]))
  | connected c now d task running holdings new opened =>
    have hnone : a.destination = none := hfitting.of_isSeeking (by rw [task]; rfl)
    rw [hnone] at hdestinations
    -- it held no destination, so the one that it takes is the only one that is not let go of
    refine .of_holdings holdings hsources
      (hdestinations.take new h.destinations.opened opened) (fun _ hdestination => ?_) hsound
    unfold Actor.Fitting
    rw [running, Running.connected, Running.advance, hdestination]
    -- it was terminated before it was connected, or it forwards bytes
    by_cases hterminated : a.session.isTerminated = true
    · rw [if_pos hterminated]
      trivial
    · rw [if_neg hterminated]
      rfl
  | unpiped c since now retriable e task running holdings letGo =>
    rw [Option.toList_none, List.append_nil]
    refine .of_holdings holdings hsources (h.destinations.release streams letGo)
      (fun _ hdestination => .of_isLoose ?_ hdestination) hsound
    exact running ▸ Running.isLoose_pipeEnded _ c _ _ _ _
  | reacquired c s task running holdings new opened letGo =>
    have hnone : a.destination = none := hfitting.of_isSeeking (by rw [task]; rfl)
    rw [Option.toList_none, List.append_nil]
    refine .of_holdings holdings
      ((h.sources.release streams letGo).take new h.sources.opened (by rw [opened]; rfl))
      hdestinations
      (fun _ hdestination => .of_isLoose (.inl ?_) (hdestination.trans hnone)) hsound
    rw [running]
    rfl
  | finished outcome task running holdings letGo =>
    rw [Option.toList_none, List.append_nil]
    refine .of_holdings holdings (h.sources.release streams fun s hs => letGo s (.inl hs))
      (h.destinations.release streams fun s hs => letGo s (.inr hs))
      (fun hsource hdestination => ?_) hsound
    unfold Actor.Fitting
    rw [running]
    exact ⟨hsource, hdestination⟩
  | left _ task running holdings =>
    refine hsame holdings fun hsource hdestination => ?_
    unfold Actor.Fitting at hfitting ⊢
    rw [task] at hfitting
    rw [running, hsource, hdestination]
    exact hfitting
  | aborted _ running holdings letGo =>
    rw [Option.toList_none, List.append_nil]
    refine .of_holdings holdings (h.sources.release streams fun s hs => letGo s (.inl hs))
      (h.destinations.release streams fun s hs => letGo s (.inr hs))
      (fun hsource hdestination => ?_) hsound
    unfold Actor.Fitting
    rw [running]
    exact ⟨hsource, hdestination⟩
  | terminated running holdings => exact hsame holdings (hfit (by rw [running]))
  | noticed _ running holdings =>
    refine hsame holdings fun _ _ => ?_
    unfold Actor.Fitting
    rw [running]
    trivial

/-! ### Runs -/

namespace Scene

/-- The streams that its cluster hands out to a session in a run, the latest last. -/
def handouts (id : ActorId) : List Act → Scene → List StreamId
  | [], _ => []
  | x :: rest, s => (s.handedOut x id).toList ++ handouts id rest (s.apply x)

/-- Tidy sessions stay tidy. `earlier` says what they were handed out before. -/
theorem run_tidy_of_tidy (acts : List Act) (earlier : ActorId → List StreamId) {s : Scene}
    (tidy : ∀ id a, s.proxy.actor? id = some a → a.Tidy s.proxy (earlier id))
    (absent : ∀ id, s.proxy.actor? id = none → earlier id = []) (id : ActorId) (a : Actor)
    (h : (run acts s).proxy.actor? id = some a) :
    a.Tidy (run acts s).proxy (earlier id ++ handouts id acts s) := by
  induction acts generalizing s earlier with
  | nil =>
    rw [handouts, List.append_nil]
    exact tidy id a h
  | cons x rest ih =>
    have hturns := s.apply_turns x
    rw [run_cons] at h ⊢
    rw [handouts, ← List.append_assoc]
    refine ih (fun id => earlier id ++ (s.handedOut x id).toList) (fun j b hb => ?_)
      (fun j hnone => ?_) h
    · cases hj : s.proxy.actor? j with
      | none =>
        obtain ⟨hhanded, number, name, ruleList, metadata, source, hrunning, hheld, hnew, hopened⟩ :=
          hturns.new j b hj hb
        rw [absent j hj, hhanded]
        exact .start hrunning hheld hnew hopened
      | some a =>
        obtain ⟨b', hb', hgoes⟩ := hturns.old j a hj
        rw [hb', Option.some_inj] at hb
        exact hb ▸ hgoes.tidy hturns.streams (tidy j a hj)
    · cases hj : s.proxy.actor? j with
      | none =>
        rw [absent j hj, handedOut_of_absent hj]
        rfl
      | some a =>
        obtain ⟨b, hb, -⟩ := hturns.old j a hj
        rw [hb] at hnone
        cases hnone

theorem run_tidy (strict : Bool) (acts : List Act) {id : ActorId} {a : Actor}
    (h : (run acts (.ofProxy (.fresh strict))).proxy.actor? id = some a) :
    a.Tidy (run acts (.ofProxy (.fresh strict))).proxy
      (handouts id acts (.ofProxy (.fresh strict))) := by
  have hnobody (j : ActorId) : (Scene.ofProxy (.fresh strict)).proxy.actor? j = none := by
    simp [ofProxy, Proxy.fresh, Proxy.actor?]
  refine run_tidy_of_tidy acts (fun _ => []) (fun j b hb => ?_) (fun _ _ => rfl) id a h
  rw [hnobody] at hb
  cases hb

/-- **No stream leaks.** Whatever has happened, when everything is quiet, a connected session holds the
destination that its cluster handed out last, and every earlier one is let go of. A session that is
routed or reconnects holds no destination, and one that is terminated holds nothing; what they were
given is let go of. -/
theorem run_holdings (strict : Bool) (acts : List Act)
    (quiet : (run acts (.ofProxy (.fresh strict))).isQuiet = true) :
    let s := run acts (.ofProxy (.fresh strict))
    ∀ id a, s.proxy.actor? id = some a →
      let given := handouts id acts (.ofProxy (.fresh strict))
      (a.session.state = .connected → ∃ earlier d, given = earlier ++ [d] ∧
        a.destination = some d ∧ d ∉ earlier ∧ ∀ e ∈ earlier, s.proxy.LetGo e) ∧
      (a.session.state = .routed ∨ a.session.state = .reconnecting →
        a.destination = none ∧ ∀ d ∈ given, s.proxy.LetGo d) ∧
      (a.session.state = .terminated → a.source = none ∧ a.destination = none ∧
        ∀ t, t ∈ a.sources ∨ t ∈ given → s.proxy.LetGo t) := by
  intro s id a ha given
  have htidy : a.Tidy s.proxy given := run_tidy strict acts ha
  have hlive (h : a.session.state ≠ .terminated) : a.running.task.Fits a.session.state :=
    (htidy.sound (Running.isTerminated_eq_false h)).fits
  have hended := ended_ne_of_isQuiet quiet ha
  have hfitting := htidy.fitting
  refine ⟨fun hstate => ?_, fun hstate => ?_, fun hstate => ?_⟩
  · -- it forwards bytes, since nothing is left to do for a session that has ended
    have hfits := hlive (by simp [hstate])
    unfold Actor.Fitting at hfitting
    rw [hstate] at hfits
    cases htask : a.running.task with
    | piping c since =>
      rw [htask] at hfitting
      obtain ⟨d, hd⟩ := Option.isSome_iff_exists.mp hfitting
      obtain ⟨earlier, hgiven⟩ := List.getLast?_eq_some_iff.mp (htidy.destinations.last d hd)
      have hnodup := htidy.destinations.nodup
      rw [hgiven, List.nodup_append] at hnodup
      have hearlier (e : StreamId) (he : e ∈ earlier) : e ≠ d :=
        hnodup.2.2 e he d List.mem_cons_self
      refine ⟨earlier, d, hgiven, hd, fun h => hearlier d h rfl, fun e he => ?_⟩
      refine htidy.destinations.letGo e (by rw [hgiven]; exact List.mem_append_left _ he) ?_
      rw [hd]
      exact fun heq => hearlier e he (Option.some.inj heq).symm
    | ended outcome => exact absurd htask (hended outcome)
    | _ => simp [htask, Task.Fits] at hfits
  · have hlive' : a.session.state ≠ .terminated := by rcases hstate with h | h <;> simp [h]
    have hfits := hlive hlive'
    have hseeking : a.running.task.isSeeking = true := by
      cases htask : a.running.task with
      | ended outcome => exact absurd htask (hended outcome)
      | piping c since => rcases hstate with h | h <;> simp [htask, Task.Fits, h] at hfits
      | leaving => exact absurd (by rwa [htask] at hfits) hlive'
      | gone => exact absurd (by rwa [htask] at hfits) hlive'
      | _ => rfl
    have hnone := hfitting.of_isSeeking hseeking
    refine ⟨hnone, fun d hd => htidy.destinations.letGo d hd ?_⟩
    rw [hnone]
    exact (Option.some_ne_none d).symm
  · have htask := task_of_isQuiet quiet ha (by simp [Session.isTerminated, hstate])
    unfold Actor.Fitting at hfitting
    rw [htask] at hfitting
    obtain ⟨hsource, hdestination⟩ := hfitting
    refine ⟨hsource, hdestination, fun t ht => ?_⟩
    rcases ht with ht | ht
    · refine htidy.sources.letGo t ht ?_
      rw [hsource]
      exact (Option.some_ne_none t).symm
    · refine htidy.destinations.letGo t ht ?_
      rw [hdestination]
      exact (Option.some_ne_none t).symm

/-- A session whose destination fails connects again. -/
def reconnected : List Act :=
  [.event (.operation (.addCluster
      (.ofFields [("name", "c"), ("spec", .ofFields [("protocol", "echo")])]))),
    .event (.operation (.addRule (.ofFields [("name", "r"), ("match", "*"),
      ("action", .ofFields [("route", .ofFields [("destination", "c"),
        ("retry", .ofFields [("retry_on", "always")])])])]))),
    .event (.operation (.addRuleList (.ofFields [("name", "main"), ("rules", .array ["r"])]))),
    .event (.dispatch (.ofFields [("name", "s")]) "main" none), .event (.step 0), .event (.step 0),
    .event (.far 1 (.failReads "reset")), .event (.step 0), .event (.step 0),
    .event (.pass 2000 2000), .event (.timer 0), .event (.step 0)]

theorem run_holdings_reconnected :
    ∃ a, (run reconnected (.ofProxy (.fresh false))).proxy.actor? 0 = some a ∧
      a.destination = some 2 ∧ (run reconnected (.ofProxy (.fresh false))).proxy.LetGo 1 := by
  have hquiet : (run reconnected (.ofProxy (.fresh false))).isQuiet = true := by decide +kernel
  have hstate : ((run reconnected (.ofProxy (.fresh false))).proxy.actor? 0).map
      (·.session.state) = some .connected := by decide +kernel
  have hgiven : handouts 0 reconnected (.ofProxy (.fresh false)) = [1] ++ [2] := by
    decide +kernel
  obtain ⟨a, ha, hconnected⟩ := Option.map_eq_some_iff.mp hstate
  obtain ⟨earlier, d, hlast, hd, -, hletGo⟩ :=
    (run_holdings false reconnected hquiet 0 a ha).1 hconnected
  obtain ⟨rfl, hd'⟩ := List.append_inj' (hgiven.symm.trans hlast) rfl
  rw [List.singleton_inj] at hd'
  exact ⟨a, ha, hd' ▸ hd, hletGo 1 List.mem_cons_self⟩

end Scene

end Switchboard

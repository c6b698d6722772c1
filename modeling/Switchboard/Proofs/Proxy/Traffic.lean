/-
Forwarding in detail, with what has gone through each stream.

Here a proxy forwards bytes one move of a copy loop at a time, and whatever else happens may happen
between two moves: a fault, an end from outside, bytes from either side, a timer. Beside the proxy
stands a record of what the far ends have sent and received, and of every pipe that there was.

* `Crossing`: a pipe of a session, with its two copy loops;
* `Log`: what has passed the far end of a stream;
* `Traffic`, `Traffic.Act`, `Traffic.apply`, `Traffic.run`: single moves, and lists of acts;
* `Traffic.Balanced`: what was sent and received, against what was read and written;
* `apply_turns`: in each act the sessions go on in the ways that there are.
-/
import Switchboard.Proofs.Proxy.Teardown
import Switchboard.Proofs.Stream.Copy

namespace Switchboard

/-! ### Records -/

/-- A pipe that a session has or had. -/
structure Crossing where
  /-- The source that the session held. -/
  source : Option StreamId
  destination : StreamId
  inward : Copy
  outward : Copy
  /-- How it ended, if one of its loops has ended it. -/
  ended : Option Pipe.End
deriving DecidableEq, Repr

namespace Crossing

def start (source : Option StreamId) (destination : StreamId) : Crossing :=
  ⟨source, destination, .start, .start, none⟩

def ends (k : Crossing) : Option StreamId × StreamId := (k.source, k.destination)

end Crossing

/-- What has passed the far end of a stream. -/
structure Log where
  /-- What was under way to the far end when the stream was opened. -/
  before : List UInt8
  /-- What the far end has sent. -/
  sent : List UInt8
  /-- What the far end has received. -/
  got : List UInt8
deriving DecidableEq, Repr

namespace Log

/-- A stream is opened. -/
def opened (s : Duplex) : Log := ⟨s.outbound, s.inbound, []⟩

/-- The far end of a stream does something. -/
def note (log : Log) (s : Duplex) : FarAction → Log
  | .send bytes =>
    match s.send bytes with
    | .ok _ => { log with sent := log.sent ++ bytes }
    | .error _ => log
  | .receive => { log with got := log.got ++ s.outbound }
  | _ => log

/-- The far end of a stream gives back what there is for it. -/
def echo (log : Log) (s : Duplex) : Log :=
  { log with sent := log.sent ++ s.outbound, got := log.got ++ s.outbound }

/-- The near end has taken `taken` from a stream, and given it `given`. What was sent or given and has
not arrived is under way. -/
structure Fits (log : Log) (s : Duplex) (taken given : List UInt8) : Prop where
  sent : log.sent = taken ++ s.inbound
  got : log.got ++ s.outbound = log.before ++ given

variable {log : Log} {s t : Duplex} {taken given : List UInt8}

theorem fits_opened (s : Duplex) : (opened s).Fits s [] [] := ⟨rfl, (List.append_nil _).symm⟩

@[simp] theorem before_note (log : Log) (s : Duplex) (action : FarAction) :
    (log.note s action).before = log.before := by
  cases action with
  | send bytes =>
    unfold note
    dsimp only
    split <;> rfl
  | _ => rfl

theorem Fits.passes (h : log.Fits s taken given) {read written : List UInt8}
    (hpasses : s.Passes read written t) : log.Fits t (taken ++ read) (given ++ written) where
  sent := by rw [h.sent, hpasses.inbound, List.append_assoc]
  got := by rw [hpasses.outbound, ← List.append_assoc, h.got, List.append_assoc]

theorem Fits.stays (h : log.Fits s taken given) (hst : s.Stays t) : log.Fits t taken given := by
  have hpasses := h.passes hst.passes
  rwa [List.append_nil, List.append_nil] at hpasses

theorem Fits.note (h : log.Fits s taken given) (action : FarAction) :
    (log.note s action).Fits (action.act s) taken given := by
  cases action with
  | send bytes =>
    unfold Log.note FarAction.act
    dsimp only
    cases hsend : s.send bytes with
    | error fault => exact h
    | ok t =>
      unfold Duplex.send at hsend
      split at hsend
      · cases hsend
      · cases hsend
        exact ⟨by simp [h.sent], h.got⟩
  | receive => exact ⟨h.sent, (List.append_nil _).trans h.got⟩
  | _ => exact ⟨h.sent, h.got⟩

theorem Fits.echo (h : log.Fits s taken given) (hecho : s.echo = some t) :
    (log.echo s).Fits t taken given := by
  unfold Duplex.echo at hecho
  split at hecho
  · cases hecho
  · split at hecho
    · cases hecho
      exact ⟨by simp [Log.echo, h.sent], (List.append_nil _).trans h.got⟩
    · next hnone =>
      split at hecho
      · cases hecho
        have hempty : s.outbound = [] := by simpa using hnone
        exact ⟨by simp [Log.echo, h.sent, hempty, Duplex.dropFar],
          by simpa [Log.echo, hempty, Duplex.dropFar] using h.got⟩
      · cases hecho

end Log

/-- Whatever a far end does that has ended writing, nothing more comes from it. -/
theorem Duplex.Drained.act {s : Duplex} (h : s.Drained) (action : FarAction) :
    (action.act s).Drained := by
  cases action with
  | send bytes =>
    have hrefused : s.send bytes = .error .brokenPipe := by simp [send, h.2]
    unfold FarAction.act
    dsimp only
    rwa [hrefused]
  | shutdown => exact ⟨h.1, rfl⟩
  | drop => exact ⟨h.1, rfl⟩
  | _ => exact ⟨h.1, h.2⟩

/-! ### Pipes of sessions -/

/-- A session that forwards bytes, with its pipe. -/
structure Passage where
  actor : Actor
  connector : Connector
  since : Nat
  source : StreamId
  destination : StreamId
  crossing : Crossing
  /-- The pipes that the session had before, the latest first. -/
  earlier : List Crossing
  span : Span

namespace Passage

/-- The streams of the pipe are stored. -/
def store (g : Passage) (p : Proxy) (x : Pipe) : Proxy :=
  (p.changeStream g.source fun _ => x.source).changeStream g.destination fun _ => x.destination

/-- The session with the counts of the pipe. -/
def counted (g : Passage) (x : Pipe) : Actor :=
  { g.actor with running :=
      ⟨{ g.actor.session with bytesIn := x.bytesIn, bytesOut := x.bytesOut },
        .piping g.connector g.since⟩ }

/-- The pipe goes on. When the source ends, a time is set. -/
def goOn (g : Passage) (id : ActorId) (p : Proxy) (x : Pipe) : Proxy :=
  let q := (g.store p x).setActor id { g.counted x with draining := x.draining }
  if x.draining && !g.actor.draining then q.setTimer id Pipe.drainTime else q

/-- The pipe ends. -/
def stop (g : Passage) (id : ActorId) (p : Proxy) (e : Pipe.End) (x : Pipe) : Proxy :=
  (g.store p x).goOnPiped id (g.counted x) g.connector g.since e

/-- The pipe as it is recorded. -/
def record (g : Passage) (x : Span) (ended : Option Pipe.End) : Crossing :=
  { g.crossing with inward := x.inward, outward := x.outward, ended }

/-- The proxy after a move. -/
def after (g : Passage) (id : ActorId) (p : Proxy) : Span.Progress → Proxy
  | .idle => p
  | .went x none => g.goOn id p x.toPipe
  | .went x (some e) => g.stop id p e x.toPipe

/-- The pipes of the session after a move, the latest first. -/
def records (g : Passage) : Span.Progress → List Crossing
  | .idle => g.crossing :: g.earlier
  | .went x ended => g.record x ended :: g.earlier

end Passage

/-! ### Runs -/

/-- A proxy with a record of what has gone through it. -/
structure Traffic where
  scene : Scene
  /-- The pipes of each session, the latest first. -/
  crossings : ActorId → List Crossing
  logs : StreamId → Log

namespace Traffic

/-- A proxy that nothing has happened to. -/
def fresh (strict : Bool) : Traffic := ⟨.ofProxy (.fresh strict), fun _ => [], fun _ => ⟨[], [], []⟩⟩

def proxy (t : Traffic) : Proxy := t.scene.proxy

/-- A session that forwards bytes. -/
def passage? (t : Traffic) (id : ActorId) : Option Passage :=
  match t.proxy.actor? id with
  | none => none
  | some a =>
    match a.running.task, a.source, a.destination, t.crossings id with
    | .piping c since, some source, some destination, k :: earlier =>
      match t.proxy.stream? source, t.proxy.stream? destination with
      | some s, some d =>
        some ⟨a, c, since, source, destination, k, earlier,
          ⟨⟨s, d, a.draining, a.session.bytesIn, a.session.bytesOut⟩, k.inward, k.outward⟩⟩
      | _, _ => none
    | _, _, _, _ => none

/-- What can happen. -/
inductive Act
  /-- A step of a scene, unless it forwards bytes. -/
  | step (x : Scene.Act)
  /-- A copy loop makes a move. -/
  | move (id : ActorId) (way : Way) (m : Copy.Move)
  /-- A far end that has not ended writing gives back what there is for it. -/
  | echo (id : StreamId)

/-- The log of a stream after a step. -/
def logAfter (log : Log) (id : StreamId) (s : Duplex) : Scene.Act → Log
  | .event (.far j action) => if j = id then log.note s action else log
  | _ => log

def apply (t : Traffic) : Act → Traffic
  | .step x =>
    if t.scene.isForwarding x then t
    else
      let next := t.scene.apply x
      { scene := next
        crossings := fun id =>
          match t.scene.handedOut x id, t.proxy.actor? id with
          | some d, some a => .start a.source d :: t.crossings id
          | _, _ => t.crossings id
        logs := fun id =>
          match t.proxy.stream? id, next.proxy.stream? id with
          | none, some s => .opened s
          | some s, _ => logAfter (t.logs id) id s x
          | none, none => t.logs id }
  | .move id way m =>
    match t.passage? id with
    | none => t
    | some g =>
      let progress := g.span.step way m
      { t with
        scene := { t.scene with proxy := g.after id t.proxy progress }
        crossings := fun j => if j = id then g.records progress else t.crossings j }
  | .echo id =>
    match t.proxy.stream? id with
    | none => t
    | some s =>
      match s.farClosed, s.echo with
      | false, some s' =>
        { t with
          scene := { t.scene with proxy := t.proxy.changeStream id fun _ => s' }
          logs := fun j => if j = id then (t.logs j).echo s else t.logs j }
      | _, _ => t

def run (acts : List Act) (t : Traffic) : Traffic := acts.foldl apply t

theorem run_cons (x : Act) (acts : List Act) (t : Traffic) :
    run (x :: acts) t = run acts (t.apply x) := rfl

theorem run_append (acts acts' : List Act) (t : Traffic) :
    run (acts ++ acts') t = run acts' (run acts t) := List.foldl_append

/-- What every act keeps, every run keeps. -/
theorem run_invariant {inv : Traffic → Prop} (keep : ∀ t x, inv t → inv (t.apply x))
    (acts : List Act) {t : Traffic} (ht : inv t) : inv (run acts t) := by
  induction acts generalizing t with
  | nil => exact ht
  | cons x rest ih =>
    rw [run_cons]
    exact ih (keep t x ht)

/-! ### Sessions that forward bytes -/

/-- `g` is the pipe of a session. -/
structure Carrying (t : Traffic) (id : ActorId) (g : Passage) : Prop where
  actor : t.proxy.actor? id = some g.actor
  task : g.actor.running.task = .piping g.connector g.since
  source : g.actor.source = some g.source
  destination : g.actor.destination = some g.destination
  crossings : t.crossings id = g.crossing :: g.earlier
  sourceStream : t.proxy.stream? g.source = some g.span.source
  destinationStream : t.proxy.stream? g.destination = some g.span.destination
  draining : g.span.draining = g.actor.draining
  bytesIn : g.span.bytesIn = g.actor.session.bytesIn
  bytesOut : g.span.bytesOut = g.actor.session.bytesOut
  inward : g.span.inward = g.crossing.inward
  outward : g.span.outward = g.crossing.outward

theorem passage?_eq_some_iff {t : Traffic} {id : ActorId} {g : Passage} :
    t.passage? id = some g ↔ t.Carrying id g := by
  refine ⟨fun h => ?_, fun h => ?_⟩
  · unfold passage? at h
    split at h
    · cases h
    · next a ha =>
      split at h
      · next htask hsource hdestination hcrossings =>
        split at h
        · next hs hd =>
          cases h
          exact ⟨ha, htask, hsource, hdestination, hcrossings, hs, hd, rfl, rfl, rfl, rfl, rfl⟩
        · cases h
      · cases h
  · obtain ⟨a, c, since, source, destination, k, earlier, ⟨⟨s, d, draining, bytesIn, bytesOut⟩,
      inward, outward⟩⟩ := g
    obtain ⟨ha, htask, hsource, hdestination, hcrossings, hs, hd, hdraining, hbytesIn, hbytesOut,
      hinward, houtward⟩ := h
    dsimp only at *
    subst hdraining hbytesIn hbytesOut hinward houtward
    simp [passage?, ha, htask, hsource, hdestination, hcrossings, hs, hd]

/-- However a pipe goes on, its session goes on in a way that there is. -/
theorem Carrying.turns {t : Traffic} {id : ActorId} {g : Passage} (h : t.Carrying id g)
    {progress : Span.Progress} (hcarried : g.span.Carried progress) :
    t.proxy.Turns Duplex.Lasts (fun _ => True) (fun _ => none) (g.after id t.proxy progress) := by
  -- both ends are stored, and none is taken up again
  have hstored {i o : Copy.Load} {y : Span} (hmoves : g.span.Moves i o y) :
      t.proxy.Streams Duplex.Lasts (g.store t.proxy y.toPipe) :=
    Proxy.streams_changeBoth h.sourceStream h.destinationStream hmoves.source.lasts
      hmoves.destination.lasts Duplex.lasts_refl
  cases progress with
  | idle => exact (Proxy.Turns.refl t.proxy).mono (fun _ _ hst => hst.gone) fun _ h => h
  | went y ended =>
    obtain ⟨⟨i, o, hmoves⟩, hnothing, -⟩ := hcarried
    cases ended with
    | none =>
      have hturns : t.proxy.Turns Duplex.Lasts (fun _ => True) (fun _ => none)
          ((g.store t.proxy y.toPipe).setActor id
            { g.counted y.toPipe with draining := y.draining }) :=
        .of_setActor rfl (hstored hmoves) h.actor
          (.forwarded trivial g.connector g.since y.bytesIn y.bytesOut h.task rfl
            (by rw [hmoves.bytesIn, h.bytesIn]; exact Nat.le_add_right _ _)
            (by rw [hmoves.bytesOut, h.bytesOut]; exact Nat.le_add_right _ _) rfl) rfl fun _ _ => rfl
      unfold Passage.after Passage.goOn
      dsimp only
      split
      · exact hturns.setTimer id Pipe.drainTime
      · exact hturns
    | some e =>
      have hmoves := hnothing nofun
      have hsame : g.counted y.toPipe = g.actor := by
        have hin := hmoves.bytesIn.trans h.bytesIn
        have hout := hmoves.bytesOut.trans h.bytesOut
        rw [Passage.counted, hin, hout, ← h.task]
        rfl
      rw [Passage.after, Passage.stop, hsame]
      exact Proxy.goOnPiped_turns (p := t.proxy) (q := g.store t.proxy y.toPipe) rfl (hstored hmoves)
        Duplex.lasts_refl (fun _ _ => rfl) (fun _ _ _ => .trans) h.actor h.task e

/-- The stream that its cluster hands out to a session in an act. -/
def handedOut (t : Traffic) : Act → ActorId → Option StreamId
  | .step x, id => if t.scene.isForwarding x then none else t.scene.handedOut x id
  | _, _ => none

/-- What sessions may do in an act. -/
def Act.may : Act → Deed → Prop
  | .move _ _ _, _ => True
  | _, d => d = .goAway

theorem apply_turns (t : Traffic) (x : Act) :
    t.proxy.Turns Duplex.Lasts x.may (t.handedOut x) (t.apply x).proxy := by
  have hrefl : t.proxy.Turns Duplex.Lasts x.may (fun _ => none) t.proxy :=
    (Proxy.Turns.refl t.proxy).mono (fun _ _ hst => hst.gone) fun _ h => h
  cases x with
  | step x =>
    by_cases hforwarding : t.scene.isForwarding x = true
    · have hnone : t.handedOut (.step x) = fun _ => none := by
        funext id
        exact if_pos hforwarding
      rw [hnone, apply, if_pos hforwarding]
      exact hrefl
    · have hsame : t.handedOut (.step x) = t.scene.handedOut x := by
        funext id
        exact if_neg hforwarding
      rw [hsame, apply, if_neg hforwarding]
      refine (t.scene.apply_turns x).mono (fun _ _ h => h) fun d hd => ?_
      -- what is left of what a session may do is to go away
      cases d with
      | goAway => rfl
      | forward =>
        cases x with
        | event e => exact absurd hd hforwarding
        | _ => cases hd
  | move id way m =>
    unfold apply
    dsimp only
    split
    · exact hrefl
    · next g hg =>
      exact ((passage?_eq_some_iff.mp hg).turns (g.span.carried_step way m)).mono (fun _ _ h => h)
        fun _ _ => trivial
  | echo id =>
    unfold apply
    dsimp only
    split
    · exact hrefl
    · next s hs =>
      split
      · next s' _ hecho =>
        refine .of_actors (t.proxy.streams_changeStream id (fun u hu => ?_) Duplex.lasts_refl) rfl
        rw [hs, Option.some_inj] at hu
        exact hu ▸ Duplex.lasts_echo hecho
      · exact hrefl

/-- Whether a copy loop makes a move. -/
def Act.isMove : Act → Bool
  | .move _ _ _ => true
  | _ => false

/-- A session that is given a stream begins a pipe. Otherwise its pipes are the same ones. -/
theorem crossings_apply (t : Traffic) {x : Act} (quiet : x.isMove = false) {id : ActorId} {a : Actor}
    (ha : t.proxy.actor? id = some a) :
    (t.apply x).crossings id =
      ((t.handedOut x id).map (Crossing.start a.source)).toList ++ t.crossings id := by
  cases x with
  | step x =>
    unfold apply handedOut
    dsimp only
    split
    · rfl
    · dsimp only
      rw [ha]
      cases t.scene.handedOut x id <;> rfl
  | move j way m => cases quiet
  | echo j =>
    unfold apply handedOut
    dsimp only
    split
    · rfl
    · split <;> rfl

/-- A move changes how far a pipe is, and not which one it is. -/
theorem ends_move (t : Traffic) (j : ActorId) (way : Way) (m : Copy.Move) (id : ActorId) :
    ((t.apply (.move j way m)).crossings id).map Crossing.ends =
      (t.crossings id).map Crossing.ends := by
  unfold apply
  dsimp only
  split
  · rfl
  · next g hg =>
    dsimp only
    split
    · next hid =>
      rw [hid, (passage?_eq_some_iff.mp hg).crossings]
      cases g.span.step way m <;> rfl
    · rfl

theorem ends_apply (t : Traffic) (x : Act) {id : ActorId} {a : Actor}
    (ha : t.proxy.actor? id = some a) :
    ((t.apply x).crossings id).map Crossing.ends =
      ((t.handedOut x id).map fun d => (a.source, d)).toList ++
        (t.crossings id).map Crossing.ends := by
  cases hmove : x.isMove with
  | false =>
    rw [t.crossings_apply hmove ha, List.map_append]
    cases t.handedOut x id <;> rfl
  | true =>
    cases x with
    | move j way m => exact t.ends_move j way m id
    | _ => cases hmove

/-- Where there is no session, there are no pipes. -/
theorem ends_apply_of_absent (t : Traffic) (x : Act) {id : ActorId}
    (hnone : t.proxy.actor? id = none) :
    ((t.apply x).crossings id).map Crossing.ends = (t.crossings id).map Crossing.ends := by
  cases x with
  | step x =>
    unfold apply
    dsimp only
    split
    · rfl
    · dsimp only
      rw [hnone]
      cases t.scene.handedOut x id <;> rfl
  | move j way m => exact t.ends_move j way m id
  | echo j =>
    unfold apply
    dsimp only
    split
    · rfl
    · split <;> rfl

/-! ### Streams -/

/-- From a stream the near end has taken `taken`, and it has given it `given`. -/
def Balanced (t : Traffic) (id : StreamId) (taken given : List UInt8) : Prop :=
  ∃ s, t.proxy.stream? id = some s ∧ (t.logs id).Fits s taken given

/-- There is nothing left to read from a stream, and nothing more will come. -/
def Drained (t : Traffic) (id : StreamId) : Prop := ∃ s, t.proxy.stream? id = some s ∧ s.Drained

section Quiet

variable {t : Traffic} {id : StreamId} {taken given : List UInt8} {x : Act}

theorem logAfter_of_near {x : Scene.Act} (near : ∀ j action, x ≠ .event (.far j action)) (log : Log)
    (id : StreamId) (s : Duplex) : logAfter log id s x = log := by
  unfold logAfter
  split
  · exact absurd rfl (near _ _)
  · rfl

/-- What becomes of a stream in an act that is no move of a loop. -/
theorem exists_stream_of_quiet {s : Duplex} (quiet : x.isMove = false)
    (hs : t.proxy.stream? id = some s) : ∃ s', (t.apply x).proxy.stream? id = some s' ∧
      (∀ taken given, (t.logs id).Fits s taken given →
        ((t.apply x).logs id).Fits s' taken given) ∧ (s.Drained → s'.Drained) := by
  have hsame : ∃ s', t.proxy.stream? id = some s' ∧ (∀ taken given,
      (t.logs id).Fits s taken given → (t.logs id).Fits s' taken given) ∧ (s.Drained → s'.Drained) :=
    ⟨s, hs, fun _ _ h => h, fun h => h⟩
  cases x with
  | move j way m => cases quiet
  | step x =>
    by_cases hforwarding : t.scene.isForwarding x = true
    · rwa [apply, if_pos hforwarding]
    · rw [apply, if_neg hforwarding]
      by_cases hfar : ∃ j action, x = .event (.far j action)
      · obtain ⟨j, action, rfl⟩ := hfar
        have hstream : (t.scene.apply (.event (.far j action))).proxy.stream? id =
            if j = id then some (action.act s) else some s := by
          refine (t.proxy.stream?_changeStream j action.act id).trans ?_
          rw [hs]
          rfl
        refine ⟨if j = id then action.act s else s, by rw [Traffic.proxy, hstream]; split <;> rfl,
          fun taken given h => ?_, fun h => ?_⟩
        · dsimp only
          rw [hs]
          unfold logAfter
          dsimp only
          split
          · exact h.note action
          · exact h
        · split
          · exact h.act action
          · exact h
      · have near (j : StreamId) (action : FarAction) : x ≠ .event (.far j action) :=
          fun h => hfar ⟨j, action, h⟩
        have hquiet := Bool.eq_false_iff.mpr hforwarding
        obtain ⟨s', hs', hstays⟩ := (t.scene.apply_turns_of_quiet hquiet near).streams id s hs
        refine ⟨s', hs', fun taken given h => ?_, hstays.passes.drained⟩
        dsimp only
        rw [hs]
        dsimp only
        rw [logAfter_of_near near]
        exact h.stays hstays
  | echo j =>
    unfold apply
    dsimp only
    split
    · exact hsame
    · next u hu =>
      split
      · next u' hopen hecho =>
        refine ⟨if j = id then u' else s, ?_, fun taken given h => ?_, fun h => ?_⟩
        · refine (t.proxy.stream?_changeStream j _ id).trans ?_
          rw [hs]
          split <;> rfl
        · dsimp only
          by_cases hj : j = id
          · subst hj
            rw [hs, Option.some_inj] at hu
            subst hu
            rw [if_pos rfl, if_pos rfl]
            exact h.echo hecho
          · rwa [if_neg hj, if_neg (Ne.symm hj)]
        · split
          · next hj =>
            -- a far end that has ended writing gives nothing back
            subst hj
            rw [hs, Option.some_inj] at hu
            rw [← hu, h.2] at hopen
            cases hopen
          · exact h
      · exact hsame

theorem Balanced.apply (h : t.Balanced id taken given) (quiet : x.isMove = false) :
    (t.apply x).Balanced id taken given := by
  obtain ⟨s, hs, hfits⟩ := h
  obtain ⟨s', hs', hlater, -⟩ := exists_stream_of_quiet quiet hs
  exact ⟨s', hs', hlater _ _ hfits⟩

theorem Drained.apply (h : t.Drained id) (quiet : x.isMove = false) : (t.apply x).Drained id := by
  obtain ⟨s, hs, hdrained⟩ := h
  obtain ⟨s', hs', -, hlater⟩ := exists_stream_of_quiet quiet hs
  exact ⟨s', hs', hlater hdrained⟩

theorem logs_of_new {s : Duplex} (quiet : x.isMove = false) (new : t.proxy.stream? id = none)
    (opened : (t.apply x).proxy.stream? id = some s) : (t.apply x).logs id = .opened s := by
  have hsame : t.proxy.stream? id ≠ some s := by simp [new]
  cases x with
  | move j way m => cases quiet
  | step x =>
    by_cases hforwarding : t.scene.isForwarding x = true
    · rw [apply, if_pos hforwarding] at opened
      exact absurd opened hsame
    · rw [apply, if_neg hforwarding] at opened ⊢
      dsimp only
      rw [new, show (t.scene.apply x).proxy.stream? id = some s from opened]
  | echo j =>
    unfold apply at opened
    dsimp only at opened
    split at opened
    · exact absurd opened hsame
    · split at opened
      · next s' _ _ =>
        have hnone : (t.proxy.changeStream j fun _ => s').stream? id = none := by
          rw [Proxy.stream?_changeStream, new]
          split <;> rfl
        cases hnone.symm.trans opened
      · exact absurd opened hsame

/-- From a stream that is new nothing is taken yet. -/
theorem balanced_of_new (quiet : x.isMove = false) (new : t.proxy.stream? id = none)
    (opened : ((t.apply x).proxy.stream? id).isSome) : (t.apply x).Balanced id [] [] := by
  obtain ⟨s, hs⟩ := Option.isSome_iff_exists.mp opened
  exact ⟨s, hs, logs_of_new quiet new hs ▸ Log.fits_opened s⟩

/-- What was under way when a stream was opened is noted once. -/
theorem before_apply (t : Traffic) (x : Act) (opened : (t.proxy.stream? id).isSome) :
    ((t.apply x).logs id).before = (t.logs id).before := by
  obtain ⟨s, hs⟩ := Option.isSome_iff_exists.mp opened
  cases x with
  | step x =>
    unfold apply
    dsimp only
    split
    · rfl
    · dsimp only
      rw [hs]
      unfold logAfter
      dsimp only
      split
      · split <;> simp
      · rfl
  | move j way m =>
    unfold apply
    dsimp only
    split <;> rfl
  | echo j =>
    unfold apply
    dsimp only
    split
    · rfl
    · split
      · dsimp only
        split <;> rfl
      · rfl

end Quiet

end Traffic

end Switchboard

/-
What a proxy does by itself.

A session takes one step after the other until it has to wait for a far end, for an answer or for
time. `Proxy.settle` lets all sessions run until each of them has to wait, and `Proxy.advance` lets
time pass, timer by timer.

* `Proxy.stepActor`: the next step of a session, if it need not wait;
* `Proxy.settle`, `Proxy.advance`.
-/
import Switchboard.Proxy.Dispatch

namespace Switchboard

namespace Proxy

/-- Notes a call into a scripted cluster. -/
def noteCall (p : Proxy) (cluster : Cluster) (metadata : Json) : Proxy :=
  match cluster with
  | .scripted s =>
    let earlier := (Table.find? p.calls s.name).getD []
    { p with calls := Table.insert p.calls s.name (earlier ++ [metadata]) }
  | _ => p

/-- Adds a stream to a peer of a scripted cluster. -/
def addPeer (p : Proxy) (cluster : String) : StreamId × Proxy :=
  let (id, p) := p.openStream .fresh
  let earlier := (Table.find? p.peers cluster).getD []
  (id, { p with peers := Table.insert p.peers cluster (earlier ++ [id]) })

/-- Calls into a cluster: the stream that comes of it, or why there is none. `none` stands for no
answer at all. -/
def callCluster (p : Proxy) (id : ClusterId) (metadata : Json) :
    Option (Except String StreamId) × Proxy :=
  match p.registry.clusters.get? id with
  | none => (some (.error "no stream"), p)
  | some cluster =>
    let p := p.noteCall cluster metadata
    let (result, after) := cluster.connect p.network.dial p.wallTime
    let p := { p with registry := p.registry.setClusters (p.registry.clusters.set id after) }
    match result with
    | .failed fault => (some (.error fault.message), p)
    | .hang => (none, p)
    | .accepted =>
      let (stream, p) := p.addPeer cluster.name
      (some (.ok stream), p)
    | .echo =>
      let (stream, p) := p.openStream .echoing
      (some (.ok stream), p)
    | .dialled greeting =>
      let (stream, p) := p.openStream
        { Duplex.fresh with inbound := greeting.toUTF8.toList, farClosed := true }
      (some (.ok stream), p)

/-- Sets a timer for a session. -/
def setTimer (p : Proxy) (id : ActorId) (delay : Nat) : Proxy :=
  { p.changeActor id fun a => { a with hold := .timer (p.now + delay) p.nextTicket } with
    nextTicket := p.nextTicket + 1 }

/-- Goes on after a call into the cluster. -/
def goOnConnected (p : Proxy) (id : ActorId) (a : Actor) (c : Connector) :
    Option (Except String StreamId) → Proxy
  | none => p.setActor id { a with hold := .forever }
  | some (.error reason) => p.setActor id (a.become (.connectFailed a.session c reason))
  | some (.ok stream) =>
    p.setActor id
      { a.become (.connected a.session c p.wallTime) with
        destination := some stream
        draining := false }

/-- Goes on after a pipe has ended: the destination is let go of. -/
def goOnPiped (p : Proxy) (id : ActorId) (a : Actor) (c : Connector) (since : Nat)
    (e : Pipe.End) : Proxy :=
  (p.dropStream a.destination).setActor id
    { a.become (.pipeEnded a.session c since p.wallTime (p.registry.clusters.retriable c.cluster) e)
      with
      destination := none
      draining := false }

/-- Goes on after a call of the hook. -/
def goOnReacquired (p : Proxy) (id : ActorId) (a : Actor) (c : Connector) : Reply → Proxy
  | .hang => p.setActor id { a with hold := .forever }
  | .refuse reason => p.setActor id (a.become (.reacquireFailed a.session c reason))
  | .accept =>
    let (stream, p) := (p.dropStream a.source).openStream .fresh
    p.setActor id
      { a.become (.reacquired a.session c) with
        source := some stream
        sources := a.sources ++ [stream] }

/-- A step of a session that forwards bytes. -/
def stepPiping (p : Proxy) (id : ActorId) (a : Actor) (c : Connector) (since : Nat) :
    Option Proxy :=
  match a.source, a.destination with
  | some source, some destination =>
    match p.stream? source, p.stream? destination with
    | some s, some d =>
      let store (pipe : Pipe) : Proxy × Actor :=
        ((p.changeStream source fun _ => pipe.source).changeStream destination fun _ =>
          pipe.destination,
          { a with running := { a.running with session :=
              { a.session with bytesIn := pipe.bytesIn, bytesOut := pipe.bytesOut } } })
      match Pipe.step ⟨s, d, a.draining, a.session.bytesIn, a.session.bytesOut⟩ with
      | .on pipe =>
        let (p, a) := store pipe
        let began := pipe.draining && !a.draining
        let p := p.setActor id { a with draining := pipe.draining }
        some (if began then p.setTimer id Pipe.drainTime else p)
      | .over e pipe =>
        let (p, a) := store pipe
        some (p.goOnPiped id a c since e)
      | .idle => d.echo.map fun d => p.changeStream destination fun _ => d
    | _, _ => none
  | _, _ => none

/-- The next step of a session, unless it has to wait. -/
def stepActor (p : Proxy) (id : ActorId) : Option Proxy := do
  let a ← p.actor? id
  match a.running.task, a.hold with
  | .starting, _ =>
    let (binding, registry) := Binding.find p.registry a.session.ruleList a.session.metadata
    some ({ p with registry }.setActor id (a.become (.begin a.session a.hook.isSome binding)))
  | .connecting c, .none =>
    let (result, p) := p.callCluster c.cluster a.session.metadata
    some (p.goOnConnected id a c result)
  | .connecting _, _ => none
  | .piping c since, _ => p.stepPiping id a c since
  | .waiting c 0 next, .none => some (p.setActor id (a.become (.woken a.session c next)))
  | .waiting _ delay _, .none => some (p.setTimer id delay)
  | .waiting _ _ _, _ => none
  | .reacquiring c, .none =>
    let (reply, hook) := (a.hook.getD ⟨[], []⟩).call a.session.metadata
    some (p.goOnReacquired id { a with hook := some hook } c reply)
  | .reacquiring _, _ => none
  | .ended outcome, _ =>
    some ((p.dropStreams id).changeActor id fun a => a.become (.finish a.session outcome))
  | .leaving, _ =>
    some ((p.leave id).changeActor id fun a => a.become ⟨a.session, .gone⟩)
  | .gone, _ => none

/-- One step of the first session that need not wait. -/
def step (p : Proxy) : Option Proxy :=
  (List.range p.actors.size).findSome? p.stepActor

/-- Takes at most `fuel` steps. -/
def settleWith : Nat → Proxy → Proxy
  | 0, p => p
  | fuel + 1, p =>
    match p.step with
    | none => p
    | some p => settleWith fuel p

/-- A bound on the steps that sessions take before all of them wait. -/
def stepBound (p : Proxy) : Nat :=
  let bytes := p.streams.foldl (fun n s => n + s.inbound.length + s.outbound.length) 0
  let retries := p.actors.size * 0x100000000
  16 * (bytes + retries + 1024)

/-- Lets sessions run until all of them wait. -/
def settle (p : Proxy) : Proxy := settleWith p.stepBound p

/-! ### Time -/

/-- The session whose timer is the first to end, if one ends by `limit`. -/
def firstTimer (p : Proxy) (limit : Nat) : Option (ActorId × Nat) :=
  let timers := (List.range p.actors.size).filterMap fun id =>
    match p.actor? id with
    | some { hold := .timer deadline ticket, .. } =>
      if deadline ≤ limit then some (id, deadline, ticket) else none
    | _ => none
  let earlier (a b : ActorId × Nat × Nat) : ActorId × Nat × Nat :=
    if b.2.1 < a.2.1 || (b.2.1 == a.2.1 && b.2.2 < a.2.2) then b else a
  match timers with
  | [] => none
  | t :: rest =>
    let first := rest.foldl earlier t
    some (first.1, first.2.1)

/-- The timer of a session ends. -/
def wake (p : Proxy) (id : ActorId) : Proxy :=
  match p.actor? id with
  | none => p
  | some a =>
    match a.running.task with
    | .waiting c _ next => p.setActor id (a.become (.woken a.session c next))
    | .piping c since => p.goOnPiped id a c since Pipe.sourceEnd
    | _ => p.changeActor id fun a => { a with hold := .none }

/-- Lets time pass up to `limit`, at most `fuel` timers long. -/
def advanceTo (limit : Nat) : Nat → Proxy → Proxy
  | 0, p => { p with now := limit }
  | fuel + 1, p =>
    match p.firstTimer limit with
    | none => { p with now := limit }
    | some (id, deadline) => advanceTo limit fuel (({ p with now := deadline }.wake id).settle)

/-- Lets time pass. Every timer that ends on the way is followed by what it sets off. -/
def advance (p : Proxy) (duration : Nat) : Proxy :=
  advanceTo (p.now + duration) (p.actors.size * (2 * 0x100000000 + duration + 2)) p

end Proxy

end Switchboard

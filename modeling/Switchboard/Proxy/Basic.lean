/-
A proxy at work: what is registered, the sessions, their streams and two clocks.

Clients and the peers behind scripted clusters hold the far ends of streams. Everything a proxy does
is a function of its state, so a run is determined by what the far ends do and when.

* `Proxy`: the state;
* `Proxy.openStream`, `changeStream`, `changeActor`: its small changes.
-/
import Switchboard.Cluster.Dial
import Switchboard.Session.Task

namespace Switchboard

/-- The number of a stream. -/
abbrev StreamId := Nat

/-- A way to get new sources, which answers by a script. -/
structure Hook where
  /-- The next answers; when there are none left, the hook fails. -/
  replies : List Reply
  /-- The metadata at each call. -/
  calls : List Json

namespace Hook

/-- What a hook says that has no answer left. -/
def exhausted : Reply := .refuse "no source queued"

/-- One call. -/
def call (h : Hook) (metadata : Json) : Reply × Hook :=
  match h.replies with
  | [] => (exhausted, { h with calls := h.calls ++ [metadata] })
  | r :: rest => (r, ⟨rest, h.calls ++ [metadata]⟩)

end Hook

/-- What holds a session up. -/
inductive Hold
  | none
  /-- Something that never happens. -/
  | forever
  /-- A time; of equal times the smaller ticket comes first. -/
  | timer (deadline ticket : Nat)
deriving DecidableEq, Repr

/-- A session with all it holds. -/
structure Actor where
  running : Running
  hook : Option Hook
  source : Option StreamId
  destination : Option StreamId
  /-- Whether the source has ended and the destination may still answer. -/
  draining : Bool
  hold : Hold
  /-- All streams that were the session's source, the latest last. -/
  sources : List StreamId

namespace Actor

def session (a : Actor) : Session := a.running.session

/-- Goes on with another session or task. -/
def become (a : Actor) (running : Running) : Actor := { a with running, hold := .none }

end Actor

/-- The number of a session. -/
abbrev ActorId := Nat

/-- A proxy. -/
structure Proxy where
  registry : Registry
  /-- Whether predicates are checked when they are stored. -/
  strict : Bool
  network : Network
  streams : Array Duplex
  /-- Every session that there was. -/
  actors : Array Actor
  /-- The sessions that are live, by name. -/
  live : Table ActorId
  /-- For each scripted cluster the streams to its peers, the latest last. -/
  peers : Table (List StreamId)
  /-- For each scripted cluster the metadata at each call into it. -/
  calls : Table (List Json)
  /-- The time on which delays run. -/
  now : Nat
  /-- The time on which connections are measured. -/
  wallTime : Nat
  /-- The ticket of the next timer. -/
  nextTicket : Nat

namespace Proxy

/-- A proxy that nothing is registered with. -/
def fresh (strict : Bool) : Proxy where
  registry := .empty
  strict
  network := .down
  streams := #[]
  actors := #[]
  live := []
  peers := []
  calls := []
  now := 0
  wallTime := 0
  nextTicket := 0

/-! ### Streams -/

/-- Adds a stream. -/
def openStream (p : Proxy) (s : Duplex) : StreamId × Proxy :=
  (p.streams.size, { p with streams := p.streams.push s })

def stream? (p : Proxy) (id : StreamId) : Option Duplex := p.streams[id]?

def changeStream (p : Proxy) (id : StreamId) (f : Duplex → Duplex) : Proxy :=
  { p with streams := p.streams.modify id f }

/-- Lets go of the near end of a stream, if there is a stream. -/
def dropStream (p : Proxy) : Option StreamId → Proxy
  | none => p
  | some id => p.changeStream id Duplex.drop

/-! ### Sessions -/

def actor? (p : Proxy) (id : ActorId) : Option Actor := p.actors[id]?

def changeActor (p : Proxy) (id : ActorId) (f : Actor → Actor) : Proxy :=
  { p with actors := p.actors.modify id f }

def setActor (p : Proxy) (id : ActorId) (a : Actor) : Proxy := p.changeActor id fun _ => a

/-- The live session of a name. -/
def liveActor? (p : Proxy) (name : String) : Option (ActorId × Actor) :=
  (Table.find? p.live name).bind fun id => (p.actor? id).map fun a => (id, a)

/-- The live sessions in order of their names. -/
def liveSessions (p : Proxy) : List Session :=
  p.live.filterMap fun e => (p.actor? e.2).map Actor.session

/-- Lets go of a session's streams. -/
def dropStreams (p : Proxy) (id : ActorId) : Proxy :=
  match p.actor? id with
  | none => p
  | some a =>
    ((p.dropStream a.source).dropStream a.destination).setActor id
      { a with source := none, destination := none }

/-- Changes the metadata of a session. -/
def setMetadata (p : Proxy) (id : ActorId) (metadata : Json) : Proxy :=
  p.changeActor id fun a =>
    { a with running := { a.running with session := { a.session with metadata } } }

end Proxy

end Switchboard

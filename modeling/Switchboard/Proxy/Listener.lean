/-
Listeners: where sessions come from.

A listener serves a limited number of connections at a time. Each connection that it takes has a task
of its own, which makes a session of it and waits until that is over. The tasks start and end in any
order, and the place of a connection is taken from its arrival to the end of its task.

* `Listener.arrive`: a connection arrives, and is taken or turned away;
* `Listener.start`: the task of a connection makes a session of it;
* `Listener.depart`: a served connection ends, if its session has;
* `Listener.settle`: all of them that can end do.
-/
import Switchboard.Definition.Listener
import Switchboard.Net.Connection
import Switchboard.Proxy.Dispatch

namespace Switchboard

/-- A connection that a listener serves. -/
inductive Connection
  /-- Its task has not run yet. A connection that is lost by then has no near end. -/
  | waiting (peer : SocketAddress) (host : Option SocketAddress)
  /-- It has become a session, unless there was none for it. -/
  | started (session : Option ActorId)
deriving DecidableEq, Repr

/-- A listener and what it has counted. The counts have no limit, as they never come to `2 ^ 64`. -/
structure Listener where
  config : ListenerConfig
  /-- The connections that are served, the latest last. -/
  served : List Connection
  accepted : Nat
  active : Nat
  closed : Nat
  rejected : Nat
  /-- Connections whose session ended before its first attempt to connect. -/
  routingFailures : Nat

namespace Listener

/-- A listener that no connection has reached. -/
def opened (config : ListenerConfig) : Listener := ⟨config, [], 0, 0, 0, 0, 0⟩

/-- Whether no further connection is taken. -/
def isFull (l : Listener) : Bool := l.config.maxConnections ≤ l.served.length

/-- A connection arrives. -/
def arrive (l : Listener) (peer : SocketAddress) (host : Option SocketAddress) : Listener :=
  if l.isFull then { l with rejected := l.rejected + 1 }
  else
    { l with
      served := l.served ++ [.waiting peer host]
      accepted := l.accepted + 1
      active := l.active + 1 }

/-- Makes a session of a connection. There is none if the near end has no address, or if the wished
name and all its variants are taken. -/
def startSession (l : Listener) (peer : SocketAddress) (host : Option SocketAddress) (p : Proxy) :
    Option ActorId × Proxy :=
  match host with
  | none => (none, p)
  | some host =>
    let (source, p) := p.openStream .fresh
    match p.dispatch (connectionMetadata l.config.name peer host) l.config.ruleList source none with
    | (.ok id, p) => (some id, p)
    | (.error _, p) => (none, p.dropStream (some source))

/-- The task of the connection at a place starts. -/
def start (l : Listener) (p : Proxy) (i : Nat) : Listener × Proxy :=
  match l.served[i]? with
  | some (.waiting peer host) =>
    let (session, p) := l.startSession peer host p
    ({ l with served := l.served.set i (.started session) }, p)
  | _ => (l, p)

/-- Whether a session is over, or there is none. -/
def isOver (p : Proxy) : Option ActorId → Bool
  | none => true
  | some id => ((p.actor? id).map fun a => a.session.isTerminated).getD true

/-- What the session of a connection came to. -/
def outcome? (p : Proxy) (session : Option ActorId) : Option Outcome :=
  (session.bind p.actor?).bind fun a => a.session.outcome

/-- Counts a connection that is over. -/
def count (l : Listener) (outcome : Option Outcome) : Listener :=
  { l with
    active := l.active - 1
    closed := l.closed + 1
    routingFailures := l.routingFailures +
      if (outcome.map Outcome.isRoutingFailure).getD false then 1 else 0 }

/-- The session of the served connection at a place, if the connection is over. -/
def over? (l : Listener) (p : Proxy) (i : Nat) : Option (Option ActorId) :=
  match l.served[i]? with
  | some (.started session) => if isOver p session then some session else none
  | _ => none

/-- The served connection at a place ends, unless its session goes on. -/
def depart (l : Listener) (p : Proxy) (i : Nat) : Listener :=
  match l.over? p i with
  | none => l
  | some session => { l with served := l.served.eraseIdx i }.count (outcome? p session)

/-- All connections end whose sessions have, the latest first. -/
def settle (l : Listener) (p : Proxy) : Listener :=
  (List.range l.served.length).reverse.foldl (fun l i => l.depart p i) l

end Listener

end Switchboard

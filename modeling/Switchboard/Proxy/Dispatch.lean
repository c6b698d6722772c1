/-
Starting and ending sessions.

A session gets a name that no live session has, and is in the table of live sessions from then on. It
leaves the table when it has ended by itself, and when it is destroyed. The name may have gone to
another session by then, which stays.

* `Proxy.dispatch`: a new session;
* `Proxy.leave`: takes a session out of the table if it is still the one in there;
* `Proxy.destroy`, `Proxy.shutdown`: ends from outside.
-/
import Switchboard.Proxy.Basic

namespace Switchboard

namespace Proxy

/-- The name that a session asks for: its metadata's name, or else a default one. -/
def wishedName (p : Proxy) (metadata : Json) : String × Proxy :=
  match (metadata.field? "name").bind Json.string? with
  | some name => (name, p)
  | none =>
    let (name, resources) := p.registry.resources.nextName .session
    (name, { p with registry := { p.registry with resources } })

/-- Starts a session on a source. -/
def dispatch (p : Proxy) (metadata : Json) (ruleList : String) (source : StreamId)
    (hook : Option Hook) : Except RoutingFault ActorId × Proxy :=
  let (base, p) := p.wishedName metadata
  match uniqueName base fun name => Table.has p.live name with
  | none => (.error (.sessionNameExhausted base), p)
  | some name =>
    let id := p.actors.size
    let session := Session.create ⟨BitVec.ofNat 128 id⟩ name ruleList
      (Path.set metadata "/name" (.string name))
    let actor : Actor :=
      { running := .ofSession session
        hook
        source := some source
        destination := none
        draining := false
        hold := .none
        sources := [source] }
    (.ok id, { p with actors := p.actors.push actor, live := Table.insert p.live name id })

/-- Takes a session out of the table of live sessions, unless its name belongs to another one. -/
def leave (p : Proxy) (id : ActorId) : Proxy :=
  match p.actor? id with
  | none => p
  | some a =>
    match p.liveActor? a.session.name with
    | some (_, current) =>
      if current.session.id = a.session.id then
        { p with live := Table.erase p.live a.session.name }
      else p
    | none => p

/-- Terminates a session from outside; its streams are let go of. -/
def abort (p : Proxy) (id : ActorId) : Proxy :=
  (p.dropStreams id).changeActor id fun a => a.become a.running.destroy

/-- Destroys the live session of a name. -/
def destroy (p : Proxy) (name : String) : Bool × Proxy :=
  match Table.find? p.live name with
  | none => (false, p)
  | some id => (true, (p.abort id).leave id)

/-- Destroys all live sessions. -/
def shutdown (p : Proxy) : Proxy :=
  p.live.foldl (fun p e => (p.abort e.2).leave e.2) p

end Proxy

end Switchboard

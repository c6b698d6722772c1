/-
The course of a session: what is done next, and what is done when something fails.

A task waits for one thing at a time: an answer of the cluster, the end of a pipe, the end of a delay,
or a new source. Each function here says how it goes on after that. Failures up to the next successful
connect form an episode, and the kind of its first failure decides how many retries it has.

* `Task`: what a session is doing;
* `Running.begin`, `connected`, `connectFailed`, `pipeEnded`, `woken`, `reacquired`,
  `reacquireFailed`: how it goes on;
* `Running.destroy`: an end from outside, at any time.
-/
import Switchboard.Session.Binding
import Switchboard.Stream.Pipe

namespace Switchboard

/-- What a routed session needs for connecting, and the course of its present episode. -/
structure Connector where
  cluster : ClusterId
  policy : RetryPolicy
  /-- Whether there is a way to get a new source. -/
  hook : Bool
  /-- The kind of the failure that opened the episode. -/
  episode : Option FailureKind
  /-- Retries spent in the episode. -/
  retries : Nat
deriving DecidableEq, Repr

/-- What comes after a delay. -/
inductive Next
  | connect
  | reacquire
deriving DecidableEq, Repr

/-- What a session is doing. -/
inductive Task
  /-- It has not been routed. -/
  | starting
  /-- It has called into its cluster. -/
  | connecting (c : Connector)
  /-- It forwards bytes and has done so since `since`. -/
  | piping (c : Connector) (since : Nat)
  /-- It waits for `delay` milliseconds. -/
  | waiting (c : Connector) (delay : Nat) (next : Next)
  /-- It has asked for a new source. -/
  | reacquiring (c : Connector)
  /-- It has let go of its streams and has to be terminated. -/
  | ended (outcome : Outcome)
  /-- It is terminated and has to leave the table of live sessions. -/
  | leaving
  | gone
deriving DecidableEq, Repr

/-- A session and what it is doing. -/
structure Running where
  session : Session
  task : Task

namespace Running

/-- A session that is to be routed. -/
def ofSession (session : Session) : Running := ⟨session, .starting⟩

/-- Goes on with `next` if the session takes the state `state`, and else ends. -/
def advance (session : Session) (state : SessionState) (next : Session → Running) : Running :=
  if session.isTerminated then ⟨session, .ended .destroyed⟩ else next (session.transition state)

/-- Calls into the cluster. -/
def call (session : Session) (c : Connector) : Running :=
  ⟨{ session with connectAttempts := session.connectAttempts + 1 }, .connecting c⟩

/-- Starts out with a binding, or ends for want of one. -/
def begin (session : Session) (hook : Bool) : Except Outcome Binding → Running
  | .error outcome => ⟨session, .ended outcome⟩
  | .ok b =>
    advance { session with metadata := b.metadata, route := some b.route } .routed fun session =>
      call session ⟨b.cluster, b.route.retry, hook, none, 0⟩

/-- Spends a retry and waits, or ends. `elapsed` is the time since the last connect if the connection
has just ended; it shortens the delay. -/
def retry (session : Session) (c : Connector) (failure : FailureKind) (reason : String)
    (elapsed : Option Nat) (next : Next) : Running :=
  let kind := c.episode.getD failure
  let budget := c.policy.budget kind
  if budget = 0 then ⟨session, .ended (.destinationFailed reason)⟩
  else if budget ≤ c.retries then ⟨session, .ended (.retryExhausted c.retries reason)⟩
  else
    let c := { c with episode := some kind, retries := c.retries + 1 }
    advance session .reconnecting fun session =>
      ⟨session, .waiting c (c.policy.timeout - elapsed.getD 0) next⟩

/-- The cluster gave a stream at the time `now`. -/
def connected (session : Session) (c : Connector) (now : Nat) : Running :=
  advance session .connected fun session =>
    ⟨{ session with
        reconnects := if c.episode.isSome then session.reconnects + 1 else session.reconnects },
      .piping { c with episode := none, retries := 0 } now⟩

/-- The cluster gave no stream. -/
def connectFailed (session : Session) (c : Connector) (reason : String) : Running :=
  retry session c .connect reason none .connect

/-- The pipe ended at the time `now`. -/
def pipeEnded (session : Session) (c : Connector) (since now : Nat) (retriable : Bool) :
    Pipe.End → Running
  | .source reason =>
    if c.hook && c.policy.budget .disconnect ≠ 0 then
      retry session c .disconnect reason (some (now - since)) .reacquire
    else ⟨session, .ended .sourceClosed⟩
  | .destination reason =>
    if retriable then retry session c .disconnect reason (some (now - since)) .connect
    else ⟨session, .ended (.destinationFailed reason)⟩

/-- The delay is over. -/
def woken (session : Session) (c : Connector) : Next → Running
  | .connect => call session c
  | .reacquire => ⟨session, .reacquiring c⟩

/-- There is a new source. -/
def reacquired (session : Session) (c : Connector) : Running := call session c

/-- There is no new source yet. -/
def reacquireFailed (session : Session) (c : Connector) (reason : String) : Running :=
  retry session c .disconnect reason none .reacquire

/-- Terminates a session that has ended by itself. -/
def finish (session : Session) (outcome : Outcome) : Running :=
  ⟨session.terminate outcome, .leaving⟩

/-- Terminates the session from outside and breaks off what it is doing. -/
def destroy (r : Running) : Running := ⟨r.session.terminate .destroyed, .gone⟩

end Running

end Switchboard

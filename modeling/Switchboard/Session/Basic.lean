/-
Sessions: what is known of a connection from its acceptance to its end.

A session is created, routed and connected. When a side fails it may go on reconnecting. It can be
terminated at any time, and then it stays so and keeps the outcome it was terminated with.

* `Session.transition`, `Session.terminate`: the only changes of the state;
* `Session.view`: a session as it is shown.
-/
import Switchboard.Routing.Snapshot
import Switchboard.SessionId

namespace Switchboard

/-- The states of a session. -/
inductive SessionState
  | created
  | routed
  | connected
  | reconnecting
  | terminated
deriving DecidableEq, Repr

def SessionState.text : SessionState → String
  | created => "CREATED"
  | routed => "ROUTED"
  | connected => "CONNECTED"
  | reconnecting => "RECONNECTING"
  | terminated => "TERMINATED"

/-- Why a session was terminated. -/
inductive Outcome
  /-- The source ended, and no new one could or should be had. -/
  | sourceClosed
  /-- No rule matched. -/
  | unroutable
  /-- A name on the way to a cluster means nothing, or an action is malformed. -/
  | configError (reason : String)
  /-- A stage refused the session. -/
  | routeAborted (reason : String)
  /-- The destination failed, and the policy does not retry such failures. -/
  | destinationFailed (reason : String)
  /-- The policy's retries were used up. -/
  | retryExhausted (attempts : Nat) (reason : String)
  /-- Ended from outside. -/
  | destroyed
deriving DecidableEq, Repr

namespace Outcome

/-- Failures before the first attempt to connect. -/
def isRoutingFailure : Outcome → Bool
  | unroutable | configError _ | routeAborted _ => true
  | _ => false

/-- The outcome of a session that finds no way. -/
def ofFault (f : RoutingFault) : Outcome :=
  if f.isStageFailure then routeAborted f.message else configError f.message

def encode : Outcome → Json
  | sourceClosed => .ofFields [("kind", "source_closed")]
  | unroutable => .ofFields [("kind", "unroutable")]
  | configError reason => .ofFields [("kind", "config_error"), ("reason", reason)]
  | routeAborted reason => .ofFields [("kind", "route_aborted"), ("reason", reason)]
  | destinationFailed reason => .ofFields [("kind", "destination_failed"), ("reason", reason)]
  | retryExhausted attempts reason => .ofFields
    [("kind", "retry_exhausted"), ("attempts", .nat attempts), ("reason", reason)]
  | destroyed => .ofFields [("kind", "destroyed")]

end Outcome

/-- A session. Its counts have no limit, as they never come to `2 ^ 64`. -/
structure Session where
  id : SessionId
  name : String
  ruleList : String
  metadata : Json
  state : SessionState
  outcome : Option Outcome
  route : Option Route
  /-- Calls into the cluster. -/
  connectAttempts : Nat
  /-- Calls that ended a series of failures. -/
  reconnects : Nat
  bytesIn : Nat
  bytesOut : Nat

namespace Session

/-- A session that nothing has happened to. -/
def create (id : SessionId) (name ruleList : String) (metadata : Json) : Session :=
  ⟨id, name, ruleList, metadata, .created, none, none, 0, 0, 0, 0⟩

def isTerminated (s : Session) : Bool := s.state = .terminated

/-- Moves to another state, unless the session is terminated. -/
def transition (s : Session) (next : SessionState) : Session :=
  if s.isTerminated then s else { s with state := next }

/-- Terminates the session. Only the first time counts. -/
def terminate (s : Session) (outcome : Outcome) : Session :=
  if s.isTerminated then s else { s with state := .terminated, outcome := some outcome }

/-- The session as it is shown; with the whole route if `recursive`. -/
def view (recursive : Bool) (s : Session) : Json := .ofFields
  [("id", s.id.render), ("name", s.name), ("rulelist", s.ruleList), ("state", s.state.text),
    ("outcome", (s.outcome.map Outcome.encode).getD .null),
    ("route", match s.route with
      | none => .null
      | some route => if recursive then route.view else route.name),
    ("metadata", s.metadata),
    ("stats", .ofFields
      [("connect_attempts", .nat s.connectAttempts), ("reconnects", .nat s.reconnects),
        ("bytes_in", .nat s.bytesIn), ("bytes_out", .nat s.bytesOut)])]

end Session

end Switchboard

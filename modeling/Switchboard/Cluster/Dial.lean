/-
Connecting to a cluster.

An address is a host and a port behind the last colon. An address of another form fails at once; for
the others the network decides.

* `Network`: what the network answers to a connect;
* `Cluster.connect`: one call into a cluster.
-/
import Switchboard.Cluster.Instance

namespace Switchboard

/-- A network, by what comes of a connect to an address of the right form: a peer that greets with a
text, or a failure. -/
structure Network where
  answer : String → Except IoFault String

namespace Network

/-- A network that reaches nobody. -/
def down : Network :=
  ⟨fun _ => .error ⟨"NetworkUnreachable", "Network is unreachable (os error 101)"⟩⟩

/-- The text behind the last colon, if there is a colon. -/
def portText? (address : String) : Option String :=
  if ':' ∈ address.toList then
    some (String.ofList (address.toList.reverse.takeWhile (· ≠ ':')).reverse)
  else none

/-- Why an address cannot be tried at all. -/
def addressFault? (address : String) : Option IoFault :=
  match portText? address with
  | none => some ⟨"InvalidInput", "invalid socket address"⟩
  | some port =>
    match Numeral.readNat 65535 port with
    | .ok _ => none
    | .error _ => some ⟨"InvalidInput", "invalid port value"⟩

/-- Connects to an address. -/
def dial (network : Network) (address : String) : Except IoFault String :=
  match addressFault? address with
  | some fault => .error fault
  | none => network.answer address

end Network

/-- What a call into a cluster comes to. -/
inductive ConnectResult
  /-- A connection to a peer that greets. -/
  | dialled (greeting : String)
  /-- A peer that gives back what it is sent. -/
  | echo
  /-- A peer that somebody else plays. -/
  | accepted
  | hang
  | failed (fault : IoFault)
deriving DecidableEq, Repr

namespace Cluster

/-- One call into a cluster at the time `now`. -/
def connect (dial : String → Except IoFault String) (now : Nat) :
    Cluster → ConnectResult × Cluster
  | tcp d es =>
    match es.connect dial now with
    | (.ok greeting, es) => (.dialled greeting, tcp d es)
    | (.error (some fault), es) => (.failed fault, tcp d es)
    | (.error none, es) =>
      (.failed ⟨"NotFound", "cluster \"" ++ d.name ++ "\" has no endpoints"⟩, tcp d es)
  | echo d => (.echo, echo d)
  | scripted s =>
    let (reply, rest) := match s.replies with
      | [] => (s.afterwards, [])
      | r :: rest => (r, rest)
    let result := match reply with
      | .accept => .accepted
      | .hang => .hang
      | .refuse message => .failed (.other message)
    (result, scripted { s with replies := rest })
  | refusing name => (.failed (.other "no stream"), refusing name)

end Cluster

end Switchboard

/-
Definitions of listeners: where connections are taken, and the list of rules that routes them.

* `ListenerDefinition`: a listener as it is written;
* `ListenerConfig`: a listener whose list of rules is registered.
-/
import Switchboard.Definition.Rule
import Switchboard.Net.Address

namespace Switchboard

/-- The definition of a listener. -/
structure ListenerDefinition where
  name : String
  bind : SocketAddress
  rules : RuleListBinding
  maxConnections : Option Nat

namespace ListenerDefinition

open Decode

def type : RecordType where
  title := "struct ListenerSpec"
  fields := ["name", "bind", "rulelist", "max_connections"]

/-- Reads a socket address. -/
def decodeAddress : Decoder SocketAddress
  | .string s =>
    match Address.parse? s with
    | some address => .ok address
    | none => .error (.badAddress Address.faultMessage)
  | v => .error (.wrongType v "socket address")

def decode : Decoder ListenerDefinition := fun v => do
  let r ← record type v
  let name := r.field type "name" string none
  let bind := r.field type "bind" decodeAddress none
  let rules := r.field type "rulelist" RuleListBinding.decode none
  let limit := r.field type "max_connections" (optional size) (some none)
  r.settle type [("name", fault? name), ("bind", fault? bind), ("rulelist", fault? rules),
    ("max_connections", fault? limit)]
  return ⟨← name, ← bind, ← rules, ← limit⟩

def encode (d : ListenerDefinition) : Json :=
  .ofFields <|
    [("name", Json.string d.name), ("bind", Json.string d.bind.render),
      ("rulelist", RuleListBinding.encode d.rules)] ++
    (d.maxConnections.toList.map fun n => ("max_connections", Json.nat n))

end ListenerDefinition

/-- A listener that is to be opened. -/
structure ListenerConfig where
  name : String
  bind : SocketAddress
  /-- The registered list of rules that routes the listener's connections. -/
  ruleList : String
  maxConnections : Nat
deriving Repr

end Switchboard

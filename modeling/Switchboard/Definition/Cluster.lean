/-
Definitions of clusters, the destinations of traffic.

A definition of a TCP cluster lists its endpoints; an echo cluster gives back what it is sent. The
field `protocol` tells the two apart.
-/
import Switchboard.Definition.Reference

namespace Switchboard

/-- What a cluster is. -/
inductive ClusterKind
  | tcp (endpoints : List String) (connectTimeout : Nat)
  | echo
deriving DecidableEq, Repr

/-- The definition of a cluster. -/
structure ClusterDefinition where
  name : String
  kind : ClusterKind
  /-- Whether sessions may connect again after an established stream ended. -/
  retriable : Bool
deriving DecidableEq, Repr

namespace ClusterKind

open Decode

/-- Milliseconds that a connect may take unless a definition says otherwise. -/
def defaultConnectTimeout : Nat := 2000

/-- The kinds by the text of `protocol`. -/
inductive Protocol
  | tcp
  | echo
deriving DecidableEq, Repr

/-- Reads the field `protocol`. Where several readings of a value are tried, the number of a protocol
will do as well. -/
def Protocol.decode (numbers : Bool) : Decoder Protocol
  | .string "tcp" => .ok .tcp
  | .string "echo" => .ok .echo
  | .string other => .error (.unknownVariant other ["tcp", "echo"])
  | .number (.int 0) =>
    if numbers then .ok .tcp else .error (.wrongType (.number (.int 0)) "variant identifier")
  | .number (.int 1) =>
    if numbers then .ok .echo else .error (.wrongType (.number (.int 1)) "variant identifier")
  | v => .error (.wrongType v "variant identifier")

def tcpType : RecordType where
  title := "struct variant ClusterKind::Tcp"
  fields := ["endpoints", "connect_timeout_ms"]
  surplus := "2 elements in sequence"

/-- Reads what a definition says apart from its protocol. -/
def decodeBody (r : Record) : Protocol → Except Fault ClusterKind
  | .tcp => do
    let endpoints := r.field tcpType "endpoints" (list string) none
    let timeout := r.field tcpType "connect_timeout_ms" natural64 (some defaultConnectTimeout)
    r.settle tcpType [("endpoints", fault? endpoints), ("connect_timeout_ms", fault? timeout)]
    return .tcp (← endpoints) (← timeout)
  | .echo =>
    match r with
    | .named _ | .listed [] => .ok .echo
    | .listed items => .error (.wrongLength items.length "0 elements in sequence")

/-- Reads an object, or an array whose first item is the protocol. -/
def decode (numbers : Bool) : Decoder ClusterKind
  | .object fields =>
    match Table.find? fields "protocol" with
    | none => .error (.missingField "protocol")
    | some v => do decodeBody (.named fields) (← Protocol.decode numbers v)
  | .array [] => .error (.missingField "protocol")
  | .array (v :: rest) => do decodeBody (.listed rest) (← Protocol.decode numbers v)
  | v => .error (.wrongType v "internally tagged enum ClusterKind")

def encode : ClusterKind → Json
  | tcp endpoints timeout => .ofFields
    [("protocol", "tcp"), ("endpoints", .array (endpoints.map .string)),
      ("connect_timeout_ms", .nat timeout)]
  | echo => .ofFields [("protocol", "echo")]

end ClusterKind

namespace ClusterDefinition

open Decode

def type : RecordType where
  title := "struct ClusterSpec"
  fields := ["name", "spec", "retriable"]

/-- Reads a definition. `numbers` is as in `ClusterKind.Protocol.decode`. -/
def decode (numbers : Bool) : Decoder ClusterDefinition := fun v => do
  let r ← record type v
  let name := r.field type "name" string none
  let kind := r.field type "spec" (ClusterKind.decode numbers) none
  let retriable := r.field type "retriable" boolean (some true)
  r.settle type [("name", fault? name), ("spec", fault? kind), ("retriable", fault? retriable)]
  return ⟨← name, ← kind, ← retriable⟩

def encode (d : ClusterDefinition) : Json := .ofFields
  [("name", d.name), ("spec", d.kind.encode), ("retriable", d.retriable)]

end ClusterDefinition

/-- A cluster by name or by definition. -/
abbrev ClusterReference := Reference ClusterDefinition

namespace ClusterReference

def decode : Decoder ClusterReference := Reference.decode "ClusterRef" (ClusterDefinition.decode true)

def encode : ClusterReference → Json := Reference.encode ClusterDefinition.encode

/-- The name of the cluster. -/
def name : ClusterReference → String
  | .named name => name
  | .inline definition => definition.name

end ClusterReference

end Switchboard

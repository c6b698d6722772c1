/-
Definitions of routes: a destination, the stages that a session's metadata passes before it connects,
and a policy for what to do when the destination fails.
-/
import Switchboard.Definition.Cluster
import Switchboard.Predicate

namespace Switchboard

/-! ### Retry policies -/

/-- Which failures are retried. -/
inductive RetryOn
  | never
  | always
  | connectFailure
  | disconnect
deriving DecidableEq, Repr

namespace RetryOn

open Decode

def text : RetryOn → String
  | never => "never"
  | always => "always"
  | connectFailure => "connect-failure"
  | disconnect => "disconnect"

def ofText : String → Except Fault RetryOn
  | "never" => .ok never
  | "always" => .ok always
  | "connect-failure" => .ok connectFailure
  | "disconnect" => .ok disconnect
  | other =>
    .error (.unknownVariant other ["never", "always", "connect-failure", "disconnect"])

/-- Reads a name, or an object with the name as its only field and null as its value. -/
def decode : Decoder RetryOn
  | .string s => ofText s
  | .object [(s, v)] => do
    let retryOn ← ofText s
    match v with
    | .null => return retryOn
    | v => .error (.wrongType v "unit")
  | .object fields => .error (.wrongValue (.object fields) "map with a single key")
  | v => .error (.wrongType v "string or map")

end RetryOn

/-- The two ways in which a destination fails: it cannot be reached, or an established stream
ends. -/
inductive FailureKind
  | connect
  | disconnect
deriving DecidableEq, Repr

/-- What to do when a destination fails. -/
structure RetryPolicy where
  retryOn : RetryOn
  retries : Nat
  /-- Milliseconds between two attempts. -/
  timeout : Nat
deriving DecidableEq, Repr

namespace RetryPolicy

open Decode

/-- The policy of a route that has none. -/
def standard : RetryPolicy := ⟨.never, 1, 2000⟩

/-- How many retries the policy grants when failures of this kind begin. -/
def budget (policy : RetryPolicy) (kind : FailureKind) : Nat :=
  match policy.retryOn, kind with
  | .always, _ => policy.retries
  | .connectFailure, .connect => policy.retries
  | .disconnect, .disconnect => policy.retries
  | _, _ => 0

def type : RecordType where
  title := "struct RetryPolicy"
  fields := ["retry_on", "num_retries", "timeout"]

def decode : Decoder RetryPolicy := fun v => do
  let r ← record type v
  let retryOn := r.field type "retry_on" RetryOn.decode (some standard.retryOn)
  let retries := r.field type "num_retries" natural32 (some standard.retries)
  let timeout := r.field type "timeout" natural64 (some standard.timeout)
  r.settle type
    [("retry_on", fault? retryOn), ("num_retries", fault? retries), ("timeout", fault? timeout)]
  return ⟨← retryOn, ← retries, ← timeout⟩

def encode (policy : RetryPolicy) : Json := .ofFields
  [("retry_on", policy.retryOn.text), ("num_retries", .nat policy.retries),
    ("timeout", .nat policy.timeout)]

end RetryPolicy

/-! ### Writes and stages -/

/-- A write into a session's metadata. -/
structure PathWrite where
  path : String
  value : Json

namespace PathWrite

open Decode

def type : RecordType where
  title := "struct Rewrite"
  fields := ["path", "value"]

def decode : Decoder PathWrite := fun v => do
  let r ← record type v
  let path := r.field type "path" string none
  let value := r.field type "value" .ok none
  r.settle type [("path", fault? path), ("value", fault? value)]
  return ⟨← path, ← value⟩

def encode (write : PathWrite) : Json := .ofFields
  [("path", write.path), ("value", write.value)]

/-- Carries out writes in order. -/
def applyAll (writes : List PathWrite) (metadata : Json) : Json :=
  writes.foldl (fun doc write => Path.set doc write.path write.value) metadata

end PathWrite

/-- A step that a session's metadata passes before the session connects. -/
inductive StageDefinition
  /-- A registered stage. -/
  | named (name : String)
  /-- Writes into the metadata. -/
  | write (writes : List PathWrite)
  /-- Stops the session unless the metadata matches. -/
  | filter (condition : Match)

namespace StageDefinition

open Decode

/-- Reads a name, an object with `rewrite` or an object with `filter`. A `rewrite` that can be read
wins. -/
def decode : Decoder StageDefinition
  | .string name => .ok (.named name)
  | .object fields =>
    match (Table.find? fields "rewrite").map (list PathWrite.decode), Table.find? fields "filter" with
    | some (.ok writes), _ => .ok (.write writes)
    | _, some v => .ok (.filter (.ofJson v))
    | _, none => .error (.noVariant "StageSpec")
  | _ => .error (.noVariant "StageSpec")

def encode : StageDefinition → Json
  | named name => name
  | write writes => .ofFields [("rewrite", .array (writes.map PathWrite.encode))]
  | filter condition => .ofFields [("filter", condition.toJson)]

/-- What the stage is called when it fails. -/
def label : StageDefinition → String
  | named name => name
  | write _ => "rewrite"
  | filter _ => "filter"

end StageDefinition

/-! ### Routes -/

/-- The definition of a route. -/
structure RouteDefinition where
  name : Option String
  destination : ClusterReference
  ingress : List StageDefinition
  retry : RetryPolicy

namespace RouteDefinition

open Decode

def type : RecordType where
  title := "struct RouteDef"
  fields := ["name", "destination", "ingress", "retry"]

/-- The other name of the field `destination`. -/
def destinationAlias : String := "cluster"

/-- Reads the destination, which must not go by both its names. -/
def decodeDestination (r : Record) : String × Except Fault ClusterReference :=
  match r.find? type destinationAlias, r with
  | some v, .named fields =>
    (destinationAlias, do
      let destination ← ClusterReference.decode v
      if Table.has fields "destination" then .error (.repeatedField "destination")
      else return destination)
  | _, _ => ("destination", r.field type "destination" ClusterReference.decode none)

def decode : Decoder RouteDefinition := fun v => do
  let r ← record type v
  let name := r.field type "name" (optional string) (some none)
  let (key, destination) := decodeDestination r
  let ingress := r.field type "ingress" (list StageDefinition.decode) (some [])
  let retry := r.field type "retry" RetryPolicy.decode (some .standard)
  r.settle type [("name", fault? name), (key, fault? destination), ("ingress", fault? ingress),
    ("retry", fault? retry)]
  return ⟨← name, ← destination, ← ingress, ← retry⟩

/-- The fields of a route that has a name or none. -/
def encodeFields (name : Option String) (destination : ClusterReference)
    (ingress : List StageDefinition) (retry : RetryPolicy) : Json :=
  .ofFields <|
    (name.toList.map fun n => ("name", Json.string n)) ++
    [("destination", ClusterReference.encode destination),
      ("ingress", .array (ingress.map StageDefinition.encode)), ("retry", retry.encode)]

def encode (d : RouteDefinition) : Json := encodeFields d.name d.destination d.ingress d.retry

end RouteDefinition

/-- A route by name or by definition. -/
abbrev RouteReference := Reference RouteDefinition

namespace RouteReference

def decode : Decoder RouteReference := Reference.decode "RouteRef" RouteDefinition.decode

def encode : RouteReference → Json := Reference.encode RouteDefinition.encode

end RouteReference

end Switchboard

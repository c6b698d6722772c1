/-
Clusters in use, and the pool that holds them.

A cluster is built from a definition once and is then shared by all who connect to it, so it is kept
in a pool and is referred to by a number. Besides the clusters that can be defined there are two that
are handed in: one that follows a script, and one that refuses every connect.
-/
import Switchboard.Cluster.Endpoints
import Switchboard.Definition.Cluster
import Switchboard.Json.Path

namespace Switchboard

/-- A failure to connect, read or write. -/
structure IoFault where
  kind : String
  message : String
deriving DecidableEq, Repr

namespace IoFault

def brokenPipe : IoFault := ⟨"BrokenPipe", "broken pipe"⟩

def other (message : String) : IoFault := ⟨"Other", message⟩

end IoFault

/-- What a script says about one connect. -/
inductive Reply
  | accept
  /-- No answer ever. -/
  | hang
  | refuse (message : String)
deriving DecidableEq, Repr

/-- A cluster that answers by a script. -/
structure Script where
  name : String
  /-- The next answers. -/
  replies : List Reply
  /-- The answer when there are none left. -/
  afterwards : Reply
  retriable : Bool
deriving DecidableEq, Repr

/-- A cluster with its state. -/
inductive Cluster
  | tcp (definition : ClusterDefinition) (endpoints : Endpoints)
  | echo (definition : ClusterDefinition)
  | scripted (script : Script)
  | refusing (name : String)
deriving Repr

/-- The number of a cluster in its pool. -/
abbrev ClusterId := Nat

namespace Cluster

/-- A new cluster of the given definition. -/
def build (d : ClusterDefinition) : Cluster :=
  match d.kind with
  | .tcp endpoints _ => tcp d (.fresh endpoints)
  | .echo => echo d

def name : Cluster → String
  | tcp d _ => d.name
  | echo d => d.name
  | scripted s => s.name
  | refusing name => name

/-- Whether sessions may connect again after an established stream ended. -/
def retriable : Cluster → Bool
  | tcp d _ => d.retriable
  | echo d => d.retriable
  | scripted s => s.retriable
  | refusing _ => true

/-- An endpoint as it is shown at the time `now`. -/
def viewEndpoint (now : Nat) (e : Endpoint) : Json := .ofFields
  [("address", e.address), ("health", e.health.text), ("consecutive_failures", .nat e.failures),
    ("last_failure_ms_ago", match e.lastFailure with
      | some t => .nat (now - t)
      | none => .null)]

/-- The cluster as it is shown at the time `now`. -/
def view (now : Nat) : Cluster → Json
  | tcp d es =>
    let stats : Json := .ofFields
      [("connections_attempted", .nat es.attempted), ("connections_succeeded", .nat es.succeeded)]
    Path.set (Path.set d.encode "/stats" stats) "/health"
      (.array (es.list.map (viewEndpoint now)))
  | echo d => d.encode
  | scripted s => .ofFields [("name", s.name)]
  | refusing name => .ofFields [("name", name)]

end Cluster

/-- All clusters that were ever built. -/
structure ClusterPool where
  clusters : Array Cluster

namespace ClusterPool

def empty : ClusterPool := ⟨#[]⟩

/-- The cluster of a number. -/
def get? (pool : ClusterPool) (id : ClusterId) : Option Cluster := pool.clusters[id]?

/-- Takes a cluster into the pool. -/
def add (pool : ClusterPool) (c : Cluster) : ClusterId × ClusterPool :=
  (pool.clusters.size, ⟨pool.clusters.push c⟩)

/-- Changes the state of a cluster. -/
def set (pool : ClusterPool) (id : ClusterId) (c : Cluster) : ClusterPool :=
  ⟨pool.clusters.modify id fun _ => c⟩

/-- The name of a cluster. -/
def name (pool : ClusterPool) (id : ClusterId) : String :=
  ((pool.get? id).map Cluster.name).getD ""

def retriable (pool : ClusterPool) (id : ClusterId) : Bool :=
  ((pool.get? id).map Cluster.retriable).getD true

def view (pool : ClusterPool) (now : Nat) (id : ClusterId) : Json :=
  ((pool.get? id).map (Cluster.view now)).getD .null

end ClusterPool

end Switchboard

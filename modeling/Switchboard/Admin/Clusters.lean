/-
Administration of clusters and stages.
-/
import Switchboard.Admin.Edit

namespace Switchboard

namespace Admin

/-! ### Clusters -/

def listClusters (r : Registry) (time : Nat) : List Json :=
  (Table.values r.current.clusters).map (r.clusters.view time)

def getCluster (r : Registry) (time : Nat) (name : String) : Except Fault Json :=
  match r.current.cluster? name with
  | some id => .ok (r.clusters.view time id)
  | none => .error (.notFound .cluster name)

/-- Builds a cluster from a definition and stores it. -/
def buildCluster (time : Nat) (d : ClusterDefinition) : Edit Json := fun s res =>
  let (id, clusters) := res.clusters.add (.build d)
  (.ok (clusters.view time id, s.putCluster d.name id), { res with clusters })

/-- Adds a cluster. -/
def addCluster (time : Nat) (v : Json) : Edit Json := fun s res =>
  match decodeAs .cluster (ClusterDefinition.decode false) v with
  | .error f => (.error f, res)
  | .ok d =>
    if Table.has s.clusters d.name then (.error (.alreadyExists .cluster d.name), res)
    else buildCluster time d s res

/-- Stores a cluster in the place of another one. -/
def storeCluster (time : Nat) (name : String) (d : ClusterDefinition) : Edit Json := fun s res =>
  match checkName .cluster name (some d.name) with
  | .error f => (.error f, res)
  | .ok _ => buildCluster time d s res

/-- Deletes a cluster that no route needs. -/
def deleteCluster (time : Nat) (name : String) : Edit Json := fun s res =>
  match user? s (·.usesCluster name) (·.usesCluster name) with
  | some user => (.error (.inUse .cluster name user), res)
  | none =>
    match s.cluster? name with
    | none => (.error (.notFound .cluster name), res)
    | some id =>
      (.ok (res.clusters.view time id, s.dropCluster name), res)

/-! ### Stages -/

def listStages (r : Registry) : List Json := (Table.names r.current.stages).map .string

/-- Registers a stage. -/
def addStage (stage : Stage) : Edit Unit := fun s res =>
  if Table.has s.stages stage.name then (.error (.alreadyExists .stage stage.name), res)
  else (.ok ((), s.putStage stage), res)

/-- Deletes a stage that no route needs. -/
def deleteStage (name : String) : Edit Unit := fun s res =>
  match user? s (·.usesStage name) (·.usesStage name) with
  | some user => (.error (.inUse .stage name user), res)
  | none =>
    match s.stage? name with
    | none => (.error (.notFound .stage name), res)
    | some _ => (.ok ((), s.dropStage name), res)

end Admin

end Switchboard

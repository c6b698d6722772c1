/-
Stages: what a session's metadata passes between the choice of a route and the connection.

A registered stage is handed in and may do anything to the metadata, or refuse it. Some common ones
are given here.
-/
import Switchboard.Definition.Action
import Switchboard.Routing.Fault

namespace Switchboard

/-- A registered stage. -/
structure Stage where
  name : String
  apply : Json → Except String Json

namespace Stage

/-- A stage that writes a value. -/
def set (name path : String) (value : Json) : Stage :=
  ⟨name, fun metadata => .ok (Path.set metadata path value)⟩

/-- A stage that takes a value out. -/
def remove (name path : String) : Stage :=
  ⟨name, fun metadata =>
    match Path.remove? metadata path with
    | some (_, rest) => .ok rest
    | none => .ok metadata⟩

/-- A stage that refuses metadata without a value at `path`. -/
def require (name path reason : String) : Stage :=
  ⟨name, fun metadata => if (Path.get metadata path).isSome then .ok metadata else .error reason⟩

/-- A stage that refuses everything. -/
def deny (name reason : String) : Stage := ⟨name, fun _ => .error reason⟩

end Stage

namespace StageDefinition

/-- Runs one stage. -/
def run (stages : String → Option Stage) (d : StageDefinition) (metadata : Json) :
    Except RoutingFault Json :=
  match d with
  | named name =>
    match stages name with
    | none => .error (.stageNotFound name)
    | some stage => (stage.apply metadata).mapError (.stageFailed name)
  | write writes => .ok (PathWrite.applyAll writes metadata)
  | filter condition =>
    if condition.holds metadata then .ok metadata
    else .error (.stageFailed d.label "metadata rejected by filter")

/-- Runs stages in order up to the first that fails. -/
def runAll (stages : String → Option Stage) :
    List StageDefinition → Json → Except RoutingFault Json
  | [], metadata => .ok metadata
  | d :: rest, metadata =>
    match d.run stages metadata with
    | .ok metadata => runAll stages rest metadata
    | .error f => .error f

end StageDefinition

end Switchboard

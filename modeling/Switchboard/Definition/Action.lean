/-
What a rule asks for when it matches: a route, or another list of rules to go on with, and writes
into the metadata.

The action of a rule is kept as JSON and is read when the rule matches.
-/
import Switchboard.Definition.Route

namespace Switchboard

/-- A rule's action as it is understood. -/
structure Action where
  route : Option RouteReference
  /-- The list of rules that decides instead. -/
  apply : Option String
  /-- Fields that are put into the metadata; their names are no paths. -/
  fields : Option (List (String × Json))
  writes : List PathWrite

/-- Why a JSON value is no action. -/
inductive ActionFault
  | malformed (reason : Decode.Fault)
  | noTarget

def ActionFault.message : ActionFault → String
  | malformed reason => reason.message
  | noTarget => "action names neither a route nor a rulelist to apply"

namespace Action

open Decode

def type : RecordType where
  title := "struct RouteAction"
  fields := ["route", "apply", "set", "rewrite"]

def decode : Decoder Action := fun v => do
  let r ← record type v
  let route := r.field type "route" (optional RouteReference.decode) (some none)
  let apply := r.field type "apply" (optional string) (some none)
  let set := r.field type "set" (optional Decode.fields) (some none)
  let writes := r.field type "rewrite" (list PathWrite.decode) (some [])
  r.settle type [("route", fault? route), ("apply", fault? apply), ("set", fault? set),
    ("rewrite", fault? writes)]
  return ⟨← route, ← apply, ← set, ← writes⟩

/-- Reads an action, which has to name a route or a list. -/
def parse (v : Json) : Except ActionFault Action :=
  match decode v with
  | .error f => .error (.malformed f)
  | .ok action =>
    if action.route.isNone && action.apply.isNone then .error .noTarget else .ok action

/-- The fields that are there; empty lists are left out. -/
def encode (action : Action) : Json :=
  .ofFields <|
    (action.route.toList.map fun r => ("route", RouteReference.encode r)) ++
    (action.apply.toList.map fun a => ("apply", Json.string a)) ++
    (action.fields.toList.map fun f => ("set", Json.object f)) ++
    (if action.writes.isEmpty then []
      else [("rewrite", Json.array (action.writes.map PathWrite.encode))])

/-- Puts fields into a document, which becomes an object. -/
def putFields (fields : List (String × Json)) (metadata : Json) : Json :=
  let old := match metadata with
    | .object old => old
    | _ => []
  .object (fields.foldl (fun doc f => Table.insert doc f.1 f.2) old)

/-- Carries out the action's writes, the fields before the others. -/
def annotate (action : Action) (metadata : Json) : Json :=
  PathWrite.applyAll action.writes <|
    match action.fields with
    | some fields => putFields fields metadata
    | none => metadata

end Action

end Switchboard

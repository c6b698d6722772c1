/-
Edits of what is registered.

An edit works on a snapshot and gives the next one, which is published only if the edit succeeds. What
it has used up on the way, such as default names, stays used up.

* `Registry.update`: carries out an edit;
* `checkMatch`, `checkRuleList`, `checkRoute`: what is demanded of things that are stored;
* `user?`: who still needs a cluster or a stage.
-/
import Switchboard.Admin.Fault
import Switchboard.Routing.Registry

namespace Switchboard

namespace Admin

/-- A change of a snapshot, with an answer. -/
abbrev Edit (α : Type) := Snapshot → Resources → Except Fault (α × Snapshot) × Resources

end Admin

/-- Carries out an edit. -/
def Registry.update {α : Type} (r : Registry) (edit : Admin.Edit α) :
    Except Admin.Fault α × Registry :=
  match edit r.current r.resources with
  | (.ok (answer, next), resources) => (.ok answer, ⟨next, resources⟩)
  | (.error f, resources) => (.error f, { r with resources })

namespace Admin

/-- Reads a definition. -/
def decodeAs {α : Type} (kind : EntityKind) (decode : Decoder α) (v : Json) : Except Fault α :=
  (decode v).mapError fun f => .invalid kind (.malformed f)

/-- Refuses a definition with another name than that of the thing it is to replace. -/
def checkName (kind : EntityKind) (expected : String) : Option String → Except Fault Unit
  | none => .ok ()
  | some given =>
    if given = expected then .ok () else .error (.invalid kind (.renamed expected given))

/-- Refuses malformed predicates if `strict`. -/
def checkMatch (strict : Bool) (kind : EntityKind) (m : Match) : Except Fault Unit :=
  if strict then m.validate.mapError fun f => .invalid kind (.badCondition f) else .ok ()

/-- Checks one entry of a list of rules: a name has to be that of a rule. -/
def checkEntry (strict : Bool) (s : Snapshot) : RuleEntry → Except Fault Unit
  | .named name =>
    if (s.rule? name).isSome then .ok () else .error (.invalid .ruleList (.missingRule name))
  | .inline rule => checkMatch strict .ruleList rule.condition

/-- Checks one stage of a route: a name has to be that of a registered stage. -/
def checkStage (strict : Bool) (s : Snapshot) : StageDefinition → Except Fault Unit
  | .named name =>
    if (s.stage? name).isSome then .ok () else .error (.invalid .route (.missingStage name))
  | .filter condition => checkMatch strict .route condition
  | .write _ => .ok ()

/-- Checks things from the left up to the first fault. -/
def checkAll {α : Type} (check : α → Except Fault Unit) : List α → Except Fault Unit
  | [] => .ok ()
  | a :: rest =>
    match check a with
    | .ok _ => checkAll check rest
    | .error f => .error f

def checkRuleList (strict : Bool) (s : Snapshot) (list : RuleList) : Except Fault Unit :=
  checkAll (checkEntry strict s) list.entries

/-- Checks that a destination that is named is registered. -/
def checkDestination (s : Snapshot) : Destination → Except Fault Unit
  | .registered name =>
    if (s.cluster? name).isSome then .ok () else .error (.invalid .route (.missingCluster name))
  | .own _ _ => .ok ()

def checkRoute (strict : Bool) (s : Snapshot) (route : Route) : Except Fault Unit :=
  match checkDestination s route.destination with
  | .error f => .error f
  | .ok _ => checkAll (checkStage strict s) route.ingress

/-- The first rule of lists' own that satisfies `uses`. -/
def ownUser? (uses : Rule → Bool) (lists : List RuleList) : Option User :=
  lists.findSome? fun list => (list.ownRules.find? uses).map fun rule => .ruleOf rule.name list.name

/-- The first route, or else the first rule, that satisfies `usesRoute` or `usesRule`. -/
def user? (s : Snapshot) (usesRoute : Route → Bool) (usesRule : Rule → Bool) : Option User :=
  ((Table.values s.routes).find? usesRoute).map (fun route => User.route route.name)
    <|> ((Table.values s.rules).find? usesRule).map (fun rule => User.rule rule.name)
    <|> ownUser? usesRule (Table.values s.ruleLists)

/-- The name for something new: the given one if nothing has it, or a default one. -/
def chooseName {α : Type} (kind : EntityKind) (default : NameKind) (table : Table α)
    (given : Option String) (res : Resources) : Except Fault String × Resources :=
  match given with
  | some name =>
    if Table.has table name then (.error (.alreadyExists kind name), res) else (.ok name, res)
  | none =>
    let (name, res) := res.nextFreeName default (Table.names table)
    (.ok name, res)

end Admin

end Switchboard

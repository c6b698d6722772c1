/-
Why an administrative operation fails.

A failed operation leaves everything that is registered, and every session, as it was.
-/
import Switchboard.Json.Decode
import Switchboard.Predicate

namespace Switchboard

/-- The kinds of things that are administered. -/
inductive EntityKind
  | rule
  | ruleList
  | route
  | cluster
  | stage
  | session
deriving DecidableEq, Repr

def EntityKind.text : EntityKind → String
  | rule => "rule"
  | ruleList => "rulelist"
  | route => "route"
  | cluster => "cluster"
  | stage => "stage"
  | session => "session"

namespace Admin

/-- Who still needs a cluster, a stage or a rule. -/
inductive User
  | route (name : String)
  | rule (name : String)
  | ruleOf (rule list : String)
  | ruleList (name : String)
deriving DecidableEq, Repr

def User.text : User → String
  | .route name => "route \"" ++ name ++ "\""
  | .rule name => "rule \"" ++ name ++ "\""
  | .ruleOf name list => "rule \"" ++ name ++ "\" in rulelist \"" ++ list ++ "\""
  | .ruleList name => "rulelist \"" ++ name ++ "\""

/-- What is wrong with what was to be stored. -/
inductive Defect
  | malformed (reason : Decode.Fault)
  | renamed (expected given : String)
  | badCondition (reason : Predicate.Fault)
  | missingRule (name : String)
  | missingCluster (name : String)
  | missingStage (name : String)
  | wholeEntity
  | stageNotEditable
  | notMetadata (path : String)

def Defect.message : Defect → String
  | malformed reason => reason.message
  | renamed expected given => "cannot rename \"" ++ expected ++ "\" to \"" ++ given ++ "\""
  | badCondition reason => "match: " ++ reason.message
  | missingRule name => "rule \"" ++ name ++ "\" does not exist"
  | missingCluster name => "cluster \"" ++ name ++ "\" does not exist"
  | missingStage name => "stage \"" ++ name ++ "\" is not registered"
  | wholeEntity => "the whole entity cannot be edited by path"
  | stageNotEditable => "stages are not editable"
  | notMetadata path => "only fields under /metadata are writable, got \"" ++ path ++ "\""

/-- Why an operation fails. -/
inductive Fault
  | notFound (kind : EntityKind) (name : String)
  | alreadyExists (kind : EntityKind) (name : String)
  | positionOutOfRange (list : String) (position length : Nat)
  | inUse (kind : EntityKind) (name : String) (user : User)
  | invalid (kind : EntityKind) (defect : Defect)
  /-- A request that could not be read at all. -/
  | badRequest (reason : String)
  | pathNotFound (kind : EntityKind) (name path : String)

namespace Fault

def message : Fault → String
  | notFound kind name => kind.text ++ " \"" ++ name ++ "\" not found"
  | alreadyExists kind name => kind.text ++ " \"" ++ name ++ "\" already exists"
  | positionOutOfRange list position length =>
    "position " ++ toString position ++ " is out of range for rulelist \"" ++ list ++ "\" with "
      ++ toString length ++ " rules"
  | inUse kind name user => kind.text ++ " \"" ++ name ++ "\" is still used by " ++ user.text
  | invalid kind defect => "invalid " ++ kind.text ++ ": " ++ defect.message
  | badRequest reason => "bad request: " ++ reason
  | pathNotFound kind name path =>
    "path \"" ++ path ++ "\" not found in " ++ kind.text ++ " \"" ++ name ++ "\""

/-- The status of an answer that reports the fault. -/
def status : Fault → Nat
  | notFound _ _ | pathNotFound _ _ _ => 404
  | alreadyExists _ _ | inUse _ _ _ => 409
  | invalid _ _ => 422
  | positionOutOfRange _ _ _ | badRequest _ => 400

/-- The short name of the fault. -/
def code : Fault → String
  | notFound _ _ => "not_found"
  | alreadyExists _ _ => "already_exists"
  | positionOutOfRange _ _ _ => "position_out_of_range"
  | inUse _ _ _ => "in_use"
  | invalid _ _ => "invalid"
  | badRequest _ => "bad_request"
  | pathNotFound _ _ _ => "path_not_found"

end Fault

end Admin

end Switchboard

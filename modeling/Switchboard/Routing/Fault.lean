/-
Why a session finds no way.
-/
import Switchboard.Definition.Action

namespace Switchboard

/-- How often one list of rules may hand a session on to another. -/
def maxDelegations : Nat := 8

/-- What goes wrong on the way from a session's metadata to a cluster. All but the failure of a stage
are faults of the configuration. -/
inductive RoutingFault
  | ruleNotFound (list rule : String)
  | ruleListNotFound (name : String)
  | routeNotFound (name : String)
  | clusterNotFound (name : String)
  | stageNotFound (name : String)
  | invalidAction (reason : ActionFault)
  | ruleListLoop (start : String)
  | stageFailed (stage reason : String)
  | sessionNameExhausted (base : String)

namespace RoutingFault

def message : RoutingFault → String
  | ruleNotFound list rule =>
    "rule \"" ++ rule ++ "\" referenced by rulelist \"" ++ list ++ "\" does not exist"
  | ruleListNotFound name => "rulelist \"" ++ name ++ "\" does not exist"
  | routeNotFound name => "route \"" ++ name ++ "\" does not exist"
  | clusterNotFound name => "cluster \"" ++ name ++ "\" does not exist"
  | stageNotFound name => "stage \"" ++ name ++ "\" is not registered"
  | invalidAction reason => "invalid action: " ++ reason.message
  | ruleListLoop start =>
    "rulelist delegation starting at \"" ++ start ++ "\" exceeded " ++ toString maxDelegations
      ++ " hops"
  | stageFailed stage reason => "stage \"" ++ stage ++ "\" failed: " ++ reason
  | sessionNameExhausted base => "no free session name derived from \"" ++ base ++ "\""

/-- Whether a stage ran and failed. -/
def isStageFailure : RoutingFault → Bool
  | stageFailed _ _ => true
  | _ => false

end RoutingFault

end Switchboard

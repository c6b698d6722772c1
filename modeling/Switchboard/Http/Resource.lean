/-
What the admin service offers, by address.

Addresses are told apart before their escapes are resolved. A name in an address is one segment that is
not empty; a path inside a thing is all that follows, and is not empty either.

* `Resource.ofPath?`: the resource at a path;
* `Resource.methods`: what can be done with it.
-/
import Switchboard.Admin.Fault
import Switchboard.Http.Message

namespace Switchboard

namespace Http

/-- What an address names. -/
inductive Resource
  | health
  | everything
  | rules
  | rule (name : String)
  | ruleLists
  | ruleList (name : String)
  | entry (list position : String)
  | routes
  | route (name : String)
  | clusters
  | cluster (name : String)
  | stages
  | sessions
  | session (name : String)
  /-- A place inside a thing. -/
  | inside (kind : EntityKind) (name path : String)
deriving DecidableEq, Repr

namespace Resource

/-- The kind that a segment stands for, if things of that kind can be looked into. -/
def kind? : String → Option EntityKind
  | "rules" => some .rule
  | "rulelists" => some .ruleList
  | "routes" => some .route
  | "clusters" => some .cluster
  | "sessions" => some .session
  | _ => none

/-- The resource at segments behind the common start. -/
def ofSegments? : List String → Option Resource
  | ["rules"] => some rules
  | ["rulelists"] => some ruleLists
  | ["routes"] => some routes
  | ["clusters"] => some clusters
  | ["stages"] => some stages
  | ["sessions"] => some sessions
  | [collection, name] =>
    if name.isEmpty then none
    else match kind? collection with
      | some .rule => some (rule name)
      | some .ruleList => some (ruleList name)
      | some .route => some (route name)
      | some .cluster => some (cluster name)
      | some .session => some (session name)
      | _ => none
  | ["rulelists", name, "rules", position] =>
    if name.isEmpty || position.isEmpty then none else some (entry name position)
  | collection :: name :: "path" :: s :: rest =>
    let path := "/".intercalate (s :: rest)
    if name.isEmpty || path.isEmpty then none
    else (kind? collection).map fun kind => inside kind name path
  | _ => none

/-- The resource at a path. -/
def ofPath? (path : String) : Option Resource :=
  match path.splitOn "/" with
  | ["", "healthz"] => some health
  | ["", "api", "v1"] => some everything
  | "" :: "api" :: "v1" :: rest => ofSegments? rest
  | _ => none

/-- What can be done with a resource, in order of the names of the methods. -/
def methods : Resource → List Method
  | health | everything | stages | sessions => [.get, .head]
  | rules | ruleLists | routes | clusters => [.get, .head, .post]
  | rule _ | ruleList _ | route _ | inside _ _ _ => [.delete, .get, .head, .put]
  | entry _ _ => [.delete, .get, .head, .post]
  | cluster _ | session _ => [.delete, .get, .head]

/-- The names in an address, each under the name of its place, in order. -/
def parameters : Resource → List (String × String)
  | rule name | ruleList name | route name | cluster name | session name => [("name", name)]
  | entry name position => [("name", name), ("position", position)]
  | inside _ name path => [("name", name), ("path", path)]
  | _ => []

end Resource

end Http

end Switchboard

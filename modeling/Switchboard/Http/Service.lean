/-
The admin service: each request is an administrative operation.

What is wrong with a request is found in a fixed order: no such resource, a method that it does not
have, a name that cannot be decoded, a query that cannot be read, a body that is too large or not JSON,
and at last a fault of the operation itself.

* `Http.handle`: the response to a request, and the proxy after it.
-/
import Switchboard.Admin.Paths
import Switchboard.Http.MediaType
import Switchboard.Http.Resource
import Switchboard.Json.Document
import Switchboard.Text.Percent

namespace Switchboard

namespace Http

/-! ### Reading requests -/

/-- An address without its fragment, as a path and a query. -/
structure Target where
  path : String
  query : Option String
deriving DecidableEq, Repr

namespace Target

/-- Takes the scheme and the authority off an address. -/
def stripAuthority (s : String) : String :=
  match s.splitOn "://" with
  | _ :: rest@(_ :: _) =>
    if s.startsWith "/" then s
    else String.ofList (("://".intercalate rest).toList.dropWhile fun c => c ≠ '/' ∧ c ≠ '?')
  | _ => s

def ofUri (uri : String) : Target :=
  let s := ((stripAuthority uri).splitOn "#").headD ""
  match s.splitOn "?" with
  | path :: query@(_ :: _) => ⟨path, some ("?".intercalate query)⟩
  | _ => ⟨s, none⟩

end Target

/-- Whether views are to be recursive, as the pairs of a query say. -/
def readRecursive : Option Bool → List (String × String) → Except String Bool
  | seen, [] => .ok (seen.getD false)
  | seen, (name, value) :: rest =>
    if name ≠ "recursive" then readRecursive seen rest
    else if seen.isSome then .error "duplicate field `recursive`"
    else match value with
      | "true" => readRecursive (some true) rest
      | "false" => readRecursive (some false) rest
      | _ => .error "recursive: provided string was not `true` or `false`"

/-- Reads the query of a view. -/
def readQuery (target : Target) : Except Response Bool :=
  match readRecursive none (Percent.formPairs (target.query.getD "")) with
  | .ok recursive => .ok recursive
  | .error reason => .error (.ofText 400 ("Failed to deserialize query string: " ++ reason))

/-- A body may have this many bytes. -/
def maxBody : Nat := 2 * 1024 * 1024

/-- Reads a body that has to be JSON. -/
def readBody (r : Request) : Except Response Json :=
  if !(r.contentType.bind MediaType.parse?).any MediaType.isJson then
    .error (.ofText 415 "Expected request with `Content-Type: application/json`")
  else if maxBody < r.body.utf8ByteSize then
    .error (.ofText 413 "Failed to buffer the request body: length limit exceeded")
  else (Json.parse r.body).mapError fun f =>
    .ofText 400 ("Failed to parse the request body as JSON: " ++ f.message)

/-- Resolves the escapes of a name in an address. -/
def decodeParameter (p : String × String) : Except String String :=
  match Percent.decode? p.2 with
  | some s => .ok s
  | none => .error ("Invalid URL: Invalid UTF-8 in `" ++ p.1 ++ "`")

/-- Resolves the escapes of several names, from the left. -/
def decodeParameters : List (String × String) → Except String (List String)
  | [] => .ok []
  | p :: rest => do
    let s ← decodeParameter p
    let ss ← decodeParameters rest
    return s :: ss

/-! ### Writing responses -/

/-- What a status means. -/
def reason : Nat → String
  | 400 => "Bad Request"
  | 404 => "Not Found"
  | 409 => "Conflict"
  | 422 => "Unprocessable Entity"
  | _ => "Unknown Error"

/-- A fault as a document of its own. -/
def problem (f : Admin.Fault) : Json := .ofFields
  [("type", "urn:metaproxy:problem:" ++ f.code), ("title", reason f.status),
    ("status", .nat f.status), ("detail", f.message), ("code", f.code)]

/-- The response to an operation. -/
def respond (status : Nat) : Except Admin.Fault Json → Response
  | .ok v => .ofJson status v
  | .error f => { Response.ofJson f.status (problem f) with
      contentType := some "application/problem+json" }

/-- The views of a collection. -/
def collection (views : List Json) : Response := .ofJson 200 (.ofFields [("items", .array views)])

def healthy : Json := .ofFields [("status", "ok"), ("service", "metaproxy"), ("version", "0.1.0")]

/-! ### Operations -/

/-- Responds to a request that only looks. -/
def answer (p : Proxy) : Except Response Response → Response × Proxy
  | .ok r | .error r => (r, p)

/-- Responds to an operation, unless the request could not be read. -/
def perform {α : Type} (p : Proxy) (status : Nat) (read : Except Response α)
    (run : α → Except Admin.Fault Json × Proxy) : Response × Proxy :=
  match read with
  | .error r => (r, p)
  | .ok a =>
    let (result, p) := run a
    (respond status result, p)

/-- Responds to a request for an entry of a list of rules. -/
def handleEntry (p : Proxy) (r : Request) (target : Target) (name position : String) :
    Response × Proxy :=
  match Numeral.readNat Numeral.word64 position with
  | .error _ =>
    (respond 400 (.error (.badRequest
      ("Invalid URL: Cannot parse value at index 1 with value `" ++ position ++ "` to a `u64`"))), p)
  | .ok position =>
    match r.method with
    | .delete => perform p 200 (.ok ()) fun _ => p.update (Admin.deleteEntry name position)
    | .post => perform p 201 (readBody r) fun v =>
        p.update (Admin.insertEntry p.strict name position v)
    | _ => answer p do
      return respond 200 (Admin.getEntry p.registry name position (← readQuery target))

/-- Responds to a request for a place inside a thing. -/
def handleInside (p : Proxy) (r : Request) (kind : EntityKind) (name path : String) :
    Response × Proxy :=
  match r.method with
  | .put => perform p 200 (readBody r) (Admin.setPath p kind name ("/" ++ path))
  | .delete => perform p 200 (.ok ()) fun _ => Admin.deletePath p kind name ("/" ++ path)
  | _ => (respond 200 (Admin.getPath p kind name ("/" ++ path)), p)

/-- Responds to a request whose method the resource has. `names` are the decoded names in the
address. -/
def serve (p : Proxy) (r : Request) (target : Target) (resource : Resource)
    (names : List String) : Response × Proxy :=
  let name := names.headD ""
  match resource, r.method with
  | .health, _ => (.ofJson 200 healthy, p)
  | .everything, _ => (.ofJson 200 (Admin.dump p), p)
  | .rules, .post => perform p 201 (readBody r) fun v => p.update (Admin.addRule p.strict v)
  | .rules, _ => (collection (Admin.listRules p.registry), p)
  | .rule _, .put => perform p 200 (readBody r) fun v =>
      p.update (Admin.updateRule p.strict name v)
  | .rule _, .delete => perform p 200 (.ok ()) fun _ => p.update (Admin.deleteRule name)
  | .rule _, _ => (respond 200 (Admin.getRule p.registry name), p)
  | .ruleLists, .post => perform p 201 (readBody r) fun v =>
      p.update (Admin.addRuleList p.strict v)
  | .ruleLists, _ => answer p do
    return collection (Admin.listRuleLists p.registry (← readQuery target))
  | .ruleList _, .put => perform p 200 (readBody r) fun v =>
      p.update (Admin.updateRuleList p.strict name v)
  | .ruleList _, .delete => perform p 200 (.ok ()) fun _ => p.update (Admin.deleteRuleList name)
  | .ruleList _, _ => answer p do
    return respond 200 (Admin.getRuleList p.registry name (← readQuery target))
  | .entry _ _, _ => handleEntry p r target name (names.getD 1 "")
  | .routes, .post => perform p 201 (readBody r) fun v => p.update (Admin.addRoute p.strict v)
  | .routes, _ => answer p do
    return collection (Admin.listRoutes p.registry p.wallTime (← readQuery target))
  | .route _, .put => perform p 200 (readBody r) fun v =>
      p.update (Admin.updateRoute p.strict name v)
  | .route _, .delete => perform p 200 (.ok ()) fun _ => p.update (Admin.deleteRoute name)
  | .route _, _ => answer p do
    return respond 200 (Admin.getRoute p.registry p.wallTime name (← readQuery target))
  | .clusters, .post => perform p 201 (readBody r) fun v =>
      p.update (Admin.addCluster p.wallTime v)
  | .clusters, _ => (collection (Admin.listClusters p.registry p.wallTime), p)
  | .cluster _, .delete => perform p 200 (.ok ()) fun _ =>
      p.update (Admin.deleteCluster p.wallTime name)
  | .cluster _, _ => (respond 200 (Admin.getCluster p.registry p.wallTime name), p)
  | .stages, _ => (collection (Admin.listStages p.registry), p)
  | .sessions, _ => answer p do
    return collection (Admin.listSessions p (← readQuery target))
  | .session _, .delete => perform p 200 (.ok ()) fun _ => Admin.deleteSession p name
  | .session _, _ => answer p do
    return respond 200 (Admin.getSession p name (← readQuery target))
  | .inside kind _ _, _ => handleInside p r kind name (names.getD 1 "")

/-- The response for a name that cannot be decoded. Requests for entries report it as a fault. -/
def undecodable (resource : Resource) (reason : String) : Response :=
  match resource with
  | .entry _ _ => respond 400 (.error (.badRequest reason))
  | _ => .ofText 400 reason

/-- The response to a request, and the proxy after it. -/
def handle (p : Proxy) (r : Request) : Response × Proxy :=
  let target := Target.ofUri r.uri
  match Resource.ofPath? target.path with
  | none => (.bare 404, p)
  | some resource =>
    if r.method ∈ resource.methods then
      let (response, p) := match decodeParameters resource.parameters with
        | .error reason => (undecodable resource reason, p)
        | .ok names => serve p r target resource names
      (if r.method = .head then response.withoutBody else response, p)
    else ({ Response.bare 405 with allow := some resource.methods }, p)

end Http

end Switchboard

/-
Everything that is administered, by kind and name, and edits of single values inside it.

An edit at a path changes the definition of a thing and stores the result like a definition that was
given anew. In a session only the metadata can be edited.

* `Admin.get`, `Admin.getPath`: views, and values inside them;
* `Admin.setPath`, `Admin.deletePath`: edits inside definitions;
* `Admin.dump`: everything at once.
-/
import Switchboard.Admin.Clusters
import Switchboard.Admin.Routes
import Switchboard.Admin.RuleLists
import Switchboard.Admin.Rules
import Switchboard.Proxy.Dispatch

namespace Switchboard

/-- Carries out an edit of what is registered. -/
def Proxy.update {α : Type} (p : Proxy) (edit : Admin.Edit α) : Except Admin.Fault α × Proxy :=
  let (answer, registry) := p.registry.update edit
  (answer, { p with registry })

namespace Admin

/-! ### Sessions -/

def listSessions (p : Proxy) (recursive : Bool) : List Json :=
  p.liveSessions.map (Session.view recursive)

/-- The live session of a name. -/
def sessionOf (p : Proxy) (name : String) : Except Fault (ActorId × Session) :=
  match p.liveActor? name with
  | some (id, a) => .ok (id, a.session)
  | none => .error (.notFound .session name)

def getSession (p : Proxy) (name : String) (recursive : Bool) : Except Fault Json :=
  (sessionOf p name).map fun s => s.2.view recursive

/-- Destroys a session and shows what is left of it. -/
def deleteSession (p : Proxy) (name : String) : Except Fault Json × Proxy :=
  match sessionOf p name with
  | .error f => (.error f, p)
  | .ok (id, session) =>
    let (_, p) := p.destroy name
    (.ok ((((p.actor? id).map Actor.session).getD session).view false), p)

/-! ### Views -/

/-- The view of a thing. -/
def get (p : Proxy) (kind : EntityKind) (name : String) (recursive : Bool) : Except Fault Json :=
  match kind with
  | .rule => getRule p.registry name
  | .ruleList => getRuleList p.registry name recursive
  | .route => getRoute p.registry p.wallTime name recursive
  | .cluster => getCluster p.registry p.wallTime name
  | .stage =>
    if Table.has p.registry.current.stages name then .ok (.ofFields [("name", name)])
    else .error (.notFound .stage name)
  | .session => getSession p name recursive

/-- The value at a path of a view. -/
def getPath (p : Proxy) (kind : EntityKind) (name path : String) : Except Fault Json :=
  match get p kind name false with
  | .error f => .error f
  | .ok view =>
    match Path.get view path with
    | some v => .ok v
    | none => .error (.pathNotFound kind name path)

/-! ### Edits at paths -/

/-- A change of a document at a path. -/
abbrev PathEdit := Json → String → Except Fault Json

/-- The change that writes a value. -/
def writing (value : Json) : PathEdit := fun doc path => .ok (Path.set doc path value)

/-- The change that takes a value out; a value that is not there is a fault. `path` is the path that
the fault names. -/
def removing (kind : EntityKind) (name path : String) : PathEdit := fun doc inner =>
  match Path.remove? doc inner with
  | some (_, rest) => .ok rest
  | none => .error (.pathNotFound kind name path)

/-- The definition of a registered thing as a document. -/
def definitionOf (s : Snapshot) (res : Resources) (time : Nat) (kind : EntityKind) (name : String) :
    Except Fault Json :=
  match kind with
  | .rule =>
    match s.rule? name with
    | some rule => .ok rule.toDefinition.encode
    | none => .error (.notFound .rule name)
  | .ruleList => (ruleListOf s name).map (viewRuleList s res.counters false)
  | .route =>
    match s.route? name with
    | some route => .ok route.toDefinition.encode
    | none => .error (.notFound .route name)
  | .cluster =>
    match s.cluster? name with
    | some id => .ok (res.clusters.view time id)
    | none => .error (.notFound .cluster name)
  | .stage | .session => .error (.invalid .stage .stageNotEditable)

/-- Stores a document as the definition of a thing that is there. -/
def storeDefinition (strict : Bool) (time : Nat) (kind : EntityKind) (name : String) (doc : Json) :
    Edit Json := fun s res =>
  match kind with
  | .rule => updateRule strict name doc s res
  | .ruleList => updateRuleList strict name doc s res
  | .route => updateRoute strict name doc s res
  | .cluster =>
    match decodeAs .cluster (ClusterDefinition.decode false) doc with
    | .error f => (.error f, res)
    | .ok d => storeCluster time name d s res
  | .stage | .session => (.error (.invalid .stage .stageNotEditable), res)

/-- Edits the definition of a registered thing. -/
def editDefinition (strict : Bool) (time : Nat) (kind : EntityKind) (name path : String)
    (change : PathEdit) : Edit Json := fun s res =>
  let changed : Except Fault Json := do change (← definitionOf s res time kind name) path
  match changed with
  | .error f => (.error f, res)
  | .ok doc => storeDefinition strict time kind name doc s res

/-- The path inside a session's metadata that a path inside the session means. -/
def metadataPath? (path : String) : Option String :=
  match Path.segments path with
  | "metadata" :: s :: rest => some ("/" ++ "/".intercalate (s :: rest))
  | _ => none

/-- Edits the metadata of a session. -/
def editSession (p : Proxy) (name path : String) (change : PathEdit) :
    Except Fault Json × Proxy :=
  match metadataPath? path with
  | none => (.error (.invalid .session (.notMetadata path)), p)
  | some inner =>
    match sessionOf p name with
    | .error f => (.error f, p)
    | .ok (id, session) =>
      match change session.metadata inner with
      | .error f => (.error f, p)
      | .ok metadata =>
        (.ok (({ session with metadata }).view false), p.setMetadata id metadata)

/-- Edits a thing at a path. -/
def editPath (p : Proxy) (kind : EntityKind) (name path : String) (change : PathEdit) :
    Except Fault Json × Proxy :=
  if Path.isRoot path then (.error (.invalid kind .wholeEntity), p)
  else match kind with
    | .stage => (.error (.invalid .stage .stageNotEditable), p)
    | .session => editSession p name path change
    | kind => p.update (editDefinition p.strict p.wallTime kind name path change)

/-- Writes a value at a path of a thing. -/
def setPath (p : Proxy) (kind : EntityKind) (name path : String) (value : Json) :
    Except Fault Json × Proxy :=
  editPath p kind name path (writing value)

/-- Takes the value at a path of a thing out. -/
def deletePath (p : Proxy) (kind : EntityKind) (name path : String) : Except Fault Json × Proxy :=
  editPath p kind name path (removing kind name path)

/-! ### Everything -/

/-- All that there is. -/
def dump (p : Proxy) : Json :=
  let sessions := p.liveSessions
  let forwarded := sessions.foldl (fun n s => n + (s.bytesIn + s.bytesOut)) 0
  .ofFields
    [("rules", .array (listRules p.registry)),
      ("rulelists", .array (listRuleLists p.registry false)),
      ("routes", .array (listRoutes p.registry p.wallTime false)),
      ("clusters", .array (listClusters p.registry p.wallTime)),
      ("stages", .array (listStages p.registry)),
      ("sessions", .array (listSessions p false)),
      ("stats", .ofFields
        [("sessions_live", .nat (sessions.filter fun s => !s.isTerminated).length),
          ("bytes_forwarded", .nat forwarded)])]

end Admin

end Switchboard

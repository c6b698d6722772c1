/-
Static configurations: what a proxy loads when it starts.

A configuration is checked while its text is read, so a wrong field is reported before a syntax error
that comes after it. What was loaded before something fails stays loaded.

* `StaticConfig.parse`: the configuration of a text;
* `StaticConfig.load`: loads it, and gives the listeners to open.
-/
import Switchboard.Admin.Paths
import Switchboard.Config.Settings
import Switchboard.Definition.Listener
import Switchboard.Json.Document

namespace Switchboard

/-- Why a text is no configuration. -/
inductive ConfigFault
  | notJson (reason : SyntaxError)
  | malformed (reason : Decode.Fault)

def ConfigFault.message : ConfigFault → String
  | notJson reason => reason.message
  | malformed reason => reason.message

/-- A reader of values out of a text. -/
abbrev DocumentDecoder (α : Type) := Document → Except ConfigFault α

namespace DocumentDecoder

open Decode

/-- The value of a document. -/
def json : DocumentDecoder Json := fun d =>
  d.toJson.mapError fun f => .notJson f.error

/-- A document without what is inside its containers, for the account of a fault. -/
def outline : Document → Json
  | .null | .broken _ | .skipped => .null
  | .bool b => .bool b
  | .number n => .number n
  | .string s => .string s
  | .array _ _ => .array []
  | .object _ _ => .object []

/-- Reads a value that is not looked into any further on the way. -/
def plain {α : Type} (decode : Decoder α) : DocumentDecoder α
  | .broken e => .error (.notJson e)
  | d => (decode (outline d)).mapError .malformed

/-- Reads the items of an array up to the first fault, and then its end. -/
def items {α : Type} (item : DocumentDecoder α) (stop : Option SyntaxError) :
    List Document → Except ConfigFault (List α)
  | [] =>
    match stop with
    | some e => .error (.notJson e)
    | none => .ok []
  | d :: rest => do
    let a ← item d
    let as ← items item stop rest
    return a :: as

def list {α : Type} (item : DocumentDecoder α) : DocumentDecoder (List α)
  | .array ds stop => items item stop ds
  | .broken e => .error (.notJson e)
  | d => .error (.malformed (.wrongType (outline d) "a sequence"))

/-- What one field of a record is read into. -/
abbrev FieldReader (σ : Type) := String → Document → σ → Except ConfigFault σ

/-- Reads the fields of an object in order. A field comes at most once; a field that the type does
not know is passed over, or refused if `closed`. -/
def named {σ : Type} (type : RecordType) (closed : Bool) (read : FieldReader σ)
    (stop : Option SyntaxError) : List (String × Document) → List String → σ →
    Except ConfigFault σ
  | [], _, state =>
    match stop with
    | some e => .error (.notJson e)
    | none => .ok state
  | (name, d) :: rest, seen, state =>
    if name ∈ type.fields then
      if name ∈ seen then .error (.malformed (.repeatedField name))
      else do named type closed read stop rest (name :: seen) (← read name d state)
    else if closed then .error (.malformed (.unknownField name type.fields))
    else do
      let _ ← json d
      named type closed read stop rest seen state

/-- The error at the end of an array all of whose expected items were read. -/
def surplus (extra : Bool) (stop : Option SyntaxError) : Option SyntaxError :=
  if extra then some .trailingCharacters
  else stop.map fun e =>
    if e = .trailingComma ∨ e = .endInArray then e else .trailingCharacters

/-- Reads the items of an array as fields of the given names, in order. -/
def listed {σ : Type} (read : FieldReader σ) (stop : Option SyntaxError) :
    List String → List Document → σ → Except ConfigFault σ
  | [], ds, state =>
    match surplus (!ds.isEmpty) stop with
    | some e => .error (.notJson e)
    | none => .ok state
  | name :: names, d :: ds, state => do listed read stop names ds (← read name d state)
  | _ :: _, [], state =>
    match stop with
    | some e => .error (.notJson e)
    | none => .ok state

/-- Reads a record from `start` on, and gives the fault of a missing field along with it. -/
def record {σ : Type} (type : RecordType) (closed : Bool) (read : FieldReader σ) (start : σ) :
    DocumentDecoder (σ × (String → Fault))
  | .object fs stop => do
    return (← named type closed read stop fs [] start, (Record.named []).absent type)
  | .array ds stop => do
    return (← listed read stop type.fields ds start, (Record.listed []).absent type)
  | .broken e => .error (.notJson e)
  | d => .error (.malformed (.wrongType (outline d) type.title))

end DocumentDecoder

namespace ListenerDefinition

open Decode DocumentDecoder

/-- Whether one of the names comes more than once. -/
def repeats (names : List String) (fs : List (String × Document)) : Bool :=
  names.any fun name => 1 < (fs.filter fun f => f.1 = name).length

/-- Whether a definition of a rule repeats a field. -/
def repeatsInRule : Document → Bool
  | .object fs _ => repeats RuleDefinition.type.fields fs
  | _ => false

/-- Whether a definition of a list of rules repeats a field. -/
def repeatsInRuleList : Document → Bool
  | .object fs _ =>
    repeats RuleListDefinition.type.fields fs || fs.any fun
      | ("rules", .array rules _) => rules.any repeatsInRule
      | _ => false
  | .array [_, .array rules _] _ => rules.any repeatsInRule
  | _ => false

/-- Reads the list of rules of a listener. -/
def readBinding : DocumentDecoder RuleListBinding := fun d => do
  let v ← json d
  if repeatsInRuleList d then .error (.malformed (.noVariant "RuleListBinding"))
  else (RuleListBinding.decode v).mapError .malformed

/-- The parts of a listener that were read so far. -/
structure Draft where
  name : Option String
  bind : Option SocketAddress
  rules : Option RuleListBinding
  maxConnections : Option Nat

def readField : FieldReader Draft := fun name d draft =>
  match name with
  | "name" => do return { draft with name := some (← plain string d) }
  | "bind" => do return { draft with bind := some (← plain decodeAddress d) }
  | "rulelist" => do return { draft with rules := some (← readBinding d) }
  | _ => do return { draft with maxConnections := ← plain (optional size) d }

/-- The listener of a draft that lacks nothing. -/
def Draft.finish (draft : Draft) (absent : String → Fault) : Except Fault ListenerDefinition := do
  let need {α : Type} (name : String) : Option α → Except Fault α
    | some a => .ok a
    | none => .error (absent name)
  return ⟨← need "name" draft.name, ← need "bind" draft.bind, ← need "rulelist" draft.rules,
    draft.maxConnections⟩

/-- Reads a listener out of a text. -/
def read : DocumentDecoder ListenerDefinition := fun d => do
  let (draft, absent) ← DocumentDecoder.record type false readField ⟨none, none, none, none⟩ d
  (draft.finish absent).mapError .malformed

end ListenerDefinition

/-- What is loaded, section by section. The sections but the last are looked into only when they are
loaded. -/
structure StaticConfig where
  clusters : List Json
  routes : List Json
  rules : List Json
  ruleLists : List Json
  listeners : List ListenerDefinition

/-- Why a configuration is not loaded, or not to its end. -/
inductive LoadFault
  | invalid (reason : ConfigFault)
  | entry (sectionName : String) (index : Nat) (reason : Admin.Fault)
  | listener (name : String) (reason : Admin.Fault)

def LoadFault.message : LoadFault → String
  | invalid reason => "Config is not a valid static configuration: " ++ reason.message
  | entry sectionName index reason =>
    sectionName ++ "[" ++ toString index ++ "]: " ++ reason.message
  | listener name reason => "listener \"" ++ name ++ "\": " ++ reason.message

namespace StaticConfig

open DocumentDecoder

def type : Decode.RecordType where
  title := "struct StaticConfig"
  fields := ["clusters", "routes", "rules", "rulelists", "listeners"]

def empty : StaticConfig := ⟨[], [], [], [], []⟩

def readField : FieldReader StaticConfig := fun name d config =>
  match name with
  | "clusters" => do return { config with clusters := ← list json d }
  | "routes" => do return { config with routes := ← list json d }
  | "rules" => do return { config with rules := ← list json d }
  | "rulelists" => do return { config with ruleLists := ← list json d }
  | _ => do return { config with listeners := ← list ListenerDefinition.read d }

/-- Whether a step into a configuration leads to its listeners. -/
def leadsToListeners : Document.Step → Bool
  | .field name => name = "listeners"
  | .item i => type.fields[i]? = some "listeners"
  | .unnamed => false

/-- Whether the field at a place, given with its innermost step first, is looked at. Only listeners
have fields that are not. -/
def wanted : List Document.Step → Bool
  | [.field name, .item _, s] => !leadsToListeners s || ListenerDefinition.type.fields.contains name
  | _ => true

/-- The configuration of a text. -/
def parse (text : String) : Except ConfigFault StaticConfig :=
  let (d, trailing) := Document.read wanted text
  match record type true readField empty d, trailing with
  | .error f, _ => .error f
  | .ok _, some e => .error (.notJson e)
  | .ok (config, _), none => .ok config

/-! ### Loading -/

/-- Adds the entries of a section up to the first that fails. -/
def loadSection (sectionName : String) (add : Json → Admin.Edit Json) :
    Nat → List Json → Proxy → Except LoadFault Unit × Proxy
  | _, [], p => (.ok (), p)
  | i, v :: rest, p =>
    match p.update (add v) with
    | (.error f, p) => (.error (.entry sectionName i f), p)
    | (.ok _, p) => loadSection sectionName add (i + 1) rest p

/-- Finds or adds the list of rules of a listener and gives its name. A list that a listener defines
without a name is named after the listener. -/
def bindRules (listener : String) (p : Proxy) :
    RuleListBinding → Except LoadFault String × Proxy
  | .named name =>
    match Admin.getRuleList p.registry name false with
    | .error f => (.error (.listener listener f), p)
    | .ok _ => (.ok name, p)
  | .inline d =>
    let name := d.name.getD (listener ++ "_rules")
    match p.update (Admin.addRuleList p.strict { d with name := some name }.encode) with
    | (.error f, p) => (.error (.listener listener f), p)
    | (.ok _, p) => (.ok name, p)

/-- Binds listeners to their lists of rules, up to the first that fails. -/
def loadListeners (defaultLimit : Nat) :
    List ListenerDefinition → Proxy → Except LoadFault (List ListenerConfig) × Proxy
  | [], p => (.ok [], p)
  | d :: rest, p =>
    match bindRules d.name p d.rules with
    | (.error f, p) => (.error f, p)
    | (.ok ruleList, p) =>
      let (configs, p) := loadListeners defaultLimit rest p
      (configs.map fun configs =>
        ⟨d.name, d.bind, ruleList, d.maxConnections.getD defaultLimit⟩ :: configs, p)

/-- Goes on with the next section if the one before was loaded. -/
def andThen {α : Type} (before : Except LoadFault Unit × Proxy)
    (next : Proxy → Except LoadFault α × Proxy) : Except LoadFault α × Proxy :=
  match before with
  | (.error f, p) => (.error f, p)
  | (.ok _, p) => next p

/-- Loads a configuration: what others refer to comes first. -/
def load (config : StaticConfig) (defaultLimit : Nat) (p : Proxy) :
    Except LoadFault (List ListenerConfig) × Proxy :=
  andThen (loadSection "clusters" (Admin.addCluster p.wallTime) 0 config.clusters p) fun p =>
  andThen (loadSection "routes" (Admin.addRoute p.strict) 0 config.routes p) fun p =>
  andThen (loadSection "rules" (Admin.addRule p.strict) 0 config.rules p) fun p =>
  andThen (loadSection "rulelists" (Admin.addRuleList p.strict) 0 config.ruleLists p) fun p =>
  loadListeners defaultLimit config.listeners p

/-- Reads and loads a configuration. -/
def loadText (text : String) (defaultLimit : Nat) (p : Proxy) :
    Except LoadFault (List ListenerConfig) × Proxy :=
  match parse text with
  | .error f => (.error (.invalid f), p)
  | .ok config => config.load defaultLimit p

end StaticConfig

end Switchboard

/-
Predicates over JSON documents, written in JSON.

An operation is an object with the name of the operation (`op`), the place it looks at (`path`) and,
for most operations, an operand (`value`). The compound operations `and`, `or` and `not` hold their
parts in `apply`, and their own path stands in front of the paths of their parts. An array of
predicates holds if all of them do.

A place that is missing or holds a value of another type does not satisfy a predicate. A predicate
that is malformed is a fault, but only where evaluation comes across it.

* `Predicate.ofJson`: the predicate that an expression stands for; its patterns are read at once;
* `Predicate.evaluate`: whether a document satisfies it;
* `Predicate.validate`: whether it is well formed, without a document.
-/
import Switchboard.Json.Path
import Switchboard.Pattern.Matching
import Switchboard.Text.Lowercase

namespace Switchboard

namespace Predicate

/-- The operations. -/
inductive Op
  | test
  | contains
  | defined
  | undefined
  | starts
  | ends
  | matchesPattern
  | isIn
  | less
  | more
  | type
  | and
  | or
  | not
deriving DecidableEq, Repr

namespace Op

def text : Op → String
  | test => "test"
  | contains => "contains"
  | defined => "defined"
  | undefined => "undefined"
  | starts => "starts"
  | ends => "ends"
  | matchesPattern => "matches"
  | isIn => "in"
  | less => "less"
  | more => "more"
  | type => "type"
  | and => "and"
  | or => "or"
  | not => "not"

def all : List Op :=
  [test, contains, defined, undefined, starts, ends, matchesPattern, isIn, less, more, type, and, or, not]

/-- The operation of a name. -/
def ofText? (s : String) : Option Op := all.find? fun op => op.text == s

/-- Operations on other predicates. -/
def isCompound : Op → Bool
  | and | or | not => true
  | _ => false

/-- Operations with an operand. -/
def takesOperand : Op → Bool
  | defined | undefined | and | or | not => false
  | _ => true

end Op

/-- What is wrong with the operand of an operation. -/
inductive OperandFault
  | notAString
  | notAnArray
  | notANumber
  | unknownType (name : String)
  | pattern (reason : Pattern.Fault)
  /-- A pattern that is not in the table of a predicate's patterns. -/
  | patternNotRead

def OperandFault.message : OperandFault → String
  | notAString => "value must be a string"
  | notAnArray => "value must be an array"
  | notANumber => "value must be a number"
  | unknownType name => "unknown type \"" ++ name ++ "\""
  | pattern reason => reason.message
  | patternNotRead => "pattern was not compiled"

/-- Why a predicate cannot be evaluated. -/
inductive Fault
  | notAnObject
  | missingOp
  | unknownOp (name : String)
  | missingField (op : Op) (field : String)
  | invalidOperand (op : Op) (reason : OperandFault)

def Fault.message : Fault → String
  | notAnObject => "predicate must be an object or an array of objects"
  | missingOp => "predicate is missing \"op\""
  | unknownOp name => "unknown predicate operation \"" ++ name ++ "\""
  | missingField op field => "operation \"" ++ op.text ++ "\" requires \"" ++ field ++ "\""
  | invalidOperand op reason => "operation \"" ++ op.text ++ "\": " ++ reason.message

/-! ### Parts of an operation -/

/-- The text in a field. -/
def textField? (fields : List (String × Json)) (name : String) : Option String :=
  (Table.find? fields name).bind Json.string?

/-- The operation that an object names. -/
def opOf (fields : List (String × Json)) : Except Fault Op :=
  match textField? fields "op" with
  | none => .error .missingOp
  | some name =>
    match Op.ofText? name with
    | some op => .ok op
    | none => .error (.unknownOp name)

def ignoresCase (fields : List (String × Json)) : Bool :=
  ((Table.find? fields "ignore_case").bind Json.bool?).getD false

/-- `path` behind `base`, with one slash between them. -/
def joinPaths (base path : String) : String :=
  String.ofList ((base.toList.reverse.dropWhile (· = '/')).reverse ++
    '/' :: path.toList.dropWhile (· = '/'))

/-- The names that the operand of `type` may be. -/
def typeNames : List String :=
  ["null", "boolean", "number", "integer", "string", "array", "object", "undefined"]

def operandString (op : Op) : Json → Except Fault String
  | .string s => .ok s
  | _ => .error (.invalidOperand op .notAString)

def operandType (op : Op) (operand : Json) : Except Fault String := do
  let name ← operandString op operand
  if name ∈ typeNames then .ok name else .error (.invalidOperand op (.unknownType name))

/-! ### Patterns -/

/-- A pattern and whether it disregards case. -/
abbrev PatternKey := String × Bool

mutual

/-- The patterns that the evaluation of an expression may use. -/
def patternKeys : Json → List PatternKey
  | .array items => patternKeysOfItems items
  | .object fields =>
    patternKeysOfParts fields ++
      match textField? fields "op", textField? fields "value" with
      | some "matches", some pattern => [(pattern, ignoresCase fields)]
      | _, _ => []
  | _ => []

def patternKeysOfItems : List Json → List PatternKey
  | [] => []
  | v :: rest => patternKeys v ++ patternKeysOfItems rest

/-- The patterns of the parts that the first field named `apply` lists. -/
def patternKeysOfParts : List (String × Json) → List PatternKey
  | [] => []
  | (name, v) :: rest =>
    if name = "apply" then
      match v with
      | .array items => patternKeysOfItems items
      | _ => []
    else patternKeysOfParts rest

end

/-- Patterns ready for use, or the reason why one is none. -/
abbrev PatternTable := List (PatternKey × Except Pattern.Fault Pattern.Compiled)

namespace PatternTable

/-- Reads the given patterns. -/
def ofKeys (keys : List PatternKey) : PatternTable :=
  keys.eraseDups.map fun key => (key, Pattern.compile key.1 key.2)

/-- The entry of a pattern. -/
def find? (table : PatternTable) (key : PatternKey) :
    Option (Except Pattern.Fault Pattern.Compiled) :=
  (List.find? (fun e => e.1 == key) table).map Prod.snd

end PatternTable

/-! ### Single operations -/

/-- Whether `needle` stands somewhere in `cs`. -/
def occursIn (needle : List Char) : List Char → Bool
  | [] => needle.isEmpty
  | c :: rest => needle.isPrefixOf (c :: rest) || occursIn needle rest

/-- A text as it is compared. -/
def folded (ignoreCase : Bool) (s : String) : List Char :=
  (if ignoreCase then Text.lowercase s else s).toList

/-- Equality of a value with an operand. Numbers count by their value, whether they are written as
whole numbers or not; inside arrays and objects they have to be written alike. -/
def equals (ignoreCase : Bool) : Json → Json → Bool
  | .string a, .string b => folded ignoreCase a == folded ignoreCase b
  | .number a, .number b => a.same b || a.toBinary64.same b.toBinary64
  | a, b => a.same b

/-- Whether a value, if there is one, is of the named type. -/
def hasType (target : Option Json) (name : String) : Bool :=
  match target with
  | none => name == "undefined"
  | some .null => name == "null"
  | some (.bool _) => name == "boolean"
  | some (.number (.int _)) => name == "number" || name == "integer"
  | some (.number (.double _)) => name == "number"
  | some (.string _) => name == "string"
  | some (.array _) => name == "array"
  | some (.object _) => name == "object"

/-- A comparison of a text with the operand. -/
def compareText (op : Op) (ignoreCase : Bool) (haystack needle : String) : Bool :=
  let haystack := folded ignoreCase haystack
  let needle := folded ignoreCase needle
  match op with
  | .contains => occursIn needle haystack
  | .starts => needle.isPrefixOf haystack
  | _ => needle.isSuffixOf haystack

/-- Whether the value at an operation's place, if there is one, satisfies an operation with an
operand. -/
def satisfies (table : PatternTable) (op : Op) (ignoreCase : Bool) (operand : Json)
    (target : Option Json) : Except Fault Bool :=
  match op with
  | .test => .ok (target.any fun t => equals ignoreCase t operand)
  | .contains | .starts | .ends => do
    let needle ← operandString op operand
    .ok ((target.bind Json.string?).any fun s => compareText op ignoreCase s needle)
  | .matchesPattern => do
    let pattern ← operandString op operand
    match table.find? (pattern, ignoreCase) with
    | none => .error (.invalidOperand op .patternNotRead)
    | some (.error reason) => .error (.invalidOperand op (.pattern reason))
    | some (.ok compiled) => .ok ((target.bind Json.string?).any compiled.isMatch)
  | .isIn =>
    match operand with
    | .array choices => .ok (target.any fun t => choices.any (equals ignoreCase t))
    | _ => .error (.invalidOperand op .notAnArray)
  | .less =>
    match operand with
    | .number bound =>
      .ok ((target.bind Json.number?).any fun n => n.toBinary64.less bound.toBinary64)
    | _ => .error (.invalidOperand op .notANumber)
  | .more =>
    match operand with
    | .number bound =>
      .ok ((target.bind Json.number?).any fun n => bound.toBinary64.less n.toBinary64)
    | _ => .error (.invalidOperand op .notANumber)
  | .type => do
    let name ← operandType op operand
    .ok (hasType target name)
  | .defined => .ok target.isSome
  | .undefined => .ok target.isNone
  | .and | .or | .not => .error (.unknownOp op.text)

/-- Evaluates an operation that is not compound. -/
def evaluateLeaf (table : PatternTable) (doc : Json) (op : Op) (fields : List (String × Json))
    (base : String) : Except Fault Bool :=
  match textField? fields "path" with
  | none => .error (.missingField op "path")
  | some path =>
    let target := Path.get doc (joinPaths base path)
    if op.takesOperand then
      match Table.find? fields "value" with
      | none => .error (.missingField op "value")
      | some operand => satisfies table op (ignoresCase fields) operand target
    else satisfies table op false .null target

/-! ### Evaluation -/

mutual

/-- Evaluates an expression whose paths stand behind `base`. -/
def evaluateAt (table : PatternTable) (doc : Json) : Json → String → Except Fault Bool
  | .array items, base => evaluateAll table doc items base
  | .object fields, base =>
    match opOf fields with
    | .error f => .error f
    | .ok op =>
      if op.isCompound then
        evaluateParts table doc op fields
          (joinPaths base ((textField? fields "path").getD ""))
      else evaluateLeaf table doc op fields base
  | _, _ => .error .notAnObject

/-- Evaluates the parts of a compound operation, which the first field named `apply` lists. -/
def evaluateParts (table : PatternTable) (doc : Json) (op : Op) :
    List (String × Json) → String → Except Fault Bool
  | [], _ => .error (.missingField op "apply")
  | (name, v) :: rest, base =>
    if name = "apply" then
      match v with
      | .array items =>
        match op with
        | .and => evaluateAll table doc items base
        | .or => evaluateAny table doc items base
        | _ => (evaluateAny table doc items base).map fun found => !found
      | _ => .error (.missingField op "apply")
    else evaluateParts table doc op rest base

/-- Whether all hold; stops at the first that does not. -/
def evaluateAll (table : PatternTable) (doc : Json) : List Json → String → Except Fault Bool
  | [], _ => .ok true
  | v :: rest, base =>
    match evaluateAt table doc v base with
    | .ok true => evaluateAll table doc rest base
    | other => other

/-- Whether some one holds; stops at the first that does. -/
def evaluateAny (table : PatternTable) (doc : Json) : List Json → String → Except Fault Bool
  | [], _ => .ok false
  | v :: rest, base =>
    match evaluateAt table doc v base with
    | .ok false => evaluateAny table doc rest base
    | other => other

end

/-! ### Validation -/

/-- Checks an operation that is not compound. -/
def checkLeaf (op : Op) (fields : List (String × Json)) : Except Fault Unit :=
  match textField? fields "path" with
  | none => .error (.missingField op "path")
  | some _ =>
    if op.takesOperand then
      match Table.find? fields "value" with
      | none => .error (.missingField op "value")
      | some operand =>
        match op with
        | .contains | .starts | .ends => (operandString op operand).map fun _ => ()
        | .matchesPattern =>
          match operandString op operand with
          | .error f => .error f
          | .ok pattern =>
            match Pattern.compile pattern false with
            | .error reason => .error (.invalidOperand op (.pattern reason))
            | .ok _ => .ok ()
        | .isIn => if operand.array?.isSome then .ok () else .error (.invalidOperand op .notAnArray)
        | .less | .more =>
          if operand.number?.isSome then .ok () else .error (.invalidOperand op .notANumber)
        | .type => (operandType op operand).map fun _ => ()
        | _ => .ok ()
    else .ok ()

mutual

/-- Checks an expression from the left; the first fault counts. -/
def check : Json → Except Fault Unit
  | .array items => checkItems items
  | .object fields =>
    match opOf fields with
    | .error f => .error f
    | .ok op => if op.isCompound then checkParts op fields else checkLeaf op fields
  | _ => .error .notAnObject

def checkParts (op : Op) : List (String × Json) → Except Fault Unit
  | [] => .error (.missingField op "apply")
  | (name, v) :: rest =>
    if name = "apply" then
      match v with
      | .array items => checkItems items
      | _ => .error (.missingField op "apply")
    else checkParts op rest

def checkItems : List Json → Except Fault Unit
  | [] => .ok ()
  | v :: rest =>
    match check v with
    | .ok _ => checkItems rest
    | .error f => .error f

end

end Predicate

/-- An expression together with its patterns, read once. -/
structure Predicate where
  expr : Json
  patterns : Predicate.PatternTable
  patterns_eq : patterns = .ofKeys (Predicate.patternKeys expr)

namespace Predicate

/-- The predicate that an expression stands for; any value will do. -/
def ofJson (expr : Json) : Predicate := ⟨expr, .ofKeys (patternKeys expr), rfl⟩

/-- Whether a document satisfies the predicate. -/
def evaluate (p : Predicate) (doc : Json) : Except Fault Bool :=
  evaluateAt p.patterns doc p.expr ""

/-- Whether the predicate is well formed. -/
def validate (p : Predicate) : Except Fault Unit := check p.expr

end Predicate

/-- What a rule or a filter asks of a document. -/
inductive Match
  | wildcard
  | predicate (p : Predicate)

namespace Match

/-- Null and every string stand for the wildcard. -/
def ofJson : Json → Match
  | .null | .string _ => wildcard
  | expr => predicate (.ofJson expr)

def toJson : Match → Json
  | wildcard => "*"
  | predicate p => p.expr

def isWildcard : Match → Bool
  | wildcard => true
  | predicate _ => false

/-- Whether a document is matched. A predicate that cannot be evaluated matches nothing. -/
def holds (m : Match) (doc : Json) : Bool :=
  match m with
  | wildcard => true
  | predicate p => (p.evaluate doc).toOption.getD false

/-- Whether the predicate, if there is one, is well formed. -/
def validate : Match → Except Predicate.Fault Unit
  | wildcard => .ok ()
  | predicate p => p.validate

end Match

end Switchboard

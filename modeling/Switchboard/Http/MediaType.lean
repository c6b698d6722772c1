/-
Media types, as far as it matters whether a body is said to be JSON.

A media type is `type/subtype+suffix`, with parameters behind semicolons. A text that is not of this
form names no media type.
-/

namespace Switchboard

/-- A media type in lower case, without its parameters. -/
structure MediaType where
  type : String
  subtype : String
  suffix : Option String
deriving DecidableEq, Repr

namespace MediaType

/-- The characters of names and of values without quotes. -/
def isToken (c : Char) : Bool :=
  c.isAlphanum || c ∈ ['!', '#', '$', '%', '&', '\'', '*', '+', '-', '.', '^', '_', '\x60', '|', '~']

/-- The longest start that consists of token characters, and the rest. -/
def spanToken (cs : List Char) : List Char × List Char := cs.span isToken

/-- What may stand between quotes. -/
def isQuotable (c : Char) : Bool := 0x20 ≤ c.toNat && c.toNat ≠ 0x7f

/-- Skips a value after its opening quote. The first character belongs to the value even if it is a
quote, so no value is empty. -/
def skipQuoted : List Char → Option (List Char)
  | [] => none
  | c :: rest =>
    match (rest.span (· ≠ '"')) with
    | (inner, _ :: after) => if (c :: inner).all isQuotable then some after else none
    | (_, []) => none

/-- Whether parameters are well formed; `cs` is what stands behind a semicolon. -/
def parametersOk : Nat → List Char → Bool
  | 0, _ => false
  | fuel + 1, cs =>
    let (name, rest) := spanToken (cs.dropWhile (· = ' '))
    match name, rest with
    | [], [] => true
    | _ :: _, '=' :: '"' :: quoted =>
      match (skipQuoted quoted).map (List.dropWhile (· = ' ')) with
      | none => false
      | some [] => true
      | some (';' :: rest) => parametersOk fuel rest
      | some _ => false
    | _ :: _, '=' :: value =>
      match spanToken value with
      | (_, []) => true
      | (_ :: _, ';' :: rest) => parametersOk fuel rest
      | _ => false
    | _, _ => false

/-- A name in lower case. -/
def lower (cs : List Char) : String := String.ofList (cs.map Char.toLower)

/-- Splits a subtype at its last plus sign, unless that is the first character. -/
def splitSuffix (cs : List Char) : String × Option String :=
  let after := (cs.reverse.takeWhile (· ≠ '+')).reverse
  let before := cs.take (cs.length - after.length - 1)
  if after.length = cs.length || before.isEmpty then (lower cs, none)
  else (lower before, some (lower after))

/-- What a header may hold to be read as text. -/
def isVisible (c : Char) : Bool := c = '\t' || (0x20 ≤ c.toNat && c.toNat < 0x7f)

/-- The media type of a text. -/
def parse? (s : String) : Option MediaType :=
  if !s.toList.all isVisible then none else
  match spanToken s.toList with
  | (type@(_ :: _), '/' :: rest) =>
    let (subtype, parameters) := spanToken rest
    let ok := match subtype, parameters with
      | _, [] => true
      | _ :: _, ';' :: parameters => parametersOk (parameters.length + 1) parameters
      | _, _ => false
    let (name, suffix) := splitSuffix subtype
    if ok then some ⟨lower type, name, suffix⟩ else none
  | _ => none

/-- Whether this is JSON or something written in JSON. -/
def isJson (m : MediaType) : Bool :=
  m.type == "application" && (m.subtype == "json" || m.suffix == some "json")

end MediaType

end Switchboard

/-
JSON texts, as far as they can be read.

A reader that checks the meaning of a text while it goes along reports a wrong field before a syntax
error that comes after it. So a text is read into a `Document`: the values in the order of the text,
repeated fields included, with a mark where reading broke off. Fields that the reader does not want
are passed over.

* `Document.read`: the document of a text;
* `Document.toJson`: its value, or the first syntax error with the place where it arose;
* `Json.parse`: both at once.
-/
import Switchboard.Json.Basic
import Switchboard.Json.Skip

namespace Switchboard

/-- A text as far as it was read. Where a value breaks off, so does everything around it. -/
inductive Document
  | null
  | bool (b : Bool)
  | number (n : Number)
  | string (s : String)
  /-- The items, and the error if the array is not closed after them. -/
  | array (items : List Document) (stop : Option SyntaxError)
  /-- The fields in order of the text, and the error if the object is not closed after them. -/
  | object (fields : List (String × Document)) (stop : Option SyntaxError)
  | broken (e : SyntaxError)
  /-- A value that nobody asked for. -/
  | skipped
deriving Repr, Inhabited

namespace Document

open JsonText

/-! ### Numbers -/

/-- A number in the making: digits read so far as one whole number, which stays within 64 bits, and
the power of ten it is to be scaled by. -/
structure Scan where
  significand : Nat
  exponent : Int

/-- Takes up digits while they fit; gives the digits that no longer do. -/
def takeUp : List Char → Nat → Nat × List Char
  | [], n => (n, [])
  | c :: rest, n =>
    let next := n * 10 + (Numeral.digit? c).getD 0
    if next ≤ Numeral.word64 then takeUp rest next else (n, c :: rest)

/-- The double with the given sign. -/
def signed (negative : Bool) (x : Binary64) : Number :=
  .double (if negative then x.neg else x)

/-- Ends a number that has a fraction, an exponent or too many digits. -/
def finishDouble (negative : Bool) (s : Scan) (rest : List Char) :
    Except SyntaxError (Number × List Char) :=
  match (Binary64.ofRatio s.significand 1).scale s.exponent with
  | some x => .ok (signed negative x, rest)
  | none => .error .numberOutOfRange

/-- The largest exponent that is taken at its word. -/
def exponentLimit : Nat := 0x7fffffff

/-- Reads what follows the mark of an exponent. -/
def readExponent (negative : Bool) (s : Scan) (cs : List Char) :
    Except SyntaxError (Number × List Char) :=
  let (down, cs) := match cs with
    | '+' :: rest => (false, rest)
    | '-' :: rest => (true, rest)
    | _ => (false, cs)
  let (digits, rest) := spanDigits cs
  if digits.isEmpty then .error (if cs.isEmpty then .endInValue else .invalidNumber)
  else
    let e := digits.foldl (fun n c => n * 10 + (Numeral.digit? c).getD 0) 0
    if e ≤ exponentLimit then
      finishDouble negative { s with exponent := if down then s.exponent - e else s.exponent + e } rest
    else if s.significand ≠ 0 ∧ ¬ down then .error .numberOutOfRange
    else .ok (signed negative .zero, rest)

/-- Reads what follows the point. -/
def readFraction (negative : Bool) (s : Scan) (cs : List Char) :
    Except SyntaxError (Number × List Char) :=
  let (digits, rest) := spanDigits cs
  let (n, dropped) := takeUp digits s.significand
  if digits.isEmpty then .error (if cs.isEmpty then .endInValue else .invalidNumber)
  else
    let s : Scan := ⟨n, s.exponent - (digits.length - dropped.length : Nat)⟩
    match rest with
    | 'e' :: rest | 'E' :: rest => readExponent negative s rest
    | _ => finishDouble negative s rest

/-- Reads a number after its sign. A whole number that fits 64 bits stays whole, minus zero
excepted. -/
def readMagnitude (negative : Bool) (cs : List Char) : Except SyntaxError (Number × List Char) :=
  let (digits, rest) := spanDigits cs
  match digits with
  | [] => .error (if cs.isEmpty then .endInValue else .invalidNumber)
  | '0' :: _ :: _ => .error .invalidNumber
  | _ =>
    let (n, dropped) := takeUp digits 0
    let s : Scan := ⟨n, dropped.length⟩
    match rest with
    | '.' :: rest => readFraction negative s rest
    | 'e' :: rest | 'E' :: rest => readExponent negative s rest
    | _ =>
      if ¬ dropped.isEmpty then finishDouble negative s rest
      else if ¬ negative then .ok (.int n, rest)
      else if 0 < n ∧ n ≤ Numeral.signed64 + 1 then .ok (.int (-(n : Int)), rest)
      else .ok (signed true (.ofRatio n 1), rest)

/-! ### Strings -/

/-- Reads an escape after its backslash. Characters beyond the first 65536 take two escapes. -/
def readEscape : List Char → Except SyntaxError (Char × List Char)
  | [] => .error .endInString
  | '"' :: rest => .ok ('"', rest)
  | '\\' :: rest => .ok ('\\', rest)
  | '/' :: rest => .ok ('/', rest)
  | 'b' :: rest => .ok ('\x08', rest)
  | 'f' :: rest => .ok ('\x0c', rest)
  | 'n' :: rest => .ok ('\n', rest)
  | 'r' :: rest => .ok ('\r', rest)
  | 't' :: rest => .ok ('\t', rest)
  | 'u' :: rest => do
    let (high, rest) ← readHex4 rest
    if 0xDC00 ≤ high ∧ high ≤ 0xDFFF then .error .loneSurrogate
    else if high < 0xD800 ∨ 0xDBFF < high then .ok (Char.ofNat high, rest)
    else match rest with
      | [] | ['\\'] => .error .endInString
      | '\\' :: 'u' :: rest =>
        let (low, rest) ← readHex4 rest
        if low < 0xDC00 ∨ 0xDFFF < low then .error .loneSurrogate
        else .ok (Char.ofNat (0x10000 + (high - 0xD800) * 0x400 + (low - 0xDC00)), rest)
      | _ => .error .unfinishedSurrogate
  | _ => .error .invalidEscape

/-- Reads a string after its opening quote; `read` holds what was read, the last character first. -/
def readString : Nat → List Char → List Char → Except SyntaxError (String × List Char)
  | 0, _, _ => .error .endInString
  | fuel + 1, read, cs =>
    match cs with
    | [] => .error .endInString
    | '"' :: rest => .ok (String.ofList read.reverse, rest)
    | '\\' :: rest => do
      let (c, rest) ← readEscape rest
      readString fuel (c :: read) rest
    | c :: rest => if c.toNat < 32 then .error .controlCharacter else readString fuel (c :: read) rest

/-! ### Values -/

/-- A step from a container to a part of it, in the account of an error. -/
inductive Step
  | item (i : Nat)
  | field (name : String)
  /-- A field whose name could not be read. -/
  | unnamed
deriving DecidableEq, Repr

/-- A document, and the text after it unless reading broke off. -/
abbrev Read := Document × Option (List Char)

def ofResult (r : Except SyntaxError (Document × List Char)) : Read :=
  match r with
  | .ok (d, rest) => (d, some rest)
  | .error e => (.broken e, none)

/-- Containers may stand in one another this deep. -/
def maxDepth : Nat := 127

mutual

/-- Reads one value, which stands at `place`, the innermost step first. Fields that are not wanted
are passed over. -/
def readValue (wanted : List Step → Bool) : Nat → Nat → List Step → List Char → Read
  | 0, _, _, _ => (.broken .tooDeep, none)
  | fuel + 1, depth, place, cs =>
    match skipBlanks cs with
    | [] => (.broken .endInValue, none)
    | 'n' :: rest => ofResult ((readWord ['u', 'l', 'l'] rest).map (.null, ·))
    | 't' :: rest => ofResult ((readWord ['r', 'u', 'e'] rest).map (.bool true, ·))
    | 'f' :: rest => ofResult ((readWord ['a', 'l', 's', 'e'] rest).map (.bool false, ·))
    | '"' :: rest => ofResult ((readString (rest.length + 1) [] rest).map fun r => (.string r.1, r.2))
    | '[' :: rest =>
      if depth = 0 then (.broken .tooDeep, none)
      else
        let (items, stop, rest) := readItems wanted fuel (depth - 1) place 0 rest
        (.array items stop, rest)
    | '\x7b' :: rest =>
      if depth = 0 then (.broken .tooDeep, none)
      else
        let (fields, stop, rest) := readFields wanted fuel (depth - 1) place true rest
        (.object fields stop, rest)
    | '-' :: rest => ofResult ((readMagnitude true rest).map fun r => (.number r.1, r.2))
    | c :: rest =>
      if (Numeral.digit? c).isSome then
        ofResult ((readMagnitude false (c :: rest)).map fun r => (.number r.1, r.2))
      else (.broken .valueExpected, none)

/-- Reads the items of an array from the one with number `i` up to its end. -/
def readItems (wanted : List Step → Bool) : Nat → Nat → List Step → Nat → List Char →
    List Document × Option SyntaxError × Option (List Char)
  | 0, _, _, _, _ => ([], some .tooDeep, none)
  | fuel + 1, depth, place, i, cs =>
    let item (cs : List Char) :=
      let (d, rest) := readValue wanted fuel depth (.item i :: place) cs
      match rest with
      | none => ([d], none, none)
      | some rest =>
        let (items, stop, rest) := readItems wanted fuel depth place (i + 1) rest
        (d :: items, stop, rest)
    match skipBlanks cs with
    | [] => ([], some .endInArray, none)
    | ']' :: rest => ([], none, some rest)
    | c :: rest =>
      if i = 0 then item (c :: rest)
      else if c ≠ ',' then ([], some .arraySeparatorExpected, none)
      else match skipBlanks rest with
        | [] => ([], some .endInValue, none)
        | ']' :: _ => ([], some .trailingComma, none)
        | rest => item rest

/-- Reads the fields of an object up to its end. -/
def readFields (wanted : List Step → Bool) : Nat → Nat → List Step → Bool → List Char →
    List (String × Document) × Option SyntaxError × Option (List Char)
  | 0, _, _, _, _ => ([], some .tooDeep, none)
  | fuel + 1, depth, place, first, cs =>
    -- reads a field after the opening quote of its name
    let field (cs : List Char) :=
      match readString (cs.length + 1) [] cs with
      | .error e => ([], some e, none)
      | .ok (name, rest) =>
        match skipBlanks rest with
        | [] => ([(name, .broken .endInObject)], none, none)
        | ':' :: rest =>
          let place' := .field name :: place
          let (d, rest) :=
            if wanted place' then readValue wanted fuel depth place' rest
            else ofResult ((skipValue rest).map (.skipped, ·))
          match rest with
          | none => ([(name, d)], none, none)
          | some rest =>
            let (fields, stop, rest) := readFields wanted fuel depth place false rest
            ((name, d) :: fields, stop, rest)
        | _ => ([(name, .broken .colonExpected)], none, none)
    match skipBlanks cs with
    | [] => ([], some .endInObject, none)
    | '\x7d' :: rest => ([], none, some rest)
    | c :: rest =>
      if first then
        if c = '"' then field rest else ([], some .keyNotString, none)
      else if c ≠ ',' then ([], some .objectSeparatorExpected, none)
      else match skipBlanks rest with
        | [] => ([], some .endInValue, none)
        | '"' :: rest => field rest
        | '\x7d' :: _ => ([], some .trailingComma, none)
        | _ => ([], some .keyNotString, none)

end

/-- Reads a whole text, of which the fields at the wanted places count. The error comes from what
follows the value, if anything does. -/
def read (wanted : List Step → Bool) (text : String) : Document × Option SyntaxError :=
  let cs := text.toList
  let (d, rest) := readValue wanted (2 * cs.length + 2) maxDepth [] cs
  match rest with
  | some rest => (d, if (skipBlanks rest).isEmpty then none else some .trailingCharacters)
  | none => (d, none)

/-! ### Values of documents -/

/-- A syntax error and the value it arose in. -/
structure Failure where
  path : List Step
  error : SyntaxError
deriving DecidableEq, Repr

namespace Failure

def under (s : Step) (f : Failure) : Failure := { f with path := s :: f.path }

/-- A step as it is written, with a point in front unless the step is the first or an item. -/
def writeStep (first : Bool) (s : Step) : String :=
  let point := if first then "" else "."
  match s with
  | .item i => "[" ++ toString i ++ "]"
  | .field name => point ++ name
  | .unnamed => point ++ "?"

/-- A place as it is written. -/
def writePlace : List Step → String
  | [] => ""
  | s :: rest => writeStep true s ++ String.join (rest.map (writeStep false))

/-- The error, after its place unless nothing is known of that. -/
def message (f : Failure) : String :=
  if f.path.all (· = .unnamed) then f.error.message
  else writePlace f.path ++ ": " ++ f.error.message

end Failure

mutual

/-- The value of a document that was read to its end. -/
def toJson : Document → Except Failure Json
  | .null => .ok .null
  | .bool b => .ok (.bool b)
  | .number n => .ok (.number n)
  | .string s => .ok (.string s)
  | .array items stop =>
    match toItems items 0, stop with
    | .error f, _ => .error f
    | .ok _, some e => .error ⟨[], e⟩
    | .ok vs, none => .ok (.array vs)
  | .object fields stop =>
    match toFields fields, stop with
    | .error f, _ => .error f
    -- what ends an object too early is found in place of the name of a field
    | .ok _, some e => .error ⟨[.unnamed], e⟩
    | .ok es, none => .ok (.ofFields es)
  | .broken e => .error ⟨[], e⟩
  | .skipped => .ok .null

def toItems : List Document → Nat → Except Failure (List Json)
  | [], _ => .ok []
  | d :: rest, i =>
    match toJson d with
    | .error f => .error (f.under (.item i))
    | .ok v => (toItems rest (i + 1)).map (v :: ·)

def toFields : List (String × Document) → Except Failure (List (String × Json))
  | [] => .ok []
  | (name, d) :: rest =>
    match d, toJson d with
    -- a missing colon is an error of the object, not of the value that never came
    | .broken .colonExpected, _ => .error ⟨[], .colonExpected⟩
    | .broken .endInObject, _ => .error ⟨[], .endInObject⟩
    | _, .error f => .error (f.under (.field name))
    | _, .ok v => (toFields rest).map ((name, v) :: ·)

end

end Document

/-- The value that a text stands for. -/
def Json.parse (text : String) : Except Document.Failure Json :=
  let (d, trailing) := Document.read (fun _ => true) text
  match d.toJson, trailing with
  | .error f, _ => .error f
  | .ok _, some e => .error ⟨[], e⟩
  | .ok v, none => .ok v

end Switchboard

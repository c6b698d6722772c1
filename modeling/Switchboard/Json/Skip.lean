/-
Passing over values of JSON texts.

A value that nobody asks for is only followed to its end. Its form is checked and its meaning is not:
numbers may be of any size, escapes may stand for halves of characters, and containers may stand in
one another to any depth.

* `JsonText.skipValue`: the text after a value.
-/
import Switchboard.Json.Syntax

namespace Switchboard

namespace JsonText

/-- A container that is open. -/
inductive Container
  | array
  | object
deriving DecidableEq, Repr

namespace Container

/-- The error of a text that ends in the container. -/
def atEnd : Container → SyntaxError
  | array => .endInArray
  | object => .endInObject

/-- The error of something that neither goes on with the container nor closes it. -/
def atOther : Container → SyntaxError
  | array => .arraySeparatorExpected
  | object => .objectSeparatorExpected

/-- The character that closes the container. -/
def closing : Container → Char
  | array => ']'
  | object => '\x7d'

end Container

/-- Passes over the exponent of a number after its mark. -/
def skipExponent (cs : List Char) : Except SyntaxError (List Char) :=
  let cs := match cs with
    | '+' :: rest | '-' :: rest => rest
    | _ => cs
  match spanDigits cs with
  | ([], _) => .error .invalidNumber
  | (_, rest) => .ok rest

/-- Passes over a number after its sign. -/
def skipMagnitude (cs : List Char) : Except SyntaxError (List Char) :=
  let (digits, rest) := spanDigits cs
  match digits, rest with
  | [], _ | '0' :: _ :: _, _ => .error .invalidNumber
  | _, '.' :: rest =>
    match spanDigits rest with
    | ([], _) => .error .invalidNumber
    | (_, 'e' :: rest) | (_, 'E' :: rest) => skipExponent rest
    | (_, rest) => .ok rest
  | _, 'e' :: rest | _, 'E' :: rest => skipExponent rest
  | _, rest => .ok rest

/-- Passes over a string after its opening quote. -/
def skipString : Nat → List Char → Except SyntaxError (List Char)
  | 0, _ => .error .endInString
  | fuel + 1, cs =>
    match cs with
    | [] | ['\\'] => .error .endInString
    | '"' :: rest => .ok rest
    | '\\' :: 'u' :: rest =>
      match readHex4 rest with
      | .error e => .error e
      | .ok (_, rest) => skipString fuel rest
    | '\\' :: c :: rest =>
      if c ∈ ['"', '\\', '/', 'b', 'f', 'n', 'r', 't'] then skipString fuel rest
      else .error .invalidEscape
    | c :: rest => if c.toNat < 32 then .error .controlCharacter else skipString fuel rest

/-- Passes over a value that is no container. -/
def skipScalar (cs : List Char) : Except SyntaxError (List Char) :=
  match cs with
  | [] => .error .endInValue
  | 'n' :: rest => readWord ['u', 'l', 'l'] rest
  | 't' :: rest => readWord ['r', 'u', 'e'] rest
  | 'f' :: rest => readWord ['a', 'l', 's', 'e'] rest
  | '"' :: rest => skipString (rest.length + 1) rest
  | '-' :: rest => skipMagnitude rest
  | c :: _ => if (Numeral.digit? c).isSome then skipMagnitude cs else .error .valueExpected

/-- Passes over the name of a field and the colon after it. -/
def skipName (cs : List Char) : Except SyntaxError (List Char) :=
  match skipBlanks cs with
  | [] => .error .endInObject
  | '"' :: rest =>
    match skipString (rest.length + 1) rest with
    | .error e => .error e
    | .ok rest =>
      match skipBlanks rest with
      | [] => .error .endInObject
      | ':' :: rest => .ok rest
      | _ => .error .colonExpected
  | _ => .error .keyNotString

/-- Passes over what precedes a value inside a container. -/
def skipLabel (inside : Container) (cs : List Char) : Except SyntaxError (List Char) :=
  match inside with
  | .array => .ok cs
  | .object => skipName cs

mutual

/-- Passes over a value and over what is left of the containers that are open around it, the
innermost first. -/
def skipFrom : Nat → List Container → List Char → Except SyntaxError (List Char)
  | 0, _, _ => .error .endInValue
  | fuel + 1, around, cs =>
    match skipBlanks cs with
    | '[' :: rest => skipInto fuel .array around rest
    | '\x7b' :: rest => skipInto fuel .object around rest
    | cs =>
      match skipScalar cs with
      | .error e => .error e
      | .ok rest => skipAfter fuel around rest

/-- Goes on after the opening of a container. -/
def skipInto : Nat → Container → List Container → List Char → Except SyntaxError (List Char)
  | 0, _, _, _ => .error .endInValue
  | fuel + 1, inside, around, cs =>
    match skipBlanks cs with
    | [] => .error inside.atEnd
    | c :: rest =>
      if c = inside.closing then skipAfter fuel around rest
      else
        match skipLabel inside (c :: rest) with
        | .error e => .error e
        | .ok rest => skipFrom fuel (inside :: around) rest

/-- Goes on after a value. -/
def skipAfter : Nat → List Container → List Char → Except SyntaxError (List Char)
  | 0, _, _ => .error .endInValue
  | _ + 1, [], cs => .ok cs
  | fuel + 1, inside :: around, cs =>
    match skipBlanks cs with
    | [] => .error inside.atEnd
    | c :: rest =>
      if c = ',' then
        match skipLabel inside rest with
        | .error e => .error e
        | .ok rest => skipFrom fuel (inside :: around) rest
      else if c = inside.closing then skipAfter fuel around rest
      else .error inside.atOther

end

/-- The text after a value. Each step takes at least one character or comes after one that does. -/
def skipValue (cs : List Char) : Except SyntaxError (List Char) :=
  skipFrom (2 * cs.length + 2) [] cs

end JsonText

end Switchboard

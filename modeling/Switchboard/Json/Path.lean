/-
Paths into JSON documents, written with slashes.

One leading and one trailing slash are dropped, and what is left is split at the slashes; nothing
left means the whole document. A segment is a key of an object or an index of an array. Reading never
creates anything. Writing creates what is missing: containers in the way that do not fit become
objects.

* `Path.get`, `Path.set`, `Path.replace?`, `Path.remove?`: the operations;
* `Path.objectKey`: which key a segment means, an exact key before a canonical number.
-/
import Switchboard.Json.Basic
import Switchboard.Number.Numeral

namespace Switchboard

namespace Path

/-- At most this many empty items are added to an array by one write. A larger index turns the array
into an object. -/
def maxPadding : Nat := 4096

/-! ### Segments -/

/-- The parts between slashes. -/
def splitSlash : List Char → List (List Char)
  | [] => [[]]
  | c :: rest =>
    if c = '/' then [] :: splitSlash rest
    else match splitSlash rest with
      | [] => [[c]]
      | part :: parts => (c :: part) :: parts

/-- Drops one leading slash. -/
def dropLeading : List Char → List Char
  | '/' :: rest => rest
  | cs => cs

/-- Drops one trailing slash. -/
def dropTrailing (cs : List Char) : List Char := (dropLeading cs.reverse).reverse

/-- The segments of a path. -/
def segments (path : String) : List String :=
  match dropTrailing (dropLeading path.toList) with
  | [] => []
  | cs => (splitSlash cs).map String.ofList

/-- Whether a path means the whole document. -/
def isRoot (path : String) : Bool := (segments path).isEmpty

/-! ### Steps -/

/-- The key that a segment means: itself if it is a key, else its canonical form if it is an
integer. -/
def objectKey (fields : List (String × Json)) (segment : String) : String :=
  if Table.has fields segment then segment
  else match Numeral.integer? segment with
    | some n => toString n
    | none => segment

/-- The part of a container that a segment leads to. -/
def child? : Json → String → Option Json
  | .object fields, segment => Table.find? fields (objectKey fields segment)
  | .array items, segment => (Numeral.index? segment).bind fun i => items[i]?
  | _, _ => none

/-- Puts a value where `child?` finds one. -/
def putChild : Json → String → Json → Json
  | .object fields, segment, value =>
    .object (Table.insert fields (objectKey fields segment) value)
  | .array items, segment, value =>
    match Numeral.index? segment with
    | some i => .array (items.set i value)
    | none => .array items
  | node, _, _ => node

/-- The fields of an array that is turned into an object. -/
def indexed (items : List Json) : List (String × Json) :=
  Table.ofList (items.zipIdx.map fun e => (toString e.2, e.1))

/-- A container that has room for the segment. -/
def reshape : Json → String → Json
  | .object fields, _ => .object fields
  | .array items, segment =>
    match Numeral.index? segment with
    | some i =>
      if i ≤ items.length + maxPadding then
        .array (items ++ List.replicate (i + 1 - items.length) .null)
      else .object (indexed items)
    | none => .object (indexed items)
  | _, _ => .object []

/-! ### Operations along segments -/

/-- The value at the end of the segments. -/
def getAt (doc : Json) : List String → Option Json
  | [] => some doc
  | s :: rest => (child? doc s).bind fun next => getAt next rest

/-- Writes `value` at the end of the segments. -/
def setAt (doc : Json) : List String → Json → Json
  | [], value => value
  | s :: rest, value =>
    let node := reshape doc s
    putChild node s (setAt ((child? node s).getD .null) rest value)

/-- Writes `value` at the end of the segments if there is a value. -/
def replaceAt? (doc : Json) : List String → Json → Option Json
  | [], value => some value
  | s :: rest, value =>
    (child? doc s).bind fun next => (replaceAt? next rest value).map (putChild doc s)

/-- Takes the value that a segment leads to out of its container. -/
def removeChild? : Json → String → Option (Json × Json)
  | .object fields, segment =>
    let key := objectKey fields segment
    (Table.find? fields key).map fun v => (v, .object (Table.erase fields key))
  | .array items, segment =>
    (Numeral.index? segment).bind fun i =>
      (items[i]?).map fun v => (v, .array (items.eraseIdx i))
  | _, _ => none

/-- Takes the value at the end of the segments out of the document. The whole document stays. -/
def removeAt? (doc : Json) : List String → Option (Json × Json)
  | [] => none
  | [s] => removeChild? doc s
  | s :: rest =>
    (child? doc s).bind fun next =>
      (removeAt? next rest).map fun r => (r.1, putChild doc s r.2)

/-! ### Operations along paths -/

/-- The value at a path. -/
def get (doc : Json) (path : String) : Option Json := getAt doc (segments path)

/-- Writes `value` at a path, creating what is missing. -/
def set (doc : Json) (path : String) (value : Json) : Json := setAt doc (segments path) value

/-- Writes `value` at a path that has a value. -/
def replace? (doc : Json) (path : String) (value : Json) : Option Json :=
  replaceAt? doc (segments path) value

/-- The value at a path and the document without it. -/
def remove? (doc : Json) (path : String) : Option (Json × Json) := removeAt? doc (segments path)

end Path

end Switchboard

/-
Reading patterns.

The grammar is that of regular expressions without look-around and back references: alternatives,
repetitions, groups with names and flags, classes in brackets with set operators, named classes, and
escapes. Flags hold from where they stand to the end of their group.

* `Pattern.parse`: the pattern of a text, or why it is none.
-/
import Switchboard.Pattern.Size
import Switchboard.Number.Numeral
import Switchboard.Unicode.Age
import Switchboard.Unicode.Newest
import Switchboard.Unicode.ScriptUse
import Switchboard.Unicode.Segmentation

namespace Switchboard

namespace Pattern

open Unicode (RangeSet)

/-- Why a text is no pattern. -/
inductive Fault
  | groupUnclosed
  | groupUnopened
  | groupNameInvalid
  | groupNameRepeated (name : String)
  | flagUnknown (c : Char)
  | flagRepeated
  | flagNegationDangling
  | lookAround
  | repetitionMissing
  | countUnclosed
  | countEmpty
  | countTooLarge
  | countInvalid
  | classUnclosed
  | classRangeInvalid
  | classItemInvalid
  | escapeUnfinished
  | escapeUnknown (c : Char)
  | backReference
  | codePointInvalid
  | wordBoundaryInvalid
  | namedClassInvalid
  | namedClassUnknown (name : String)
  | notUnicode
  | tooDeep
  | tooLarge
deriving DecidableEq, Repr

namespace Fault

def cause : Fault → String
  | groupUnclosed => "unclosed group"
  | groupUnopened => "unopened group"
  | groupNameInvalid => "invalid capture group name"
  | groupNameRepeated name => "duplicate capture group name " ++ name
  | flagUnknown c => "unrecognized flag " ++ c.toString
  | flagRepeated => "duplicate flag"
  | flagNegationDangling => "dangling flag negation operator"
  | lookAround => "look-around is not supported"
  | repetitionMissing => "repetition operator missing expression"
  | countUnclosed => "unclosed counted repetition"
  | countEmpty => "repetition quantifier expects a valid decimal"
  | countTooLarge => "decimal literal invalid"
  | countInvalid => "invalid repetition count range"
  | classUnclosed => "unclosed character class"
  | classRangeInvalid => "invalid character class range"
  | classItemInvalid => "invalid escape sequence found in character class"
  | escapeUnfinished => "incomplete escape sequence"
  | escapeUnknown c => "unrecognized escape sequence " ++ c.toString
  | backReference => "backreferences are not supported"
  | codePointInvalid => "hexadecimal literal is not a Unicode scalar value"
  | wordBoundaryInvalid => "invalid special word boundary assertion"
  | namedClassInvalid => "invalid Unicode character class"
  | namedClassUnknown name => "Unicode property not found: " ++ name
  | notUnicode => "pattern can match invalid UTF-8"
  | tooDeep => "exceeds the nesting limit"
  | tooLarge => "Compiled regex exceeds size limit of " ++ toString maxSize ++ " bytes."

/-- The message. A pattern that is too large has been read without a fault. -/
def message (f : Fault) : String :=
  if f = .tooLarge then f.cause else "regex parse error: " ++ f.cause

end Fault

/-! ### Reading along the text -/

/-- What is known at a position: flags of the current group, and the text that is left. -/
structure Flags where
  anyCase : Option Bool := none
  multiLine : Bool := false
  dotAll : Bool := false
  wide : Bool := true
  crlf : Bool := false
  /-- Whether repetitions are lazy unless a question mark follows them. -/
  lazily : Bool := false
  verbose : Bool := false

structure Position where
  rest : List Char
  flags : Flags
  names : List String

abbrev Reader := StateT Position (Except Fault)

def fail {α : Type} (f : Fault) : Reader α := fun _ => .error f

/-- The next character. -/
def peek : Reader (Option Char) := return (← get).rest.head?

/-- The character after the next one. -/
def peekSecond : Reader (Option Char) := return (← get).rest[1]?

/-- Moves on by one character. -/
def bump : Reader Unit := modify fun p => { p with rest := p.rest.drop 1 }

def isBlank (c : Char) : Bool := Unicode.whiteSpace.contains c.toNat

/-- Drops blanks, and comments up to the end of their lines. -/
def dropBlanks : Nat → List Char → List Char
  | 0, cs => cs
  | fuel + 1, cs =>
    match cs with
    | [] => []
    | c :: rest =>
      if isBlank c then dropBlanks fuel rest
      else if c = '#' then dropBlanks fuel (rest.dropWhile (· ≠ '\n'))
      else c :: rest

/-- Moves on to the next character that counts: with the verbose flag, blanks and comments do not. -/
def bumpBlanks : Reader Unit := modify fun p =>
  if p.flags.verbose then { p with rest := dropBlanks (p.rest.length + 1) p.rest } else p

/-- Moves on by one character and then to one that counts. -/
def bumpOver : Reader Unit := do
  bump
  bumpBlanks

/-- Moves over the given characters if they come next. -/
def bumpIf (text : List Char) : Reader Bool := do
  let p ← get
  if p.rest.take text.length = text then
    set { p with rest := p.rest.drop text.length }
    return true
  else return false

/-- The next character, where the text may not end. -/
def need (f : Fault) : Reader Char := do
  match ← peek with
  | some c => return c
  | none => fail f

/-- The first character that is no blank, where a first number sign does not count either. -/
def pastBlanks : Bool → List Char → Option Char
  | _, [] => none
  | inComment, c :: rest =>
    if isBlank c then pastBlanks inComment rest
    else if c = '#' && !inComment then pastBlanks true rest
    else some c

/-- A glance past the current character. With the verbose flag it goes past blanks and past the sign
that starts a comment, but not past the comment; if nothing but those is left, past none of them. -/
def peekPastBlanks : Reader (Option Char) := do
  let p ← get
  let rest := p.rest.drop 1
  return if p.flags.verbose then (pastBlanks false rest).or rest.head? else rest.head?

/-! ### Numbers and code points -/

/-- Collects the characters that satisfy `p`, skipping blanks between them. -/
def collect (p : Char → Bool) : Nat → Reader (List Char)
  | 0 => return []
  | fuel + 1 => do
    match ← peek with
    | some c =>
      if p c then
        bumpOver
        return c :: (← collect p fuel)
      else return []
    | none => return []

/-- Skips blanks whatever the flags. -/
def skipBlanks : Reader Unit := modify fun p => { p with rest := p.rest.dropWhile isBlank }

/-- The length of the text that is left, as a bound for loops. -/
def left : Reader Nat := return (← get).rest.length + 1

/-- Reads a count of a repetition. -/
def readCount : Reader Nat := do
  skipBlanks
  let digits ← collect (fun c => (Numeral.digit? c).isSome) (← left)
  skipBlanks
  if digits.isEmpty then fail .countEmpty
  match Numeral.readNat 0xffffffff (String.ofList digits) with
  | .ok n => return n
  | .error _ => fail .countTooLarge

def isHex (c : Char) : Bool := c.isDigit || ('a' ≤ c && c ≤ 'f') || ('A' ≤ c && c ≤ 'F')

/-- The code point of hexadecimal digits, if it is a character. -/
def codePoint (digits : List Char) : Reader Nat := do
  let n := digits.foldl (fun n c => n * 16 +
    if c.isDigit then c.toNat - '0'.toNat
    else if 'a' ≤ c then c.toNat - 'a'.toNat + 10 else c.toNat - 'A'.toNat + 10) 0
  if n.isValidChar then return n else fail .codePointInvalid

/-- Reads a fixed number of hexadecimal digits. -/
def readHexDigits : Nat → Reader (List Char)
  | 0 => return []
  | n + 1 => do
    let c ← need .escapeUnfinished
    if !isHex c then fail .codePointInvalid
    bumpOver
    return c :: (← readHexDigits n)

/-- Reads hexadecimal digits up to a closing brace. -/
def readHexBraced : Nat → Reader (List Char)
  | 0 => fail .escapeUnfinished
  | fuel + 1 => do
    let c ← need .escapeUnfinished
    bumpOver
    if c = '\x7d' then return []
    if !isHex c then fail .codePointInvalid
    return c :: (← readHexBraced fuel)

/-- Reads a code point after its letter, which tells how many digits it has. Two digits without
braces are those of a byte. -/
def readCodePoint (letter : Char) : Reader (Nat × Bool) := do
  bumpOver
  let c ← need .escapeUnfinished
  if c = '\x7b' then
    bumpOver
    let digits ← readHexBraced (← left)
    if digits.isEmpty then fail .codePointInvalid
    return (← codePoint digits, false)
  else
    let digits ← readHexDigits (if letter = 'x' then 2 else if letter = 'u' then 4 else 8)
    return (← codePoint digits, letter = 'x')

/-! ### Named classes -/

/-- A name in lower case without blanks, hyphens, underscores and anything beyond ASCII, and without
`is` if that is how it starts. `isc` is a name of its own. -/
def looseName (name : List Char) : String :=
  let starts := (name.take 2).map Char.toLower == ['i', 's']
  let cs := ((if starts then name.drop 2 else name).map Char.toLower).filter fun c =>
    c.toNat < 128 && c ≠ ' ' && c ≠ '_' && c ≠ '-'
  if starts && cs == ['c'] then "isc" else String.ofList cs

/-- The characters of a class given by one name: a property, a category or a script. -/
def classByName? (name : List Char) : Option RangeSet :=
  let name := looseName name
  ((Unicode.property? name).or (Unicode.category? name)).or (Unicode.script? name)

/-- The characters of a class given by a property and its value. -/
def classByValue? (property value : List Char) : Option RangeSet :=
  let value := looseName value
  match looseName property with
  | "generalcategory" | "gc" => Unicode.category? value
  | "script" | "sc" => Unicode.script? value
  | "scriptextensions" | "scx" => Unicode.usedWith? value
  | "age" => Unicode.age? value
  | "graphemeclusterbreak" | "gcb" => Unicode.graphemeBreak? value
  | "wordbreak" | "wb" => Unicode.wordBreak? value
  | "sentencebreak" | "sb" => Unicode.sentenceBreak? value
  | _ => none

/-- Splits a name at the first place where `sep` stands. -/
def cutAt (sep : List Char) : List Char → Option (List Char × List Char)
  | [] => none
  | c :: rest =>
    if sep.isPrefixOf (c :: rest) then some ([], (c :: rest).drop sep.length)
    else (cutAt sep rest).map fun r => (c :: r.1, r.2)

/-- Reads the name of a class up to a closing brace. -/
def readClassName : Nat → Reader (List Char)
  | 0 => fail .escapeUnfinished
  | fuel + 1 => do
    let c ← need .escapeUnfinished
    bumpOver
    if c = '\x7d' then return [] else return c :: (← readClassName fuel)

/-- Reads a named class after its letter. -/
def readNamedClass (negated : Bool) : Reader CharSet := do
  bumpOver
  let c ← need .escapeUnfinished
  let (name, negated, set) ← do
    if c = '\x7b' then
      bumpOver
      let name ← readClassName (← left)
      pure <| match cutAt ['!', '='] name, cutAt [':'] name, cutAt ['='] name with
        | some (property, value), _, _ => (name, !negated, classByValue? property value)
        | none, some (property, value), _ => (name, negated, classByValue? property value)
        | none, none, some (property, value) => (name, negated, classByValue? property value)
        | none, none, none => (name, negated, classByName? name)
    else if c = '\\' then fail .namedClassInvalid
    else
      bumpOver
      pure ([c], negated, classByName? [c])
  if !(← get).flags.wide then fail .notUnicode
  match set with
  | some set => return .named set negated
  | none => fail (.namedClassUnknown (String.ofList name))

/-- The classes with names of their own between brackets and colons. -/
def asciiClass? (name : String) : Option (List (Nat × Nat)) :=
  match name with
  | "alnum" => some [(0x30, 0x39), (0x41, 0x5a), (0x61, 0x7a)]
  | "alpha" => some [(0x41, 0x5a), (0x61, 0x7a)]
  | "ascii" => some [(0, 0x7f)]
  | "blank" => some [(9, 9), (0x20, 0x20)]
  | "cntrl" => some [(0, 0x1f), (0x7f, 0x7f)]
  | "digit" => some [(0x30, 0x39)]
  | "graph" => some [(0x21, 0x7e)]
  | "lower" => some [(0x61, 0x7a)]
  | "print" => some [(0x20, 0x7e)]
  | "punct" => some [(0x21, 0x2f), (0x3a, 0x40), (0x5b, 0x60), (0x7b, 0x7e)]
  | "space" => some [(9, 0xd), (0x20, 0x20)]
  | "upper" => some [(0x41, 0x5a)]
  | "word" => some [(0x30, 0x39), (0x41, 0x5a), (0x5f, 0x5f), (0x61, 0x7a)]
  | "xdigit" => some [(0x30, 0x39), (0x41, 0x46), (0x61, 0x66)]
  | _ => none

/-- Digits, blanks or word characters, by their letter. -/
def shorthand (letter : Char) (wide : Bool) : CharSet :=
  let set : RangeSet :=
    match letter.toLower, wide with
    | 'd', true => Unicode.categories ["nd"]
    | 'd', false => .parse "30-39"
    | 's', true => Unicode.whiteSpace
    | 's', false => .parse "9-D 20"
    | _, true => wordSet
    | _, false => wordSetAscii
  .shorthand set letter.isUpper

/-- Refuses a negated set where only ASCII counts: it would have members beyond. -/
def refuseNegated (negated : Bool) : Reader Unit := do
  if negated && !(← get).flags.wide then fail .notUnicode

/-! ### Escapes -/

/-- What an escape or a single character stands for. -/
inductive Primitive
  /-- A character, and whether it is written as the two digits of a byte. -/
  | literal (n : Nat) (asByte : Bool)
  | set (s : CharSet)
  | look (l : Look)
  | dot

def metaCharacters : List Char := "\\.+*?()|[]\x7b\x7d^$#&-~".toList

/-- Reads the name of a word boundary in braces. `none` if the brace starts a repetition. -/
def readBoundaryName : Reader (Option Look) := do
  let start ← get
  let wide := start.flags.wide
  let valid (c : Char) := c.isAlpha || c = '-'
  bumpOver
  let c ← need .wordBoundaryInvalid
  if !valid c then
    set start
    return none
  let name ← collect valid (← left)
  if (← peek) ≠ some '\x7d' then fail .wordBoundaryInvalid
  bump
  match String.ofList name with
  | "start" => return some (.wordStart wide)
  | "end" => return some (.wordEnd wide)
  | "start-half" => return some (.wordStartHalf wide)
  | "end-half" => return some (.wordEndHalf wide)
  | _ => fail .wordBoundaryInvalid

/-- Reads an escape from its backslash on. -/
def readEscape : Reader Primitive := do
  bump
  let c ← need .escapeUnfinished
  if c.isDigit then fail .backReference
  else if c = 'x' ∨ c = 'u' ∨ c = 'U' then
    let (n, asByte) ← readCodePoint c
    return .literal n asByte
  else if c = 'p' then return .set (← readNamedClass false)
  else if c = 'P' then return .set (← readNamedClass true)
  else if c ∈ ['d', 's', 'w', 'D', 'S', 'W'] then
    bump
    refuseNegated c.isUpper
    return .set (shorthand c (← get).flags.wide)
  else
    bump
    let plain (n : Nat) : Primitive := .literal n false
    let wide := (← get).flags.wide
    if c ∈ metaCharacters then return plain c.toNat
    else match c with
      | 'a' => return plain 7
      | 'f' => return plain 12
      | 't' => return plain 9
      | 'n' => return plain 10
      | 'r' => return plain 13
      | 'v' => return plain 11
      | 'A' => return .look .textStart
      | 'z' => return .look .textEnd
      | 'B' => return .look (.noWordBoundary wide)
      | '<' => return .look (.wordStart wide)
      | '>' => return .look (.wordEnd wide)
      | 'b' =>
        if (← peek) = some '\x7b' then
          match ← readBoundaryName with
          | some l => return .look l
          | none => return .look (.wordBoundary wide)
        else return .look (.wordBoundary wide)
      | c =>
        if c.toNat < 128 ∧ !c.isAlphanum then return plain c.toNat else fail (.escapeUnknown c)

/-! ### Classes in brackets -/

/-- Reads a class such as `[:alpha:]`, or leaves the text as it is. -/
def readAsciiClass? : Reader (Option CharSet) := do
  let start ← get
  let giveUp : Reader (Option CharSet) := do
    set start
    return none
  if !(← bumpIf ['[', ':']) then giveUp
  else
    let negated ← bumpIf ['^']
    let p ← get
    let name := p.rest.takeWhile (· ≠ ':')
    set { p with rest := p.rest.dropWhile (· ≠ ':') }
    if !(← bumpIf [':', ']']) then giveUp
    else match asciiClass? (String.ofList name) with
      | some ranges =>
        refuseNegated negated
        return some (.named (.ofRanges ranges) negated)
      | none => giveUp

/-- Reads one item of a class. -/
def readClassPrimitive : Reader Primitive := do
  let c ← need .classUnclosed
  if c = '\\' then readEscape
  else
    bump
    return .literal c.toNat false

/-- A code point in a class; without Unicode only ASCII can be written. -/
def classLiteral (n : Nat) : Reader Nat := do
  if !(← get).flags.wide && n ≥ 128 then fail .notUnicode
  return n

/-- Reads a range of a class, or a single item. -/
def readClassRange : Reader CharSet := do
  let first ← readClassPrimitive
  bumpBlanks
  let c ← need .classUnclosed
  let next ← peekPastBlanks
  if c ≠ '-' ∨ next = some ']' ∨ next = some '-' then
    match first with
    | .literal n _ =>
      let n ← classLiteral n
      return .range n n
    | .set s => return s
    | _ => fail .classItemInvalid
  else
    bumpOver
    let _ ← need .classUnclosed
    let last ← readClassPrimitive
    match first, last with
    | .literal a _, .literal b _ =>
      let a ← classLiteral a
      let b ← classLiteral b
      if b < a then fail .classRangeInvalid else return .range a b
    | .look _, _ | _, .look _ => fail .classItemInvalid
    | _, _ => fail .classRangeInvalid

/-- The set of the items read so far, the last one first. -/
def unionOf : List CharSet → CharSet
  | [s] => s
  | items => .union items.reverse

/-- Applies the pending operator, if there is one. -/
def withPending (pending : Option (SetOp × CharSet)) (right : CharSet) : CharSet :=
  match pending with
  | some (op, left) => .combine op left right
  | none => right

mutual

/-- Reads a class after its opening bracket: negation, and the characters that are literal only in
front. -/
def readClass : Nat → Reader CharSet
  | 0 => fail .tooDeep
  | fuel + 1 => do
    bumpBlanks
    let c ← need .classUnclosed
    let negated := c = '^'
    refuseNegated negated
    if negated then
      bumpOver
      let _ ← need .classUnclosed
    let hyphens ← collect (· = '-') (← left)
    let c ← need .classUnclosed
    let items := hyphens.map fun _ => CharSet.range 0x2d 0x2d
    if items.isEmpty ∧ c = ']' then
      bumpOver
      let _ ← need .classUnclosed
      return .bracket negated (← readClassItems fuel none [.range 0x5d 0x5d])
    else return .bracket negated (← readClassItems fuel none items)

/-- Reads the items of a class up to its closing bracket. -/
def readClassItems : Nat → Option (SetOp × CharSet) → List CharSet → Reader CharSet
  | 0, _, _ => fail .tooDeep
  | fuel + 1, pending, items => do
    bumpBlanks
    let c ← need .classUnclosed
    let second ← peekSecond
    let operator (op : SetOp) : Reader CharSet := do
      bump
      bump
      readClassItems fuel (some (op, withPending pending (unionOf items))) []
    if c = '[' then
      match ← readAsciiClass? with
      | some s => readClassItems fuel pending (s :: items)
      | none =>
        bump
        let s ← readClass fuel
        readClassItems fuel pending (s :: items)
    else if c = ']' then
      bump
      return withPending pending (unionOf items)
    else if c = '&' ∧ second = some '&' then operator .intersection
    else if c = '-' ∧ second = some '-' then operator .difference
    else if c = '~' ∧ second = some '~' then operator .symmetricDifference
    else
      let s ← readClassRange
      readClassItems fuel pending (s :: items)

end

/-! ### Groups and flags -/

/-- Reads the flags of a group up to the colon or the closing parenthesis. -/
def readFlags : Nat → Bool → List Char → Flags → Reader (Flags × Bool)
  | 0, _, _, _ => fail .groupUnclosed
  | fuel + 1, on, seen, flags => do
    let c ← need .groupUnclosed
    if c = ':' ∨ c = ')' then
      if seen.head? = some '-' then fail .flagNegationDangling
      return (flags, !seen.isEmpty)
    if c ∈ seen then fail .flagRepeated
    bump
    match c with
    | '-' => readFlags fuel false (c :: seen) flags
    | 'i' => readFlags fuel on (c :: seen) { flags with anyCase := some on }
    | 'm' => readFlags fuel on (c :: seen) { flags with multiLine := on }
    | 's' => readFlags fuel on (c :: seen) { flags with dotAll := on }
    | 'u' => readFlags fuel on (c :: seen) { flags with wide := on }
    | 'R' => readFlags fuel on (c :: seen) { flags with crlf := on }
    | 'x' => readFlags fuel on (c :: seen) { flags with verbose := on }
    | 'U' => readFlags fuel on (c :: seen) { flags with lazily := on }
    | c => fail (.flagUnknown c)

def isNameStart (c : Char) : Bool := c = '_' || Unicode.Newest.alphabetic.contains c.toNat

def isNamePart (c : Char) : Bool :=
  isNameStart c || c = '.' || c = '[' || c = ']' || Unicode.Newest.numeric.contains c.toNat

/-- Reads the name of a group up to its closing angle bracket. -/
def readGroupName : Reader Unit := do
  let p ← get
  let name := p.rest.takeWhile (· ≠ '>')
  let rest := p.rest.drop name.length
  match name, rest with
  | c :: cs, _ :: rest =>
    if !isNameStart c || cs.any (!isNamePart ·) then fail .groupNameInvalid
    let text := String.ofList name
    if text ∈ p.names then fail (.groupNameRepeated text)
    set { p with rest, names := text :: p.names }
  | _, _ => fail .groupNameInvalid

/-- How a group starts. -/
inductive Opening
  | group (captures : Bool)
  | flagsOnly

/-- Reads what follows the opening parenthesis of a group, and sets its flags. -/
def readOpening : Reader Opening := do
  bumpBlanks
  for text in [['?', '='], ['?', '!'], ['?', '<', '='], ['?', '<', '!']] do
    if ← bumpIf text then fail .lookAround
  if ← bumpIf ['?', 'P', '<'] then
    readGroupName
    return .group true
  else if ← bumpIf ['?', '<'] then
    readGroupName
    return .group true
  else if ← bumpIf ['?'] then
    let (flags, some?) ← readFlags (← left) true [] (← get).flags
    let c ← need .groupUnclosed
    bump
    if c = ')' ∧ !some? then fail .repetitionMissing
    modify fun p => { p with flags }
    return if c = ')' then .flagsOnly else .group false
  else return .group true

/-! ### Nodes -/

/-- The node of an escape or of a single character, under the flags in force. Where only ASCII counts
a byte beyond it is no character, and a dot would match one. -/
def nodeOf (p : Primitive) : Reader Node := do
  let flags := (← get).flags
  match p with
  | .literal n asByte =>
    if !flags.wide && asByte && n ≥ 128 then fail .notUnicode
    return .literal n flags.anyCase flags.wide
  | .set s => return .chars s flags.anyCase flags.wide
  | .look l => return .look l
  | .dot =>
    if !flags.wide then fail .notUnicode
    return .any flags.dotAll flags.crlf

/-- What was read of a sequence: nodes, and flags, which nothing can repeat. The last comes
first. -/
def concatOf (items : List (Option Node)) : Node :=
  match items.reverse.filterMap id, items.length with
  | [n], 1 => n
  | [], 0 | [], 1 => .empty
  | nodes, _ => .concat nodes

/-- Takes the node that a repetition applies to. -/
def operand : List (Option Node) → Reader (Node × List (Option Node))
  | some .empty :: _ | none :: _ | [] => fail .repetitionMissing
  | some n :: rest => return (n, rest)

/-- Reads the question mark after a repetition and tells whether that is lazy. -/
def readLazily : Reader Bool := do
  let marked ← bumpIf ['?']
  return marked != (← get).flags.lazily

/-- Reads a count in braces, from the opening brace on. -/
def readRange : Reader (Nat × Option Nat) := do
  bumpOver
  let _ ← need .countUnclosed
  let least ← readCount
  let c ← need .countUnclosed
  let most ← do
    if c = ',' then
      bumpOver
      let c ← need .countUnclosed
      if c = '\x7d' then pure none else pure (some (← readCount))
    else pure (some least)
  let c ← need .countUnclosed
  if c ≠ '\x7d' then fail .countUnclosed
  bumpOver
  if most.any (· < least) then fail .countInvalid
  return (least, most)

/-- Reads a pattern up to the end of its group. `done` holds the alternatives before the current
one, and `items` the nodes of the current one, the last first. -/
def readNodes : Nat → List Node → List (Option Node) → Reader Node
  | 0, _, _ => fail .tooDeep
  | fuel + 1, done, items => do
    bumpBlanks
    let close : Node :=
      match done with
      | [] => concatOf items
      | done => .alternatives (concatOf items :: done).reverse
    let repetition (least : Nat) (most : Option Nat) : Reader Node := do
      let (n, rest) ← operand items
      bump
      readNodes fuel done (some (.repeated n (← readLazily) least most) :: rest)
    match ← peek with
    | none => return close
    | some ')' => return close
    | some '(' =>
      bump
      let outer := (← get).flags
      match ← readOpening with
      | .flagsOnly => readNodes fuel done (none :: items)
      | .group captures =>
        let inner ← readNodes fuel [] []
        if (← peek) ≠ some ')' then fail .groupUnclosed
        bump
        modify fun p => { p with flags := outer }
        readNodes fuel done (some (.group captures inner) :: items)
    | some '|' =>
      bump
      readNodes fuel (concatOf items :: done) []
    | some '[' =>
      bump
      let s ← readClass fuel
      readNodes fuel done (some (← nodeOf (.set s)) :: items)
    | some '?' => repetition 0 (some 1)
    | some '*' => repetition 0 none
    | some '+' => repetition 1 none
    | some '\x7b' =>
      let (n, rest) ← operand items
      let (least, most) ← readRange
      readNodes fuel done (some (.repeated n (← readLazily) least most) :: rest)
    | some '\\' =>
      let p ← readEscape
      readNodes fuel done (some (← nodeOf p) :: items)
    | some '.' =>
      bump
      readNodes fuel done (some (← nodeOf .dot) :: items)
    | some '^' =>
      bump
      let flags := (← get).flags
      let l := if flags.multiLine then Look.lineStart flags.crlf else .textStart
      readNodes fuel done (some (← nodeOf (.look l)) :: items)
    | some '$' =>
      bump
      let flags := (← get).flags
      let l := if flags.multiLine then Look.lineEnd flags.crlf else .textEnd
      readNodes fuel done (some (← nodeOf (.look l)) :: items)
    | some c =>
      bump
      readNodes fuel done (some (← nodeOf (.literal c.toNat false)) :: items)

/-- Patterns may nest this deep. -/
def maxDepth : Nat := 250

/-- The pattern of a text. -/
def parse (text : String) : Except Fault Node :=
  let start : Position := ⟨text.toList, {}, []⟩
  match (readNodes (2 * text.length + 2) [] []).run start with
  | .error f => .error f
  | .ok (node, p) =>
    if !p.rest.isEmpty then .error .groupUnopened
    else if maxDepth < node.depth then .error .tooDeep
    else .ok node

end Pattern

end Switchboard

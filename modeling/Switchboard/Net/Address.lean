/-
Socket addresses: an IPv4 or IPv6 address with a port.

Reading follows a fixed grammar (no names, no blanks, no leading zeros in a dotted quad, at most four
hexadecimal digits in a group). Writing gives the canonical form: lower case, and the longest run of at
least two zero groups as a double colon.
-/
import Switchboard.Number.Numeral

namespace Switchboard

/-- An address of a host. -/
inductive IpAddress
  | v4 (octets : List Nat)
  | v6 (groups : List Nat)
deriving DecidableEq, Repr

/-- An address of a host, the number of a scope for IPv6, and a port. -/
structure SocketAddress where
  ip : IpAddress
  scope : Nat
  port : Nat
deriving DecidableEq, Repr

namespace Address

/-! ### Reading -/

/-- The value of a digit in a radix of at most sixteen. -/
def digit? (radix : Nat) (c : Char) : Option Nat :=
  let v :=
    if '0' ≤ c ∧ c ≤ '9' then some (c.toNat - '0'.toNat)
    else if 'a' ≤ c ∧ c ≤ 'f' then some (c.toNat - 'a'.toNat + 10)
    else if 'A' ≤ c ∧ c ≤ 'F' then some (c.toNat - 'A'.toNat + 10)
    else none
  v.filter (· < radix)

/-- Reads a number that is at most `limit` and has at most `width` digits. -/
def readNumber (radix limit : Nat) (width : Option Nat) (leadingZero : Bool) (cs : List Char) :
    Option (Nat × List Char) :=
  let digits := cs.takeWhile fun c => (digit? radix c).isSome
  let value := digits.foldl (fun n c => n * radix + (digit? radix c).getD 0) 0
  if digits.isEmpty then none
  else if width.any (· < digits.length) then none
  else if !leadingZero && digits.length > 1 && digits.head? == some '0' then none
  else if limit < value then none
  else some (value, cs.drop digits.length)

/-- Reads the given character. -/
def readChar (c : Char) : List Char → Option (List Char)
  | [] => none
  | d :: rest => if c = d then some rest else none

/-- Reads `n` octets with points between them. -/
def readOctets : Nat → Bool → List Char → Option (List Nat × List Char)
  | 0, _, cs => some ([], cs)
  | n + 1, first, cs => do
    let cs ← if first then some cs else readChar '.' cs
    let (octet, cs) ← readNumber 10 255 (some 3) false cs
    let (octets, cs) ← readOctets n false cs
    return (octet :: octets, cs)

/-- Reads up to `n` groups with colons between them. The last two may be written as a dotted quad;
the flag says whether they are. -/
def readGroups : Nat → Bool → List Char → List Nat × Bool × List Char
  | 0, _, cs => ([], false, cs)
  | n + 1, first, cs =>
    match if first then some cs else readChar ':' cs with
    | none => ([], false, cs)
    | some body =>
      match if n = 0 then none else readOctets 4 true body with
      | some ([a, b, c, d], rest) => ([a * 256 + b, c * 256 + d], true, rest)
      | _ =>
        match readNumber 16 65535 (some 4) true body with
        | none => ([], false, cs)
        | some (group, rest) =>
          let (groups, quad, rest) := readGroups n false rest
          (group :: groups, quad, rest)

/-- Reads eight groups, or fewer around one double colon. -/
def readV6 (cs : List Char) : Option (List Nat × List Char) :=
  let (head, quad, rest) := readGroups 8 true cs
  if head.length = 8 then some (head, rest)
  else if quad then none
  else do
    let rest ← readChar ':' rest
    let rest ← readChar ':' rest
    let (tail, _, rest) := readGroups (7 - head.length) true rest
    return (head ++ List.replicate (8 - head.length - tail.length) 0 ++ tail, rest)

/-- Reads a colon and a port. -/
def readPort (cs : List Char) : Option (Nat × List Char) := do
  let cs ← readChar ':' cs
  readNumber 10 65535 none true cs

/-- The address that a text stands for. -/
def parse? (s : String) : Option SocketAddress :=
  let v4 : Option SocketAddress := do
    let (octets, rest) ← readOctets 4 true s.toList
    let (port, rest) ← readPort rest
    if rest.isEmpty then some ⟨.v4 octets, 0, port⟩ else none
  let v6 : Option SocketAddress := do
    let rest ← readChar '[' s.toList
    let (groups, rest) ← readV6 rest
    -- a percent sign that no number follows is left to be refused
    let (scope, rest) := ((readChar '%' rest).bind (readNumber 10 0xffffffff none true)).getD
      (0, rest)
    let rest ← readChar ']' rest
    let (port, rest) ← readPort rest
    if rest.isEmpty then some ⟨.v6 groups, scope, port⟩ else none
  v4.or v6

/-- What is said of a text that is no address. -/
def faultMessage : String := "invalid socket address syntax"

/-! ### Writing -/

def hex (n : Nat) : String := String.ofList (Nat.toDigits 16 n)

/-- The first longest run of zeros from position `at` on, as its start and its length. -/
def zeroRun : List Nat → Nat → Nat × Nat
  | [], _ => (0, 0)
  | g :: rest, position =>
    let here := ((g :: rest).takeWhile (· = 0)).length
    let later := zeroRun rest (position + 1)
    if later.2 ≤ here then (position, here) else later

def renderOctets (octets : List Nat) : String := ".".intercalate (octets.map toString)

def renderGroups (groups : List Nat) : String := ":".intercalate (groups.map hex)

end Address

namespace IpAddress

/-- The canonical text. An IPv4 address inside IPv6 keeps its dotted quad. -/
def render : IpAddress → String
  | v4 octets => Address.renderOctets octets
  | v6 [0, 0, 0, 0, 0, 0xffff, a, b] =>
    "::ffff:" ++ Address.renderOctets [a / 256, a % 256, b / 256, b % 256]
  | v6 groups =>
    let (start, length) := Address.zeroRun groups 0
    if length > 1 then
      Address.renderGroups (groups.take start) ++ "::"
        ++ Address.renderGroups (groups.drop (start + length))
    else Address.renderGroups groups

end IpAddress

namespace SocketAddress

/-- The canonical text, with IPv6 in brackets and a scope only if it is not zero. -/
def render (a : SocketAddress) : String :=
  match a.ip with
  | .v4 _ => a.ip.render ++ ":" ++ toString a.port
  | .v6 _ =>
    let scope := if a.scope = 0 then "" else "%" ++ toString a.scope
    "[" ++ a.ip.render ++ scope ++ "]:" ++ toString a.port

end SocketAddress

end Switchboard

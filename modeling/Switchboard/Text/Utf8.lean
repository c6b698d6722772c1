/-
Texts as bytes.

* `encode`: the bytes of a text;
* `decode?`: the text of well-formed bytes;
* `decodeLossy`: the text of any bytes, with a replacement character for every part that is not
  well formed.
-/

namespace Switchboard

namespace Utf8

/-- The bytes of a text. -/
def encode (s : String) : List UInt8 := s.toUTF8.toList

/-- How many bytes follow a first byte, and the range of the second one. `none` if no character
starts with that byte. -/
def lead (b : UInt8) : Option (Nat × UInt8 × UInt8) :=
  if b < 0x80 then some (0, 0, 0)
  else if b < 0xC2 then none
  else if b < 0xE0 then some (1, 0x80, 0xBF)
  else if b = 0xE0 then some (2, 0xA0, 0xBF)
  else if b = 0xED then some (2, 0x80, 0x9F)
  else if b < 0xF0 then some (2, 0x80, 0xBF)
  else if b = 0xF0 then some (3, 0x90, 0xBF)
  else if b < 0xF4 then some (3, 0x80, 0xBF)
  else if b = 0xF4 then some (3, 0x80, 0x8F)
  else none

/-- Takes `n` further bytes of a character, the first of them between `lo` and `hi`. Gives the bytes
that fit. -/
def follow : Nat → UInt8 → UInt8 → List UInt8 → List UInt8
  | 0, _, _, _ => []
  | _, _, _, [] => []
  | n + 1, lo, hi, b :: rest => if lo ≤ b ∧ b ≤ hi then b :: follow n 0x80 0xBF rest else []

/-- The first character, or `none` if the bytes do not start with one, and the number of further
bytes that belong to it. -/
def first (b : UInt8) (rest : List UInt8) : Option Char × Nat :=
  match lead b with
  | none => (none, 0)
  | some (n, lo, hi) =>
    let more := follow n lo hi rest
    if more.length < n then (none, more.length)
    else
      let head : Nat := match n with
        | 0 => b.toNat
        | 1 => b.toNat % 0x20
        | 2 => b.toNat % 0x10
        | _ => b.toNat % 0x08
      (some (Char.ofNat (more.foldl (fun v x => v * 64 + x.toNat % 64) head)), n)

/-- The characters of the bytes; `none` marks a part that is not well formed. -/
def chars : List UInt8 → List (Option Char)
  | [] => []
  | b :: rest =>
    let (c, n) := first b rest
    c :: chars (rest.drop n)
termination_by bs => bs.length
decreasing_by simp only [List.length_drop, List.length_cons]; omega

/-- The text of well-formed bytes. -/
def decode? (bytes : List UInt8) : Option String :=
  ((chars bytes).mapM id).map String.ofList

/-- The text of any bytes. -/
def decodeLossy (bytes : List UInt8) : String :=
  String.ofList ((chars bytes).map fun c => c.getD '\uFFFD')

end Utf8

end Switchboard

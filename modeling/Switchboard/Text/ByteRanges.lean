/-
Ranges of characters as they look in UTF-8.

The characters of a range are those whose bytes lie, place by place, in one of a few sequences of
ranges of bytes. The sequences are as few as they can be if each stands for neighbouring characters,
and they come in order.

* `ByteRanges.ofRange`: the sequences of a range of characters.
-/

namespace Switchboard

/-- The bytes from one to another, both included. -/
abbrev ByteRange := Nat × Nat

/-- A range for each byte of a character. -/
abbrev ByteRanges := List ByteRange

namespace ByteRanges

/-- A byte that is not the first of its character, without its six low bits. -/
def tail : Nat := 0x80

/-- The numbers that `n` bytes after the first one can tell apart. -/
def span (n : Nat) : Nat := Nat.pow 64 n

/-- Any bytes after the first one. -/
def anyTail (n : Nat) : ByteRanges := List.replicate n (tail, tail + 0x3f)

/-- The numbers from `first` to `last` in base 64, each of `n + 1` digits of which the highest may be
larger and is added to `lead`. Where the highest digits differ, the sequences are those of an
incomplete block in front, of the complete blocks, and of an incomplete block at the end. -/
def digits (lead : Nat) : Nat → Nat → Nat → List ByteRanges
  | 0, first, last => [[(lead + first, lead + last)]]
  | n + 1, first, last =>
    let w := span (n + 1)
    let a := first / w
    let b := last / w
    let inside (d first last : Nat) := (digits tail n first last).map ((lead + d, lead + d) :: ·)
    if a = b then inside a (first % w) (last % w)
    else
      let front := if first % w = 0 then [] else inside a (first % w) (w - 1)
      let back := if last % w = w - 1 then [] else inside b 0 (last % w)
      let a := if front.isEmpty then a else a + 1
      let b := if back.isEmpty then b + 1 else b
      let middle := if a < b then [(lead + a, lead + b - 1) :: anyTail (n + 1)] else []
      front ++ middle ++ back

/-- The characters of each length in bytes: the first one, the last one, the byte to which their
highest digit is added, and the number of bytes after that one. -/
def lengths : List (Nat × Nat × Nat × Nat) :=
  [(0, 0x7f, 0, 0), (0x80, 0x7ff, 0xc0, 1), (0x800, 0xffff, 0xe0, 2), (0x10000, 0x10ffff, 0xf0, 3)]

/-- The sequences of the characters from `first` to `last`. -/
def ofRange (first last : Nat) : List ByteRanges :=
  lengths.flatMap fun (lo, hi, lead, n) =>
    if max first lo ≤ min last hi then digits lead n (max first lo) (min last hi) else []

end ByteRanges

end Switchboard

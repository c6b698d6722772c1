/-
Numbers by keys, as far as they are remembered.

A table has a fixed number of slots, and a key belongs to one of them. A number that is stored takes
its key's slot, whatever was in there, so a table stays small and may forget. Who finds nothing in it
has to make a new number.

* `SlotTable.find?`, `SlotTable.insert`: looking up and storing;
* `SlotTable.find?_insert_self`: what was stored last is there.
-/
import Std.Data.HashMap

namespace Switchboard

/-- A table that holds at most one key for each of its slots. -/
structure SlotTable where
  slots : Nat
  held : Std.HashMap Nat (List Nat × Nat)

namespace SlotTable

/-- A table that holds nothing. -/
def empty (slots : Nat) : SlotTable := ⟨slots, ∅⟩

/-- Takes a number into the hash of those before it. -/
def mix (h : UInt64) (n : Nat) : UInt64 := (h ^^^ UInt64.ofNat n) * 0x100000001b3

/-- The hash of a key, number by number. -/
def hash (key : List Nat) : UInt64 := key.foldl mix 0xcbf29ce484222325

/-- The slot of a key. -/
def slot (t : SlotTable) (key : List Nat) : Nat := (hash key).toNat % t.slots

/-- The number of a key, unless the slot is free or holds another key. -/
def find? (t : SlotTable) (key : List Nat) : Option Nat :=
  match t.held[t.slot key]? with
  | some (k, n) => if k = key then some n else none
  | none => none

/-- Stores a number; it drives out what its slot held. -/
def insert (t : SlotTable) (key : List Nat) (n : Nat) : SlotTable :=
  { t with held := t.held.insert (t.slot key) (key, n) }

theorem slot_insert (t : SlotTable) (key k : List Nat) (n : Nat) :
    (t.insert key n).slot k = t.slot k := rfl

theorem find?_insert_self (t : SlotTable) (key : List Nat) (n : Nat) :
    (t.insert key n).find? key = some n := by
  rw [find?, slot_insert]
  simp [insert]

end SlotTable

end Switchboard

/-
Byte streams between the proxy and somebody else.

The proxy holds the near end and the other side the far end. Bytes arrive in the order in which they
were written. An end that is closed gives the other end an end of file behind the bytes that are
still under way, and writing to an end that is gone fails. Reading and writing on the near end can
also be made to fail.

* `Duplex.read`, `write`, `shutdown`, `drop`: the near end;
* `Duplex.send`, `receive`, `shutdownFar`, `dropFar`: the far end;
* `Duplex.echo`: a far end that gives back what it receives.
-/
import Switchboard.Cluster.Instance

namespace Switchboard

/-- A stream. -/
structure Duplex where
  /-- Bytes that the far end has written and the near end has not read. -/
  inbound : List UInt8
  /-- Bytes that the near end has written and the far end has not read. -/
  outbound : List UInt8
  /-- Whether the near end writes no more. -/
  nearClosed : Bool
  /-- Whether the near end is gone. -/
  nearGone : Bool
  farClosed : Bool
  farGone : Bool
  /-- With what text reading fails on the near end. -/
  readFault : Option String
  /-- With what text writing fails on the near end. -/
  writeFault : Option String
  /-- Whether the far end gives back what it receives. -/
  echoes : Bool
deriving DecidableEq, Repr

namespace Duplex

/-- A stream with two open ends. -/
def fresh : Duplex := ⟨[], [], false, false, false, false, none, none, false⟩

/-- A stream to a far end that gives back what it receives. -/
def echoing : Duplex := { fresh with echoes := true }

/-- How many bytes are read at once. -/
def chunkSize : Nat := 8192

/-! ### The near end -/

/-- What reading comes to. -/
inductive Read
  /-- There is nothing yet. -/
  | pending
  | chunk (bytes : List UInt8)
  | endOfFile
  | failed (reason : String)
deriving DecidableEq, Repr

/-- Reads what is there, up to the size of a chunk. -/
def read (s : Duplex) : Read × Duplex :=
  match s.readFault with
  | some reason => (.failed reason, s)
  | none =>
    if s.inbound.isEmpty then (if s.farClosed then .endOfFile else .pending, s)
    else (.chunk (s.inbound.take chunkSize), { s with inbound := s.inbound.drop chunkSize })

/-- Writes all bytes or none. -/
def write (s : Duplex) (bytes : List UInt8) : Except String Duplex :=
  match s.writeFault with
  | some reason => .error reason
  | none =>
    if s.nearClosed || s.farGone then .error IoFault.brokenPipe.message
    else .ok { s with outbound := s.outbound ++ bytes }

/-- Ends writing. -/
def shutdown (s : Duplex) : Except String Duplex :=
  match s.writeFault with
  | some reason => .error reason
  | none => .ok { s with nearClosed := true }

/-- Lets go of the near end. -/
def drop (s : Duplex) : Duplex := { s with nearClosed := true, nearGone := true }

/-! ### The far end -/

/-- Writes on the far end. -/
def send (s : Duplex) (bytes : List UInt8) : Except IoFault Duplex :=
  if s.nearGone || s.farClosed then .error .brokenPipe
  else .ok { s with inbound := s.inbound ++ bytes }

/-- Everything that can be read on the far end, and whether there will be nothing more. -/
def receive (s : Duplex) : (List UInt8 × Bool) × Duplex :=
  ((s.outbound, s.nearClosed), { s with outbound := [] })

/-- Ends writing on the far end. -/
def shutdownFar (s : Duplex) : Duplex := { s with farClosed := true }

/-- Lets go of the far end. -/
def dropFar (s : Duplex) : Duplex := { s with farClosed := true, farGone := true }

/-- What a far end does that gives back what it receives; `none` if there is nothing to do. It lets
go when the near end writes no more. -/
def echo (s : Duplex) : Option Duplex :=
  if !s.echoes || s.farGone then none
  else if !s.outbound.isEmpty then
    some { s with inbound := s.inbound ++ s.outbound, outbound := [] }
  else if s.nearClosed then some s.dropFar
  else none

end Duplex

end Switchboard

/-
Forwarding between a source and a destination.

Bytes go both ways, a chunk at a time. When the source ends, the destination is told so and may go on
answering for a while; then the pipe ends on the source's side, however the rest went. Any other end or
fault of a side ends the pipe on that side.

* `Pipe.step`: the next thing that happens in a pipe, if there is one.
-/
import Switchboard.Stream.Duplex

namespace Switchboard

namespace Pipe

/-- The side on which a pipe ended, and why. -/
inductive End
  | source (reason : String)
  | destination (reason : String)
deriving DecidableEq, Repr

/-- How long the destination may go on answering, in milliseconds. -/
def drainTime : Nat := 30000

/-- How a pipe ends when its source has ended. -/
def sourceEnd : End := .source "source closed"

end Pipe

/-- A pipe with the streams at its ends. -/
structure Pipe where
  source : Duplex
  destination : Duplex
  /-- Whether the source has ended. -/
  draining : Bool
  /-- Bytes forwarded to the destination. -/
  bytesIn : Nat
  /-- Bytes forwarded to the source. -/
  bytesOut : Nat
deriving DecidableEq, Repr

namespace Pipe

/-- What comes of a step. -/
inductive Progress
  /-- Nothing happens until a side does something. -/
  | idle
  | on (pipe : Pipe)
  | over (e : End) (pipe : Pipe)
deriving Repr

/-- A step from the source to the destination. -/
def stepIn (p : Pipe) : Progress :=
  match p.source.read with
  | (.pending, _) => .idle
  | (.failed reason, _) => .over (.source ("source read failed: " ++ reason)) p
  | (.endOfFile, _) =>
    match p.destination.shutdown with
    | .error reason => .over (.destination ("destination write failed: " ++ reason)) p
    | .ok destination => .on { p with destination, draining := true }
  | (.chunk bytes, source) =>
    let p := { p with source }
    match p.destination.write bytes with
    | .error reason => .over (.destination ("destination write failed: " ++ reason)) p
    | .ok destination => .on { p with destination, bytesIn := p.bytesIn + bytes.length }

/-- A step from the destination to the source. -/
def stepOut (p : Pipe) : Progress :=
  match p.destination.read with
  | (.pending, _) => .idle
  | (.failed reason, _) => .over (.destination ("destination read failed: " ++ reason)) p
  | (.endOfFile, _) => .over (.destination "destination closed") p
  | (.chunk bytes, destination) =>
    let p := { p with destination }
    match p.source.write bytes with
    | .error reason => .over (.source ("source write failed: " ++ reason)) p
    | .ok source => .on { p with source, bytesOut := p.bytesOut + bytes.length }

/-- The next step. -/
def step (p : Pipe) : Progress :=
  if p.draining then
    match p.stepOut with
    | .over _ p => .over sourceEnd p
    | progress => progress
  else
    match p.stepIn with
    | .idle => p.stepOut
    | progress => progress

end Pipe

end Switchboard

/-
The endpoints of a TCP cluster: which are tried, in which order, and what is remembered of them.

Endpoints whose last connect failed are passed over as long as there are others. Each call starts one
place further on. What a call leaves behind depends only on which connects failed.

* `Endpoints.candidates`: the addresses that the next call tries, in order;
* `Endpoints.tryAll`: one call, given the results of the connects;
* `Endpoints.mark`: what the result of one connect changes.
-/

namespace Switchboard

/-- What is known of an endpoint from its last connect. -/
inductive Health
  | unknown
  | healthy
  | unhealthy
deriving DecidableEq, Repr

def Health.text : Health → String
  | unknown => "unknown"
  | healthy => "healthy"
  | unhealthy => "unhealthy"

/-- An endpoint and what is remembered of it. -/
structure Endpoint where
  address : String
  health : Health
  /-- The length of the run of failures up to now, modulo `2 ^ 32`. -/
  failures : Nat
  /-- When a connect last failed. -/
  lastFailure : Option Nat
deriving DecidableEq, Repr

namespace Endpoint

/-- An endpoint that was never tried. -/
def fresh (address : String) : Endpoint := ⟨address, .unknown, 0, none⟩

def eligible (e : Endpoint) : Bool := e.health ≠ .unhealthy

/-- The endpoint after a connect at the time `now`. -/
def marked (e : Endpoint) (success : Bool) (now : Nat) : Endpoint :=
  if success then { e with health := .healthy, failures := 0 }
  else
    { e with
      health := .unhealthy
      failures := (e.failures + 1) % UInt32.size
      lastFailure := some now }

end Endpoint

/-- The endpoints of a cluster in the order of its definition, and its counters. The counts of calls
have no limit, as they never come to `2 ^ 64`. -/
structure Endpoints where
  list : List Endpoint
  /-- How many calls there were that had an endpoint to try, modulo `2 ^ 64`. -/
  turn : Nat
  attempted : Nat
  succeeded : Nat
deriving DecidableEq, Repr

namespace Endpoints

def fresh (addresses : List String) : Endpoints := ⟨addresses.map .fresh, 0, 0, 0⟩

/-- The addresses that may be tried: those of eligible endpoints, or all if there are none. -/
def pool (es : Endpoints) : List String :=
  match es.list.filter Endpoint.eligible with
  | [] => es.list.map Endpoint.address
  | some_ => some_.map Endpoint.address

/-- The addresses that the next call tries, in order. -/
def candidates (es : Endpoints) : List String :=
  es.pool.rotateLeft (es.turn % es.pool.length)

/-- Notes the result of a connect with the first endpoint of that address. -/
def mark (address : String) (success : Bool) (now : Nat) : List Endpoint → List Endpoint
  | [] => []
  | e :: rest =>
    if e.address = address then e.marked success now :: rest
    else e :: mark address success now rest

/-- Tries addresses up to the first that accepts. Gives its connection, or the last error. -/
def tryAll {σ ε : Type} (dial : String → Except ε σ) (now : Nat) :
    List String → Option ε → List Endpoint → Except (Option ε) σ × List Endpoint
  | [], last, list => (.error last, list)
  | address :: rest, _, list =>
    match dial address with
    | .ok connection => (.ok connection, mark address true now list)
    | .error e => tryAll dial now rest (some e) (mark address false now list)

/-- One call. The error is `none` if there is no endpoint at all. -/
def connect {σ ε : Type} (dial : String → Except ε σ) (now : Nat) (es : Endpoints) :
    Except (Option ε) σ × Endpoints :=
  let candidates := es.candidates
  let (result, list) := tryAll dial now candidates none es.list
  (result,
    { list
      turn := if candidates.isEmpty then es.turn else (es.turn + 1) % 0x10000000000000000
      attempted := es.attempted + 1
      succeeded := if result.isOk then es.succeeded + 1 else es.succeeded })

end Endpoints

end Switchboard

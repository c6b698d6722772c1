/-
Forwarding in detail.

A pipe runs two copy loops side by side. Each of them reads a chunk, writes it in as many parts as it
takes, flushes it, counts it and reads again; when there is nothing more to read, it may end writing
before it is over. Any of this may fail, and how far one loop is says nothing about the other. What
`Pipe.step` does at once is some of these moves in a row.

* `Duplex.Passes`: what the near end has read from a stream and written to it;
* `Copy`: how far a loop is, and what has gone through it;
* `Half.step`: a move of a loop; `carries_step` says what it does to the bytes;
* `Span.step`: a move of one of the loops of a pipe;
* `refines_step`: a step of a pipe is a list of moves.
-/
import Switchboard.Proofs.Proxy.Streams
import Switchboard.Stream.Pipe

namespace Switchboard

/-! ### Reading and writing -/

namespace Duplex

/-- Between `s` and `t` the near end has read `read` and written `written`. Otherwise no bytes have
come or gone. -/
structure Passes (s : Duplex) (read written : List UInt8) (t : Duplex) : Prop where
  inbound : s.inbound = read ++ t.inbound
  outbound : t.outbound = s.outbound ++ written
  closed : s.farClosed = true → t.farClosed = true
  lasts : s.Lasts t

/-- There is nothing left to read, and nothing more will come. -/
def Drained (s : Duplex) : Prop := s.inbound = [] ∧ s.farClosed = true

variable {s t : Duplex} {bytes : List UInt8}

theorem Passes.refl (s : Duplex) : s.Passes [] [] s :=
  ⟨rfl, (List.append_nil _).symm, id, s.lasts_refl⟩

theorem Stays.passes (h : s.Stays t) : s.Passes [] [] t :=
  ⟨h.inbound.symm, by rw [h.outbound, List.append_nil], h.closed, h.gone⟩

/-- What is read may be less than could be read. -/
theorem Passes.unread {written : List UInt8} (h : s.Passes bytes written t) (n : Nat) :
    s.Passes (bytes.take n) written { t with inbound := bytes.drop n ++ t.inbound } where
  inbound := by rw [h.inbound, ← List.append_assoc, List.take_append_drop]
  outbound := h.outbound
  closed := h.closed
  lasts := h.lasts

theorem Passes.drained {read written : List UInt8} (h : s.Passes read written t)
    (hs : s.Drained) : t.Drained := by
  have hboth : read ++ t.inbound = [] := h.inbound.symm.trans hs.1
  exact ⟨(List.append_eq_nil_iff.mp hboth).2, h.closed hs.2⟩

theorem passes_read (h : s.read = (.chunk bytes, t)) :
    s.Passes bytes [] t ∧ bytes ≠ [] ∧ bytes.length ≤ chunkSize := by
  have hlasts := s.lasts_read
  rw [h] at hlasts
  unfold read at h
  split at h
  · cases h
  · split at h
    · split at h <;> cases h
    · next hsome =>
      cases h
      refine ⟨⟨(List.take_append_drop chunkSize s.inbound).symm, (List.append_nil _).symm, id,
        hlasts⟩, fun hnone => hsome ?_, List.length_take_le _ _⟩
      rw [List.isEmpty_iff]
      exact (List.take_eq_nil_iff.mp hnone).resolve_left (by decide)

theorem drained_of_read (h : s.read = (.endOfFile, t)) : s.Drained := by
  unfold read at h
  split at h
  · cases h
  · split at h
    · next hempty =>
      split at h
      · next hclosed => exact ⟨List.isEmpty_iff.mp hempty, hclosed⟩
      · cases h
    · cases h

theorem open_of_read (h : s.read = (.pending, t)) : s.farClosed = false := by
  unfold read at h
  split at h
  · cases h
  · split at h
    · split at h
      · cases h
      · next hopen => exact Bool.eq_false_iff.mpr hopen
    · cases h

theorem passes_write (h : s.write bytes = .ok t) : s.Passes [] bytes t := by
  have hlasts := lasts_write h
  unfold write at h
  split at h
  · cases h
  · split at h
    · cases h
    · cases h
      exact ⟨rfl, rfl, id, hlasts⟩

theorem passes_shutdown (h : s.shutdown = .ok t) : s.Passes [] [] t := by
  have hlasts := lasts_shutdown h
  unfold shutdown at h
  split at h
  · cases h
  · cases h
    exact ⟨rfl, (List.append_nil _).symm, id, hlasts⟩

end Duplex

/-! ### Copy loops -/

/-- Where a copy loop is. -/
inductive Phase
  | reading
  /-- Of the chunk that was read last, `done` is written and `left` is not. -/
  | writing (done left : List UInt8)
  /-- There is nothing more to read. -/
  | closing
deriving DecidableEq, Repr

namespace Phase

def done : Phase → List UInt8
  | writing done _ => done
  | _ => []

def left : Phase → List UInt8
  | writing _ left => left
  | _ => []

end Phase

/-- How far a copy loop is. -/
structure Copy where
  /-- The chunks that were written, flushed and counted. -/
  whole : List UInt8
  phase : Phase
deriving DecidableEq, Repr

namespace Copy

def start : Copy := ⟨[], .reading⟩

/-- The chunk in flight. -/
def inFlight (c : Copy) : List UInt8 := c.phase.done ++ c.phase.left

/-- All bytes that the loop has read. -/
def taken (c : Copy) : List UInt8 := c.whole ++ c.inFlight

/-- All bytes that the loop has written. -/
def given (c : Copy) : List UInt8 := c.whole ++ c.phase.done

/-- What has been read is what has been written, and the rest of the chunk in flight. -/
theorem taken_eq (c : Copy) : c.taken = c.given ++ c.phase.left := by
  rw [taken, given, inFlight, List.append_assoc]

/-- At most one chunk is in flight. -/
def Small (c : Copy) : Prop := c.inFlight.length ≤ Duplex.chunkSize

theorem small_start : start.Small := Nat.zero_le _

/-- What a loop does in a move. -/
structure Load where
  read : List UInt8
  written : List UInt8
  /-- How many bytes it counts. -/
  counted : Nat

def Load.none : Load := ⟨[], [], 0⟩

/-- A loop goes on from `c` to `c'`. -/
structure Grows (c : Copy) (l : Load) (c' : Copy) : Prop where
  taken : c'.taken = c.taken ++ l.read
  given : c'.given = c.given ++ l.written
  whole : c'.whole.length = c.whole.length + l.counted
  small : c.Small → c'.Small

theorem Grows.refl (c : Copy) : c.Grows .none c :=
  ⟨(List.append_nil _).symm, (List.append_nil _).symm, rfl, id⟩

/-- A move of a copy loop. -/
inductive Move
  /-- The next `n + 1` bytes are read, or as many as there are and fit into a chunk. -/
  | take (n : Nat)
  /-- The next `n + 1` bytes are written, or as many as there are left. -/
  | give (n : Nat)
  /-- What was written is flushed, which may fail. -/
  | flush (fault : Option String)
  | close

/-- Why a copy loop fails. -/
inductive Fault
  | read (reason : String)
  | write (reason : String)

end Copy

/-- A copy loop with the streams at its ends. -/
structure Half where
  reader : Duplex
  writer : Duplex
  copy : Copy
  /-- How many bytes are counted. -/
  count : Nat

namespace Half

/-- What comes of a move. -/
inductive Progress
  /-- This is not the move to make, or it has to wait. -/
  | idle
  | on (half : Half)
  | finished (half : Half)
  | failed (fault : Copy.Fault)

/-- A move, if it is the one to make. `closes` says whether the loop ends writing before it is over. -/
def step (closes : Bool) (h : Half) : Copy.Move → Progress
  | .take n =>
    match h.copy.phase with
    | .reading =>
      match h.reader.read with
      | (.pending, _) => .idle
      | (.failed reason, _) => .failed (.read reason)
      | (.endOfFile, _) => .on { h with copy := { h.copy with phase := .closing } }
      | (.chunk bytes, reader) =>
        .on { h with
          reader := { reader with inbound := bytes.drop (n + 1) ++ reader.inbound }
          copy := { h.copy with phase := .writing [] (bytes.take (n + 1)) } }
    | _ => .idle
  | .give n =>
    match h.copy.phase with
    | .writing done (b :: rest) =>
      let part := b :: rest.take n
      match h.writer.write part with
      | .error reason => .failed (.write reason)
      | .ok writer =>
        .on { h with writer, copy := { h.copy with phase := .writing (done ++ part) (rest.drop n) } }
    | _ => .idle
  | .flush fault =>
    match h.copy.phase, fault with
    | .writing done [], none =>
      .on { h with copy := ⟨h.copy.whole ++ done, .reading⟩, count := h.count + done.length }
    | .writing _ [], some reason => .failed (.write reason)
    | _, _ => .idle
  | .close =>
    match h.copy.phase with
    | .closing =>
      let finish (h : Half) : Progress :=
        .finished { h with copy := { h.copy with phase := .reading } }
      if closes then
        match h.writer.shutdown with
        | .error reason => .failed (.write reason)
        | .ok writer => finish { h with writer }
      else finish h
    | _ => .idle

/-- A loop goes on from `h` to `h'`. -/
structure Carries (h : Half) (l : Copy.Load) (h' : Half) : Prop where
  reader : h.reader.Passes l.read [] h'.reader
  writer : h.writer.Passes [] l.written h'.writer
  copy : h.copy.Grows l h'.copy
  count : h'.count = h.count + l.counted
  closing : h'.copy.phase = .closing → h.copy.phase = .closing ∨ h.reader.Drained

variable {closes : Bool} {h h' : Half} {m : Copy.Move}

/-- A loop that goes on writes what it has read, in the same order. -/
theorem carries_step (hstep : h.step closes m = .on h') : ∃ l, h.Carries l h' := by
  cases m with
  | take n =>
    unfold step at hstep
    dsimp only at hstep
    split at hstep
    · next hphase =>
      split at hstep
      · cases hstep
      · cases hstep
      · next hread =>
        cases hstep
        refine ⟨.none, .refl _, .refl _, ⟨?_, ?_, rfl, fun _ => Nat.zero_le _⟩, rfl,
          fun _ => .inr (Duplex.drained_of_read hread)⟩ <;>
          simp [Copy.taken, Copy.given, Copy.inFlight, Phase.done, Phase.left, hphase, Copy.Load.none]
      · next bytes reader hread =>
        obtain ⟨hpasses, -, hsmall⟩ := Duplex.passes_read hread
        cases hstep
        refine ⟨⟨bytes.take (n + 1), [], 0⟩, hpasses.unread (n + 1), .refl _, ⟨?_, ?_, rfl, fun _ =>
          Nat.le_trans (List.length_take_le' _ _) hsmall⟩, rfl, nofun⟩ <;>
          simp [Copy.taken, Copy.given, Copy.inFlight, Phase.done, Phase.left, hphase]
    · cases hstep
  | give n =>
    unfold step at hstep
    dsimp only at hstep
    split at hstep
    · next done b rest hphase =>
      split at hstep
      · cases hstep
      · next writer hwrite =>
        cases hstep
        -- the chunk is the same, with more of it done
        have hsame : (done ++ b :: rest.take n) ++ rest.drop n = done ++ b :: rest := by
          rw [List.append_assoc, List.cons_append, List.take_append_drop]
        refine ⟨⟨[], b :: rest.take n, 0⟩, .refl _, Duplex.passes_write hwrite,
          ⟨?_, ?_, rfl, fun hsmall => ?_⟩, rfl, nofun⟩
        · simp only [Copy.taken, Copy.inFlight, Phase.done, Phase.left, hphase, hsame,
            List.append_nil]
        · simp only [Copy.given, Phase.done, hphase, List.append_assoc]
        · rw [Copy.Small, Copy.inFlight, hphase] at hsmall
          rwa [Copy.Small, Copy.inFlight, Phase.done, Phase.left, hsame]
    · cases hstep
  | flush fault =>
    unfold step at hstep
    dsimp only at hstep
    split at hstep
    · next done hphase =>
      cases hstep
      refine ⟨⟨[], [], done.length⟩, .refl _, .refl _,
        ⟨?_, ?_, List.length_append, fun _ => Nat.zero_le _⟩, rfl, nofun⟩ <;>
        simp [Copy.taken, Copy.given, Copy.inFlight, Phase.done, Phase.left, hphase]
    · cases hstep
    · cases hstep
  | close =>
    unfold step at hstep
    dsimp only at hstep
    split at hstep
    · split at hstep
      · split at hstep <;> cases hstep
      · cases hstep
    · cases hstep

/-- A loop is over when there is nothing more to read and nothing in flight. -/
theorem carries_finished (hstep : h.step closes m = .finished h') :
    h.copy.phase = .closing ∧ h'.copy.phase = .reading ∧ h.Carries .none h' := by
  cases m with
  | close =>
    unfold step at hstep
    dsimp only at hstep
    split at hstep
    · next hphase =>
      -- nothing is let through, whether writing is ended or not
      have hdone (writer : Duplex) (hw : h.writer.Passes [] [] writer) :
          h.Carries .none { h with writer, copy := { h.copy with phase := .reading } } := by
        refine ⟨.refl _, hw, ⟨?_, ?_, rfl, fun _ => Nat.zero_le _⟩, rfl, nofun⟩ <;>
          simp [Copy.taken, Copy.given, Copy.inFlight, Phase.done, Phase.left, hphase, Copy.Load.none]
      split at hstep
      · split at hstep
        · cases hstep
        · next hshut =>
          cases hstep
          exact ⟨hphase, rfl, hdone _ (Duplex.passes_shutdown hshut)⟩
      · cases hstep
        exact ⟨hphase, rfl, hdone _ (.refl _)⟩
    · cases hstep
  | _ =>
    unfold step at hstep
    dsimp only at hstep
    repeat' split at hstep
    all_goals cases hstep

end Half

/-! ### Pipes -/

/-- The direction of a copy loop: to the destination, or to the source. -/
inductive Way
  | inward
  | outward
deriving DecidableEq, Repr

/-- A pipe with its two copy loops. -/
structure Span extends Pipe where
  inward : Copy
  outward : Copy

namespace Span

/-- The loop of a direction. -/
def half (x : Span) : Way → Half
  | .inward => ⟨x.source, x.destination, x.inward, x.bytesIn⟩
  | .outward => ⟨x.destination, x.source, x.outward, x.bytesOut⟩

/-- The pipe with another loop in one direction. -/
def put (x : Span) (h : Half) : Way → Span
  | .inward =>
    { x with source := h.reader, destination := h.writer, inward := h.copy, bytesIn := h.count }
  | .outward =>
    { x with destination := h.reader, source := h.writer, outward := h.copy, bytesOut := h.count }

/-- How a pipe ends when a loop fails. -/
def failure : Way → Copy.Fault → Pipe.End
  | .inward, .read reason => .source ("source read failed: " ++ reason)
  | .inward, .write reason => .destination ("destination write failed: " ++ reason)
  | .outward, .read reason => .destination ("destination read failed: " ++ reason)
  | .outward, .write reason => .source ("source write failed: " ++ reason)

/-- How a pipe ends when the destination ends writing. -/
def destinationEnd : Pipe.End := .destination "destination closed"

/-- What comes of a move: nothing, or another state of the pipe, in which it may have ended. -/
inductive Progress
  | idle
  | went (pipe : Span) (ended : Option Pipe.End)

/-- However it goes on, a pipe ends on the source's side once the source has ended. -/
def ending (x : Span) (e : Pipe.End) : Pipe.End := if x.draining then Pipe.sourceEnd else e

/-- A move of one of the loops. The one to the destination is over when the source has ended. -/
def step (x : Span) (way : Way) (m : Copy.Move) : Progress :=
  if way = .inward && x.draining then .idle
  else
    match (x.half way).step (way = .inward) m with
    | .idle => .idle
    | .on h => .went (x.put h way) none
    | .finished h =>
      match way with
      | .inward => .went { x.put h .inward with draining := true } none
      | .outward => .went (x.put h .outward) (some (x.ending destinationEnd))
    | .failed fault => .went x (some (x.ending (failure way fault)))

/-- Moves in a row. Before the last of them the pipe does not end, and neither does its source. -/
def run : List (Way × Copy.Move) → Span → Progress
  | [], _ => .idle
  | [(way, m)], x => x.step way m
  | (way, m) :: rest, x =>
    match x.step way m with
    | .went y none => if y.draining = x.draining then run rest y else .idle
    | _ => .idle

/-- Nothing is in flight. -/
def Resting (x : Span) : Prop := x.inward.phase = .reading ∧ x.outward.phase = .reading

/-- What a step of the pipe comes to, in moves. -/
def Refines (x : Span) : Pipe.Progress → Prop
  | .idle => True
  | .on p => ∃ moves y, run moves x = .went y none ∧ y.toPipe = p ∧ y.Resting
  | .over e p => ∃ moves y, run moves x = .went y (some e) ∧ y.toPipe = p

/-- The loops of a pipe go on from `x` to `y`, the inward one by `i` and the outward one by `o`. -/
structure Moves (x : Span) (i o : Copy.Load) (y : Span) : Prop where
  source : x.source.Passes i.read o.written y.source
  destination : x.destination.Passes o.read i.written y.destination
  inward : x.inward.Grows i y.inward
  outward : x.outward.Grows o y.outward
  bytesIn : y.bytesIn = x.bytesIn + i.counted
  bytesOut : y.bytesOut = x.bytesOut + o.counted
  closing : y.outward.phase = .closing → x.outward.phase = .closing ∨ x.destination.Drained

variable {x : Span}

/-- One loop goes on, and the other stays where it is. -/
theorem moves_put {way : Way} {l : Copy.Load} {h : Half} (hcarries : (x.half way).Carries l h)
    (draining : Bool) :
    x.Moves (if way = .inward then l else .none) (if way = .outward then l else .none)
      { x.put h way with draining } := by
  cases way with
  | inward =>
    exact ⟨hcarries.reader, hcarries.writer, hcarries.copy, .refl _, hcarries.count, rfl, .inl⟩
  | outward =>
    exact ⟨hcarries.writer, hcarries.reader, .refl _, hcarries.copy, rfl, hcarries.count,
      hcarries.closing⟩

theorem failure_ne_destinationEnd (way : Way) (fault : Copy.Fault) :
    failure way fault ≠ destinationEnd := by
  cases way <;> cases fault
  · nofun
  · intro h
    have htext := congrArg String.toList (Pipe.End.destination.inj h)
    simp at htext
  · intro h
    have htext := congrArg String.toList (Pipe.End.destination.inj h)
    simp at htext
  · nofun

/-- What is known of what comes of a move. A pipe that ends lets nothing more through, and it ends
because the destination has closed only when all that was read from it has been passed on. -/
def Carried (x : Span) : Progress → Prop
  | .idle => True
  | .went y ended => (∃ i o, x.Moves i o y) ∧ (ended ≠ none → x.Moves .none .none y) ∧
    (ended = some destinationEnd → x.outward.phase = .closing ∧ y.outward.phase = .reading)

theorem carried_step (x : Span) (way : Way) (m : Copy.Move) : x.Carried (x.step way m) := by
  unfold step
  split
  · trivial
  · cases hstep : (x.half way).step (way = .inward) m with
    | idle => trivial
    | on h =>
      obtain ⟨l, hcarries⟩ := Half.carries_step hstep
      cases way <;> exact ⟨⟨_, _, moves_put hcarries x.draining⟩, nofun, nofun⟩
    | finished h =>
      obtain ⟨hclosing, hreading, hcarries⟩ := Half.carries_finished hstep
      cases way with
      | inward => exact ⟨⟨_, _, moves_put hcarries true⟩, nofun, nofun⟩
      | outward =>
        have hmoves := moves_put hcarries x.draining
        exact ⟨⟨_, _, hmoves⟩, fun _ => hmoves, fun _ => ⟨hclosing, hreading⟩⟩
    | failed fault =>
      -- whatever text a failure has, it is not the one of a destination that has closed
      have hmoves : x.Moves .none .none x := ⟨.refl _, .refl _, .refl _, .refl _, rfl, rfl, .inl⟩
      refine ⟨⟨_, _, hmoves⟩, fun _ => hmoves, fun he => ?_⟩
      have hending := Option.some.inj he
      unfold ending at hending
      split at hending
      · cases hending
      · exact absurd hending (failure_ne_destinationEnd way fault)

theorem refines_stepIn (hx : x.Resting) (hopen : x.draining = false) :
    x.Refines x.toPipe.stepIn := by
  obtain ⟨⟨s, d, draining, bytesIn, bytesOut⟩, ⟨whole, phase⟩, outward⟩ := x
  obtain ⟨hin, hout⟩ := hx
  dsimp only at hopen hin hout
  subst hopen hin
  unfold Pipe.stepIn
  dsimp only
  split
  · trivial
  · next hread =>
    refine ⟨[(.inward, .take 0)], ⟨⟨s, d, false, bytesIn, bytesOut⟩, ⟨whole, .reading⟩, outward⟩, ?_,
      rfl⟩
    simp [run, step, half, Half.step, hread, ending, failure]
  · next hread =>
    split
    · next hshut =>
      refine ⟨[(.inward, .take 0), (.inward, .close)],
        ⟨⟨s, d, false, bytesIn, bytesOut⟩, ⟨whole, .closing⟩, outward⟩, ?_, rfl⟩
      simp [run, step, half, put, Half.step, hread, hshut, ending, failure]
    · next d' hshut =>
      refine ⟨[(.inward, .take 0), (.inward, .close)],
        ⟨⟨s, d', true, bytesIn, bytesOut⟩, ⟨whole, .reading⟩, outward⟩, ?_, rfl, rfl, hout⟩
      simp [run, step, half, put, Half.step, hread, hshut]
  · -- a step passes a chunk on whole, so a loop takes all of it and gives all of it in one go
    next bytes s' hread =>
    obtain ⟨-, hsome, -⟩ := Duplex.passes_read hread
    obtain ⟨b, rest, rfl⟩ := List.exists_cons_of_ne_nil hsome
    split
    · next hwrite =>
      refine ⟨[(.inward, .take rest.length), (.inward, .give rest.length)],
        ⟨⟨s', d, false, bytesIn, bytesOut⟩, ⟨whole, .writing [] (b :: rest)⟩, outward⟩, ?_, rfl⟩
      simp [run, step, half, put, Half.step, hread, hwrite, ending, failure]
    · next d' hwrite =>
      refine ⟨[(.inward, .take rest.length), (.inward, .give rest.length), (.inward, .flush none)],
        ⟨⟨s', d', false, bytesIn + (b :: rest).length, bytesOut⟩, ⟨whole ++ b :: rest, .reading⟩,
          outward⟩, ?_, rfl, rfl, hout⟩
      simp [run, step, half, put, Half.step, hread, hwrite]

/-- A step to the source comes to the same, except that the source may have ended before. -/
theorem refines_stepOut (hx : x.Resting) :
    x.Refines (match x.toPipe.stepOut with
      | .over e p => .over (x.ending e) p
      | progress => progress) := by
  obtain ⟨⟨s, d, draining, bytesIn, bytesOut⟩, inward, ⟨whole, phase⟩⟩ := x
  obtain ⟨hin, hout⟩ := hx
  dsimp only at hin hout
  subst hout
  unfold Pipe.stepOut
  dsimp only
  cases hread : d.read with
  | mk outcome d' =>
    cases outcome with
    | pending => trivial
    | failed reason =>
      refine ⟨[(.outward, .take 0)],
        ⟨⟨s, d, draining, bytesIn, bytesOut⟩, inward, ⟨whole, .reading⟩⟩, ?_, rfl⟩
      simp [run, step, half, Half.step, hread, ending, failure]
    | endOfFile =>
      refine ⟨[(.outward, .take 0), (.outward, .close)],
        ⟨⟨s, d, draining, bytesIn, bytesOut⟩, inward, ⟨whole, .reading⟩⟩, ?_, rfl⟩
      simp [run, step, half, put, Half.step, hread, ending, destinationEnd]
    | chunk bytes =>
      obtain ⟨-, hsome, -⟩ := Duplex.passes_read hread
      obtain ⟨b, rest, rfl⟩ := List.exists_cons_of_ne_nil hsome
      dsimp only
      cases hwrite : s.write (b :: rest) with
      | error reason =>
        -- the chunk has been taken from the destination, and is lost
        refine ⟨[(.outward, .take rest.length), (.outward, .give rest.length)],
          ⟨⟨s, d', draining, bytesIn, bytesOut⟩, inward, ⟨whole, .writing [] (b :: rest)⟩⟩, ?_, rfl⟩
        simp [run, step, half, put, Half.step, hread, hwrite, ending, failure]
      | ok s' =>
        refine ⟨[(.outward, .take rest.length), (.outward, .give rest.length), (.outward, .flush none)],
          ⟨⟨s', d', draining, bytesIn, bytesOut + (b :: rest).length⟩, inward,
            ⟨whole ++ b :: rest, .reading⟩⟩, ?_, rfl, hin, rfl⟩
        simp [run, step, half, put, Half.step, hread, hwrite]

/-- A step of a pipe is a list of moves of its loops. -/
theorem refines_step (hx : x.Resting) : x.Refines x.toPipe.step := by
  have hout := refines_stepOut hx
  unfold Pipe.step
  cases hdraining : x.draining with
  | true =>
    simp only [ending, hdraining, if_true] at hout ⊢
    exact hout
  | false =>
    have hin := refines_stepIn hx hdraining
    simp only [ending, hdraining, Bool.false_eq_true, if_false] at hout ⊢
    cases hstep : x.toPipe.stepIn with
    | idle =>
      dsimp only
      cases hnext : x.toPipe.stepOut <;> rwa [hnext] at hout
    | _ => rwa [hstep] at hin

end Span

end Switchboard

/-
What a session is told while it runs, and how it goes on.

A session waits for one thing at a time. When the thing happens, the session is told so by a
signal, and what it does next depends on the signal and on its task. It may be destroyed at any
time.

* `Signal`: what a session may be told;
* `Running.Step`: how it goes on after a signal;
* `Running.Follows`: what comes of a history of signals.
-/
import Switchboard.Session.Task

namespace Switchboard

/-- What a running session may be told. -/
inductive Signal
  /-- It is bound, or cannot be. `hook` says whether it has a way to get a new source. -/
  | bound (hook : Bool) (binding : Except Outcome Binding)
  /-- The cluster gave a stream. -/
  | connected (now : Nat)
  | refused (reason : String)
  /-- So many more bytes went to the destination and to the source. -/
  | forwarded (bytesIn bytesOut : Nat)
  | sourceEnded (reason : String) (now : Nat)
  /-- An established destination ended. `retriable` is what its cluster says of itself. -/
  | destinationEnded (retriable : Bool) (reason : String) (now : Nat)
  | delayOver
  | reacquired
  | notReacquired (reason : String)
  /-- Somebody changed its metadata. -/
  | edited (metadata : Json)
  /-- It takes note of its own end. -/
  | finished
  /-- It left the table of live sessions. -/
  | left
  | destroyed

namespace Session

theorem terminate_of_terminated {s : Session} (h : s.isTerminated = true) (outcome : Outcome) :
    s.terminate outcome = s := by
  simp [terminate, h]

theorem isTerminated_terminate (s : Session) (outcome : Outcome) :
    (s.terminate outcome).isTerminated = true := by
  unfold terminate
  split
  · assumption
  · rfl

end Session

namespace Running

/-- `r.Step x next`: on the signal `x` the session `r` goes on as `next`. -/
inductive Step : Running → Signal → Running → Prop
  | bound (s : Session) (hook : Bool) (binding : Except Outcome Binding) :
      Step ⟨s, .starting⟩ (.bound hook binding) (begin s hook binding)
  | connected (s : Session) (c : Connector) (now : Nat) :
      Step ⟨s, .connecting c⟩ (.connected now) (.connected s c now)
  | refused (s : Session) (c : Connector) (reason : String) :
      Step ⟨s, .connecting c⟩ (.refused reason) (connectFailed s c reason)
  | forwarded (s : Session) (c : Connector) (since bytesIn bytesOut : Nat) :
      Step ⟨s, .piping c since⟩ (.forwarded bytesIn bytesOut)
        ⟨{ s with bytesIn := s.bytesIn + bytesIn, bytesOut := s.bytesOut + bytesOut },
          .piping c since⟩
  | sourceEnded (s : Session) (c : Connector) (since now : Nat) (retriable : Bool)
      (reason : String) :
      Step ⟨s, .piping c since⟩ (.sourceEnded reason now)
        (pipeEnded s c since now retriable (.source reason))
  | destinationEnded (s : Session) (c : Connector) (since now : Nat) (retriable : Bool)
      (reason : String) :
      Step ⟨s, .piping c since⟩ (.destinationEnded retriable reason now)
        (pipeEnded s c since now retriable (.destination reason))
  | delayOver (s : Session) (c : Connector) (delay : Nat) (next : Next) :
      Step ⟨s, .waiting c delay next⟩ .delayOver (woken s c next)
  | reacquired (s : Session) (c : Connector) :
      Step ⟨s, .reacquiring c⟩ .reacquired (.reacquired s c)
  | notReacquired (s : Session) (c : Connector) (reason : String) :
      Step ⟨s, .reacquiring c⟩ (.notReacquired reason) (reacquireFailed s c reason)
  | edited (s : Session) (task : Task) (metadata : Json) :
      Step ⟨s, task⟩ (.edited metadata) ⟨{ s with metadata }, task⟩
  | finished (s : Session) (outcome : Outcome) :
      Step ⟨s, .ended outcome⟩ .finished (finish s outcome)
  | left (s : Session) : Step ⟨s, .leaving⟩ .left ⟨s, .gone⟩
  | destroyed (r : Running) : Step r .destroyed r.destroy

/-- `r.Follows history next`: the session `r` goes on as `next` when it is told `history`, the
latest signal last. -/
inductive Follows (r : Running) : List Signal → Running → Prop
  | start : Follows r [] r
  | signal {history : List Signal} {x : Signal} {now next : Running}
      (sofar : Follows r history now) (step : now.Step x next) :
      Follows r (history ++ [x]) next

theorem advance_of_live {s : Session} (h : s.isTerminated = false) (state : SessionState)
    (next : Session → Running) : advance s state next = next { s with state } := by
  simp [advance, Session.transition, h]

theorem destroy_destroy (r : Running) : r.destroy.destroy = r.destroy := by
  have hterminated := r.session.isTerminated_terminate .destroyed
  rw [destroy, destroy, Session.terminate_of_terminated hterminated]

end Running

end Switchboard

/-
How a session keeps to its retry policy.

The failures up to the next successful connect form an episode. Its kind is that of its first
failure, whatever the later ones are, and the policy has a budget for each kind. The session itself
keeps no list of failures: it only knows the kind of the first and the number of retries it has
spent.

* `episode`: the failures of the present episode, from the signals alone;
* `OnCourse`: what the session knows is what the signals say;
* `Tries`: what one more try is;
* `Verdict`: what becomes of a session at a signal;
* `follows_policy`: when a session ends with which outcome, and that every other failure costs one
  retry and is followed by one more try.
-/
import Switchboard.Proofs.Session.Signal

namespace Switchboard

/-! ### Failures and episodes -/

/-- Whether a source that ends is replaced by a new one. -/
def RetryPolicy.reacquires (policy : RetryPolicy) (hook : Bool) : Bool :=
  hook && policy.budget .disconnect ≠ 0

theorem RetryPolicy.budget_eq_retries {policy : RetryPolicy} {kind : FailureKind}
    (h : policy.budget kind ≠ 0) : policy.budget kind = policy.retries := by
  unfold budget at h ⊢
  split <;> simp_all

/-- The failure that a signal tells of. The end of a source is one if the source is replaced. -/
def Signal.failure? (reacquires : Bool) : Signal → Option (FailureKind × String)
  | refused reason => some (.connect, reason)
  | destinationEnded _ reason _ => some (.disconnect, reason)
  | sourceEnded reason _ => if reacquires then some (.disconnect, reason) else none
  | notReacquired reason => some (.disconnect, reason)
  | _ => none

/-- What is tried after a failure: the source is replaced if it has failed. -/
def Signal.retried : Signal → Next
  | sourceEnded _ _ | notReacquired _ => .reacquire
  | _ => .connect

/-- The failures of the present episode after one more signal. -/
def Signal.extend (reacquires : Bool) (failures : List FailureKind) (x : Signal) :
    List FailureKind :=
  match x, x.failure? reacquires with
  | connected _, _ => []
  | _, some (kind, _) => failures ++ [kind]
  | _, none => failures

/-- The failures since the last successful connect, or else since the start, the latest last. -/
def episode (reacquires : Bool) (history : List Signal) : List FailureKind :=
  history.foldl (Signal.extend reacquires) []

theorem episode_concat (reacquires : Bool) (history : List Signal) (x : Signal) :
    episode reacquires (history ++ [x]) = x.extend reacquires (episode reacquires history) := by
  rw [episode, List.foldl_append]
  rfl

theorem Signal.extend_of_failure {reacquires : Bool} {x : Signal} {kind : FailureKind}
    {reason : String} (h : x.failure? reacquires = some (kind, reason))
    (failures : List FailureKind) : x.extend reacquires failures = failures ++ [kind] := by
  cases x <;> simp_all [extend, failure?]

/-- The policy has granted a retry for each failure of an episode. -/
def RetryPolicy.Grants (policy : RetryPolicy) (failures : List FailureKind) : Prop :=
  ∀ opening, failures.head? = some opening →
    policy.budget opening ≠ 0 ∧ failures.length ≤ policy.retries

theorem RetryPolicy.Grants.nil {policy : RetryPolicy} : policy.Grants [] := by
  intro opening h
  cases h

/-- What a session bound to `b` needs for connecting after some failures. -/
def Binding.connector (b : Binding) (hook : Bool) (failures : List FailureKind) : Connector :=
  ⟨b.cluster, b.route.retry, hook, failures.head?, failures.length⟩

theorem head?_concat (failures : List FailureKind) (kind : FailureKind) :
    (failures ++ [kind]).head? = some (failures.head?.getD kind) := by
  cases failures <;> rfl

theorem Binding.connector_concat (b : Binding) (hook : Bool) (failures : List FailureKind)
    (kind : FailureKind) :
    b.connector hook (failures ++ [kind]) =
      { b.connector hook failures with
        episode := some (failures.head?.getD kind)
        retries := failures.length + 1 } := by
  rw [connector, head?_concat, List.length_append, List.length_singleton]
  rfl

/-- What a task needs for connecting, if it may come to that. -/
def Task.connector? : Task → Option Connector
  | connecting c | piping c _ | waiting c _ _ | reacquiring c => some c
  | _ => none

namespace Running

variable {s : Session} {b : Binding} {hook : Bool} {failures : List FailureKind}

/-- What a session does that has come through the failures of an episode. -/
inductive OnCourse (b : Binding) (hook : Bool) (failures : List FailureKind) : Running → Prop
  | connecting {s : Session} (live : s.isTerminated = false)
      (granted : b.route.retry.Grants failures) :
      OnCourse b hook failures ⟨s, .connecting (b.connector hook failures)⟩
  | piping {s : Session} (since : Nat) (live : s.isTerminated = false) (unbroken : failures = []) :
      OnCourse b hook failures ⟨s, .piping (b.connector hook failures) since⟩
  | waiting {s : Session} (delay : Nat) (next : Next) (live : s.isTerminated = false)
      (granted : b.route.retry.Grants failures) :
      OnCourse b hook failures ⟨s, .waiting (b.connector hook failures) delay next⟩
  | reacquiring {s : Session} (live : s.isTerminated = false)
      (granted : b.route.retry.Grants failures) :
      OnCourse b hook failures ⟨s, .reacquiring (b.connector hook failures)⟩
  | ended {s : Session} (outcome : Outcome) (live : s.isTerminated = false) :
      OnCourse b hook failures ⟨s, .ended outcome⟩
  | leaving {s : Session} : OnCourse b hook failures ⟨s, .leaving⟩
  | gone {s : Session} : OnCourse b hook failures ⟨s, .gone⟩

/-- The session is not terminated, and is not to be. -/
def Going (r : Running) : Prop :=
  r.session.isTerminated = false ∧ ∀ outcome, r.task ≠ .ended outcome

/-- The session has just found its end. -/
def Ends (r next : Running) (outcome : Outcome) : Prop :=
  r.Going ∧ next.task = .ended outcome

/-- The session `s` has called into its cluster once more, and the call is counted. -/
structure Calls (s : Session) (c : Connector) (next : Running) : Prop where
  task : next.task = .connecting c
  session : next.session = { s with connectAttempts := s.connectAttempts + 1 }

/-- One more try of the session `s`: a call, or else a request for a new source, which is followed
by a call when there is one. -/
inductive Tries (s : Session) (c : Connector) : Next → Running → Prop
  | connect {next : Running} (calls : Calls s c next) : Tries s c .connect next
  | reacquire {next : Running} (task : next.task = .reacquiring c) (session : next.session = s)
      (answered : ∃ later, next.Step .reacquired later)
      (calls : ∀ later, next.Step .reacquired later → Calls s c later) : Tries s c .reacquire next

/-- The session spends one retry, so that `retries` are spent, and waits. When the delay is over it
tries once more, for the same cluster and by the same policy. Until then nothing else can happen to
it by itself. -/
def TriesAgain (r next : Running) (again : Next) (retries : Nat) : Prop :=
  ∃ before after delay, r.task.connector? = some before ∧ before.retries + 1 = retries ∧
    after = { before with episode := after.episode, retries } ∧
    next = ⟨{ r.session with state := .reconnecting }, .waiting after delay again⟩ ∧
    (∃ later, next.Step .delayOver later) ∧
    ∀ x later, next.Step x later →
      (x = .delayOver ∧ Tries next.session after again later) ∨
        (∃ metadata, x = .edited metadata ∧
          later = ⟨{ next.session with metadata }, next.task⟩) ∨ x = .destroyed

theorem calls_call (s : Session) (c : Connector) : Calls s c (call s c) := ⟨rfl, rfl⟩

theorem tries_woken (s : Session) (c : Connector) (again : Next) :
    Tries s c again (woken s c again) := by
  cases again with
  | connect => exact .connect (calls_call s c)
  | reacquire =>
    refine .reacquire rfl rfl ⟨_, .reacquired s c⟩ fun later step => ?_
    cases step
    exact calls_call s c

theorem triesAgain_waiting {r : Running} {before after : Connector} {retries : Nat}
    (hbefore : r.task.connector? = some before) (spent : before.retries + 1 = retries)
    (hafter : after = { before with episode := after.episode, retries }) (delay : Nat)
    (again : Next) :
    r.TriesAgain ⟨{ r.session with state := .reconnecting }, .waiting after delay again⟩ again
      retries := by
  refine ⟨before, after, delay, hbefore, spent, hafter, rfl, ⟨_, .delayOver ..⟩, ?_⟩
  intro x later step
  cases step with
  | delayOver => exact .inl ⟨rfl, tries_woken ..⟩
  | edited => exact .inr (.inl ⟨_, rfl, rfl⟩)
  | destroyed => exact .inr (.inr rfl)

/-! ### One failure -/

/-- What the policy says to a failure of the kind `kind` after `failures`. -/
theorem retry_cases (live : s.isTerminated = false) (granted : b.route.retry.Grants failures)
    (kind : FailureKind) (reason : String) (elapsed : Option Nat) (again : Next) :
    let next := retry s (b.connector hook failures) kind reason elapsed again
    (failures = [] ∧ b.route.retry.budget kind = 0 ∧
        next = ⟨s, .ended (.destinationFailed reason)⟩) ∨
      (∃ opening, (failures ++ [kind]).head? = some opening ∧ b.route.retry.budget opening ≠ 0 ∧
        failures.length = b.route.retry.retries ∧
        next = ⟨s, .ended (.retryExhausted b.route.retry.retries reason)⟩) ∨
      (b.route.retry.Grants (failures ++ [kind]) ∧ ∃ delay,
        next = ⟨{ s with state := .reconnecting },
          .waiting (b.connector hook (failures ++ [kind])) delay again⟩) := by
  have hopening := head?_concat failures kind
  have hlength : failures.length ≤ b.route.retry.retries := by
    cases failures with
    | nil => exact Nat.zero_le _
    | cons opening rest => exact (granted opening rfl).2
  intro next
  unfold next retry
  by_cases hbudget : b.route.retry.budget (failures.head?.getD kind) = 0
  · -- only the first failure of an episode can meet an empty budget
    have hnil : failures = [] := by
      cases failures with
      | nil => rfl
      | cons opening rest => exact absurd hbudget (granted opening rfl).1
    subst hnil
    exact .inl ⟨rfl, hbudget, if_pos hbudget⟩
  have hretries := RetryPolicy.budget_eq_retries hbudget
  right
  by_cases hspent : b.route.retry.retries ≤ failures.length
  · have heq : failures.length = b.route.retry.retries := Nat.le_antisymm hlength hspent
    refine .inl ⟨_, hopening, hbudget, heq, ?_⟩
    refine (if_neg hbudget).trans ((if_pos (hretries ▸ hspent)).trans ?_)
    rw [← heq]
    rfl
  · refine .inr ⟨fun opening h => ?_, b.route.retry.timeout - elapsed.getD 0, ?_⟩
    · rw [hopening, Option.some_inj] at h
      refine ⟨h ▸ hbudget, ?_⟩
      rw [List.length_append, List.length_singleton]
      omega
    · refine (if_neg hbudget).trans ((if_neg (hretries ▸ hspent)).trans ?_)
      rw [advance_of_live live, Binding.connector_concat]
      rfl

/-! ### One signal -/

/-- What becomes of a session at a signal. `failures` are those of the episode so far. -/
inductive Verdict (b : Binding) (hook : Bool) (failures : List FailureKind) (r : Running)
    (x : Signal) : Running → Prop
  /-- Nothing has failed. -/
  | well {next : Running} (quiet : x.failure? (b.route.retry.reacquires hook) = none)
      (sourceOpen : ∀ reason now, x ≠ .sourceEnded reason now)
      (on : ∀ outcome, ¬ r.Ends next outcome)
      (course : OnCourse b hook (x.extend (b.route.retry.reacquires hook) failures) next) :
      Verdict b hook failures r x next
  /-- The source is not replaced. -/
  | closed {reason : String} {now : Nat} (signal : x = .sourceEnded reason now)
      (final : b.route.retry.reacquires hook = false)
      (going : r.Going) :
      Verdict b hook failures r x ⟨r.session, .ended .sourceClosed⟩
  /-- The cluster is not to be tried again. -/
  | hopeless {reason : String} {now : Nat} (signal : x = .destinationEnded false reason now)
      (unbroken : failures = []) (going : r.Going) :
      Verdict b hook failures r x ⟨r.session, .ended (.destinationFailed reason)⟩
  /-- The policy does not retry such failures. -/
  | failed {kind : FailureKind} {reason : String}
      (failure : x.failure? (b.route.retry.reacquires hook) = some (kind, reason))
      (hopeful : ∀ reason now, x ≠ .destinationEnded false reason now)
      (unbroken : failures = []) (unbudgeted : b.route.retry.budget kind = 0)
      (going : r.Going) :
      Verdict b hook failures r x ⟨r.session, .ended (.destinationFailed reason)⟩
  /-- All retries are spent. -/
  | exhausted {kind opening : FailureKind} {reason : String}
      (failure : x.failure? (b.route.retry.reacquires hook) = some (kind, reason))
      (hopeful : ∀ reason now, x ≠ .destinationEnded false reason now)
      (opened : (failures ++ [kind]).head? = some opening)
      (budgeted : b.route.retry.budget opening ≠ 0)
      (spent : failures.length = b.route.retry.retries)
      (going : r.Going) :
      Verdict b hook failures r x ⟨r.session, .ended (.retryExhausted b.route.retry.retries reason)⟩
  /-- There is one more try. -/
  | again {kind : FailureKind} {reason : String} {delay : Nat}
      (failure : x.failure? (b.route.retry.reacquires hook) = some (kind, reason))
      (hopeful : ∀ reason now, x ≠ .destinationEnded false reason now)
      (granted : b.route.retry.Grants (failures ++ [kind]))
      (before : r.task.connector? = some (b.connector hook failures)) :
      Verdict b hook failures r x
        ⟨{ r.session with state := .reconnecting },
          .waiting (b.connector hook (failures ++ [kind])) delay x.retried⟩

theorem Verdict.of_retry {r : Running} {x : Signal} {kind : FailureKind} {reason : String}
    {elapsed : Option Nat} (live : r.session.isTerminated = false)
    (granted : b.route.retry.Grants failures)
    (before : r.task.connector? = some (b.connector hook failures))
    (failure : x.failure? (b.route.retry.reacquires hook) = some (kind, reason))
    (hopeful : ∀ reason now, x ≠ .destinationEnded false reason now) :
    Verdict b hook failures r x
      (retry r.session (b.connector hook failures) kind reason elapsed x.retried) := by
  have going : r.Going := by
    refine ⟨live, fun outcome hended => ?_⟩
    simp [hended, Task.connector?] at before
  rcases retry_cases live granted kind reason elapsed x.retried with
    ⟨hnil, hbudget, hnext⟩ | ⟨opening, hopening, hbudget, hspent, hnext⟩ | ⟨hmore, delay, hnext⟩
  · rw [hnext]
    exact .failed failure hopeful hnil hbudget going
  · rw [hnext]
    exact .exhausted failure hopeful hopening hbudget hspent going
  · rw [hnext]
    exact .again failure hopeful hmore before

theorem pipeEnded_source_of_reacquires (h : b.route.retry.reacquires hook = true)
    (since now : Nat) (retriable : Bool) (reason : String) :
    pipeEnded s (b.connector hook failures) since now retriable (.source reason) =
      retry s (b.connector hook failures) .disconnect reason (some (now - since)) .reacquire :=
  if_pos h

theorem pipeEnded_source_of_not_reacquires (h : ¬b.route.retry.reacquires hook = true)
    (since now : Nat) (retriable : Bool) (reason : String) :
    pipeEnded s (b.connector hook failures) since now retriable (.source reason) =
      ⟨s, .ended .sourceClosed⟩ :=
  if_neg h

theorem OnCourse.edited {task : Task} (h : OnCourse b hook failures ⟨s, task⟩) (metadata : Json) :
    OnCourse b hook failures ⟨{ s with metadata }, task⟩ := by
  cases h with
  | connecting live granted => exact .connecting live granted
  | piping since live unbroken => exact .piping since live unbroken
  | waiting delay next live granted => exact .waiting delay next live granted
  | reacquiring live granted => exact .reacquiring live granted
  | ended outcome live => exact .ended outcome live
  | leaving => exact .leaving
  | gone => exact .gone

/-- A session that is on its course and is not destroyed meets the verdict of its policy. A signal
that its task does not wait for is none that it can be told. -/
theorem OnCourse.verdict {r next : Running} {x : Signal} (h : OnCourse b hook failures r)
    (step : r.Step x next) (undestroyed : x ≠ .destroyed) : Verdict b hook failures r x next := by
  cases step with
  | bound => cases h
  | connected s c now =>
    cases h with
    | connecting live granted =>
      rw [Running.connected, advance_of_live live]
      exact .well rfl (by simp) (by simp [Ends]) (.piping now (by rfl) rfl)
  | refused s c reason =>
    cases h with
    | connecting live granted => exact .of_retry live granted rfl rfl (by simp)
  | forwarded s c since bytesIn bytesOut =>
    cases h with
    | piping _ live unbroken =>
      exact .well rfl (by simp) (by simp [Ends]) (.piping since live unbroken)
  | sourceEnded s c since now retriable reason =>
    cases h with
    | piping _ live unbroken =>
      -- a source that is replaced fails like a destination, and another one ends the session
      by_cases hreplaced : b.route.retry.reacquires hook
      · rw [pipeEnded_source_of_reacquires hreplaced]
        exact .of_retry live (unbroken ▸ .nil) rfl (if_pos hreplaced) (by simp)
      · rw [pipeEnded_source_of_not_reacquires hreplaced]
        exact .closed rfl (eq_false_of_ne_true hreplaced) ⟨live, by simp⟩
  | destinationEnded s c since now retriable reason =>
    cases h with
    | piping _ live unbroken =>
      cases retriable with
      | false => exact .hopeless rfl unbroken ⟨live, by simp⟩
      | true => exact .of_retry live (unbroken ▸ .nil) rfl rfl (by simp)
  | delayOver s c delay next =>
    cases h with
    | waiting _ _ live granted =>
      cases next with
      | connect =>
        exact .well rfl (by simp) (by simp [Ends, woken, call]) (.connecting live granted)
      | reacquire =>
        exact .well rfl (by simp) (by simp [Ends, woken]) (.reacquiring live granted)
  | reacquired s c =>
    cases h with
    | reacquiring live granted =>
      refine .well rfl (by simp) ?_ (.connecting live granted)
      simp [Ends, Running.reacquired, call]
  | notReacquired s c reason =>
    cases h with
    | reacquiring live granted => exact .of_retry live granted rfl rfl (by simp)
  | edited s task metadata =>
    refine .well rfl (by simp) ?_ ?_
    · rintro outcome ⟨hgoing, hended⟩
      exact hgoing.2 outcome hended
    · exact h.edited metadata
  | finished s outcome => exact .well rfl (by simp) (by simp [Ends, finish]) .leaving
  | left s => exact .well rfl (by simp) (by simp [Ends]) .gone
  | destroyed => exact absurd rfl undestroyed

namespace Verdict

variable {r next : Running} {x : Signal}

theorem onCourse (h : Verdict b hook failures r x next) :
    OnCourse b hook (x.extend (b.route.retry.reacquires hook) failures) next := by
  cases h with
  | well _ _ _ course => exact course
  | closed _ _ going => exact .ended _ going.1
  | hopeless _ _ going => exact .ended _ going.1
  | failed _ _ _ _ going => exact .ended _ going.1
  | exhausted _ _ _ _ _ going => exact .ended _ going.1
  | again failure _ granted _ =>
    rw [Signal.extend_of_failure failure]
    exact .waiting _ _ rfl granted

theorem destinationFailed_iff (h : Verdict b hook failures r x next) (reason : String) :
    r.Ends next (.destinationFailed reason) ↔
      (∃ now, x = .destinationEnded false reason now) ∨
        ∃ kind, x.failure? (b.route.retry.reacquires hook) = some (kind, reason) ∧
          x.extend (b.route.retry.reacquires hook) failures = [kind] ∧
          b.route.retry.budget kind = 0 := by
  cases h with
  | well quiet _ on _ =>
    refine iff_of_false (on _) ?_
    rintro (⟨now, rfl⟩ | ⟨kind, failure, -⟩)
    · cases quiet
    · simp [quiet] at failure
  | closed signal final going =>
    subst signal
    simp [Ends, Signal.failure?, final]
  | hopeless signal unbroken going =>
    subst signal
    constructor
    · rintro ⟨-, hended⟩
      cases hended
      exact .inl ⟨_, rfl⟩
    · rintro (⟨now, hsignal⟩ | ⟨kind, failure, -⟩)
      · cases hsignal
        exact ⟨going, rfl⟩
      · cases failure
        exact ⟨going, rfl⟩
  | failed failure hopeful unbroken unbudgeted going =>
    rw [Signal.extend_of_failure failure, unbroken]
    constructor
    · rintro ⟨-, hended⟩
      cases hended
      exact .inr ⟨_, failure, rfl, unbudgeted⟩
    · rintro (⟨now, hsignal⟩ | ⟨kind, hkind, -⟩)
      · exact absurd hsignal (hopeful _ _)
      · rw [failure] at hkind
        cases hkind
        exact ⟨going, rfl⟩
  | exhausted failure hopeful opened budgeted spent going =>
    refine iff_of_false (by simp [Ends]) ?_
    rintro (⟨now, rfl⟩ | ⟨kind, hkind, hfirst, hbudget⟩)
    · exact hopeful _ _ rfl
    · rw [Signal.extend_of_failure failure] at hfirst
      rw [hfirst] at opened
      exact budgeted (Option.some.inj opened ▸ hbudget)
  | again failure hopeful granted before =>
    refine iff_of_false (by simp [Ends]) ?_
    rintro (⟨now, rfl⟩ | ⟨kind, hkind, hfirst, hbudget⟩)
    · exact hopeful _ _ rfl
    · -- the failure would have opened an episode that was not granted a retry
      rw [Signal.extend_of_failure failure] at hfirst
      exact (granted kind (by rw [hfirst]; rfl)).1 hbudget

theorem retryExhausted_iff (h : Verdict b hook failures r x next) (attempts : Nat)
    (reason : String) :
    r.Ends next (.retryExhausted attempts reason) ↔
      ∃ kind opening, x.failure? (b.route.retry.reacquires hook) = some (kind, reason) ∧
        (x.extend (b.route.retry.reacquires hook) failures).head? = some opening ∧
        b.route.retry.budget opening ≠ 0 ∧
        (x.extend (b.route.retry.reacquires hook) failures).length =
          b.route.retry.retries + 1 ∧
        attempts = b.route.retry.retries := by
  cases h with
  | well quiet _ on _ =>
    refine iff_of_false (on _) ?_
    rintro ⟨kind, opening, failure, -⟩
    simp [quiet] at failure
  | closed signal final going =>
    subst signal
    simp [Ends, Signal.failure?, final]
  | hopeless signal unbroken going =>
    refine iff_of_false (by simp [Ends]) ?_
    rintro ⟨kind, opening, hkind, -, hbudget, hlength, -⟩
    -- it is the first failure of its episode, and no budget is used up by then
    rw [Signal.extend_of_failure hkind, unbroken] at hlength
    have hretries := RetryPolicy.budget_eq_retries hbudget
    simp only [List.nil_append, List.length_singleton] at hlength
    omega
  | failed failure hopeful unbroken unbudgeted going =>
    refine iff_of_false (by simp [Ends]) ?_
    rintro ⟨kind, opening, -, hopening, hbudget, -⟩
    rw [Signal.extend_of_failure failure, unbroken] at hopening
    exact hbudget (Option.some.inj hopening ▸ unbudgeted)
  | exhausted failure hopeful opened budgeted spent going =>
    rw [Signal.extend_of_failure failure, List.length_append, spent]
    constructor
    · rintro ⟨-, hended⟩
      cases hended
      exact ⟨_, _, failure, opened, budgeted, rfl, rfl⟩
    · rintro ⟨kind, opening, hkind, -, -, -, rfl⟩
      rw [failure] at hkind
      cases hkind
      exact ⟨going, rfl⟩
  | again failure hopeful granted before =>
    refine iff_of_false (by simp [Ends]) ?_
    rintro ⟨kind, opening, -, hopening, -, hlength, -⟩
    rw [Signal.extend_of_failure failure] at hopening hlength
    have hgranted := (granted opening hopening).2
    omega

theorem sourceClosed_iff (h : Verdict b hook failures r x next) :
    r.Ends next .sourceClosed ↔
      (∃ reason now, x = .sourceEnded reason now) ∧
        (hook = false ∨ b.route.retry.budget .disconnect = 0) := by
  have hfinal : b.route.retry.reacquires hook = false ↔
      hook = false ∨ b.route.retry.budget .disconnect = 0 := by
    cases hook <;> simp [RetryPolicy.reacquires]
  rw [← hfinal]
  cases h with
  | well quiet sourceOpen on _ =>
    refine iff_of_false (on _) ?_
    rintro ⟨⟨reason, now, hsource⟩, -⟩
    exact sourceOpen reason now hsource
  | closed signal final going => simp [Ends, going, signal, final]
  | hopeless signal unbroken going => simp [Ends, signal]
  | failed failure hopeful unbroken unbudgeted going =>
    refine iff_of_false (by simp [Ends]) ?_
    rintro ⟨⟨reason, now, rfl⟩, final⟩
    simp [Signal.failure?, final] at failure
  | exhausted failure hopeful opened budgeted spent going =>
    refine iff_of_false (by simp [Ends]) ?_
    rintro ⟨⟨reason, now, rfl⟩, final⟩
    simp [Signal.failure?, final] at failure
  | again failure hopeful granted before =>
    refine iff_of_false (by simp [Ends]) ?_
    rintro ⟨⟨reason, now, rfl⟩, final⟩
    simp [Signal.failure?, final] at failure

theorem triesAgain (h : Verdict b hook failures r x next)
    (failure : (x.failure? (b.route.retry.reacquires hook)).isSome)
    (on : ∀ outcome, ¬ r.Ends next outcome) :
    r.TriesAgain next x.retried (x.extend (b.route.retry.reacquires hook) failures).length := by
  cases h with
  | well quiet _ _ _ => simp [quiet] at failure
  | closed _ _ going => exact absurd ⟨going, rfl⟩ (on _)
  | hopeless _ _ going => exact absurd ⟨going, rfl⟩ (on _)
  | failed _ _ _ _ going => exact absurd ⟨going, rfl⟩ (on _)
  | exhausted _ _ _ _ _ going => exact absurd ⟨going, rfl⟩ (on _)
  | again failure _ _ before =>
    rw [Signal.extend_of_failure failure]
    exact triesAgain_waiting before (by simp [Binding.connector]) rfl ..

theorem session_of_ends (h : Verdict b hook failures r x next) {outcome : Outcome}
    (ends : r.Ends next outcome) : next.session = r.session := by
  obtain ⟨-, hended⟩ := id ends
  cases h with
  | well _ _ on _ => exact absurd ends (on outcome)
  | closed | hopeless | failed | exhausted => rfl
  | again => cases hended

theorem outcome_cases (h : Verdict b hook failures r x next) {outcome : Outcome}
    (ends : r.Ends next outcome) :
    outcome = .sourceClosed ∨ (∃ reason, outcome = .destinationFailed reason) ∨
      ∃ attempts reason, outcome = .retryExhausted attempts reason := by
  obtain ⟨-, hended⟩ := id ends
  cases h with
  | well _ _ on _ => exact absurd ends (on outcome)
  | closed => exact .inl (Task.ended.inj hended).symm
  | hopeless => exact .inr (.inl ⟨_, (Task.ended.inj hended).symm⟩)
  | failed => exact .inr (.inl ⟨_, (Task.ended.inj hended).symm⟩)
  | exhausted => exact .inr (.inr ⟨_, _, (Task.ended.inj hended).symm⟩)
  | again => cases hended

end Verdict

/-! ### All signals -/

theorem begin_onCourse (live : s.isTerminated = false) :
    OnCourse b hook [] (begin s hook (.ok b)) := by
  have hlive : { s with metadata := b.metadata, route := some b.route }.isTerminated = false :=
    live
  rw [begin, advance_of_live hlive]
  exact .connecting rfl .nil

theorem Follows.onCourse {history : List Signal} {r : Running} (live : s.isTerminated = false)
    (h : (begin s hook (.ok b)).Follows history r) (undestroyed : .destroyed ∉ history) :
    OnCourse b hook (episode (b.route.retry.reacquires hook) history) r := by
  -- on the history: `OnCourse` is what every signal but destruction keeps
  induction h with
  | start => exact begin_onCourse live
  | signal _ step ih =>
    rw [List.mem_append, not_or] at undestroyed
    rw [episode_concat]
    have hx := fun h => undestroyed.2 (List.mem_singleton.mpr h)
    exact ((ih undestroyed.1).verdict step fun h => hx h.symm).onCourse

theorem Ends.finished {r next final : Running} {outcome : Outcome} (h : r.Ends next outcome)
    (live : next.session.isTerminated = false) (step : next.Step .finished final) :
    final.session.state = .terminated ∧ final.session.outcome = some outcome := by
  obtain ⟨-, hended⟩ := h
  cases step with
  | finished s earlier =>
    cases hended
    simp [finish, Session.terminate, live]

/-- **A session keeps to its retry policy.** Whatever happened to it since it was routed, as long
as it was not destroyed: it ends with a failed destination exactly when an established destination
of a cluster that is not retriable ends, or when an episode opens whose kind has no budget. It ends
with exhausted retries exactly at the failure after the last retry of an episode whose kind has a
budget. It ends with a closed source exactly when a source ends that is not replaced. Every other
failure costs one retry and is followed by one more try: a counted call into the same cluster, at
once or when there is a new source. -/
theorem follows_policy {s : Session} {b : Binding} {hook : Bool} {history : List Signal}
    {x : Signal} {r next : Running} (live : s.isTerminated = false)
    (sofar : (begin s hook (.ok b)).Follows history r) (step : r.Step x next)
    (undestroyed : .destroyed ∉ history ++ [x]) :
    let policy := b.route.retry
    let reacquires := policy.reacquires hook
    let failures := episode reacquires (history ++ [x])
    (∀ reason, r.Ends next (.destinationFailed reason) ↔
      (∃ now, x = .destinationEnded false reason now) ∨
        ∃ kind, x.failure? reacquires = some (kind, reason) ∧ failures = [kind] ∧
          policy.budget kind = 0) ∧
    (∀ attempts reason, r.Ends next (.retryExhausted attempts reason) ↔
      ∃ kind opening, x.failure? reacquires = some (kind, reason) ∧
        failures.head? = some opening ∧ policy.budget opening ≠ 0 ∧
        failures.length = policy.retries + 1 ∧ attempts = policy.retries) ∧
    (∀ attempts reason, r.Ends next (.retryExhausted attempts reason) → 1 ≤ attempts) ∧
    (r.Ends next .sourceClosed ↔
      (∃ reason now, x = .sourceEnded reason now) ∧
        (hook = false ∨ policy.budget .disconnect = 0)) ∧
    (r.Ends next .sourceClosed → next.session = r.session) ∧
    ((x.failure? reacquires).isSome → (∀ outcome, ¬ r.Ends next outcome) →
      r.TriesAgain next x.retried failures.length) ∧
    (∀ outcome, r.Ends next outcome →
      (outcome = .sourceClosed ∨ (∃ reason, outcome = .destinationFailed reason) ∨
        ∃ attempts reason, outcome = .retryExhausted attempts reason) ∧
      ∀ final, next.Step .finished final →
        final.session.state = .terminated ∧ final.session.outcome = some outcome) := by
  rw [List.mem_append, not_or] at undestroyed
  have hx : x ≠ .destroyed := fun h => undestroyed.2 (List.mem_singleton.mpr h.symm)
  have hverdict := (sofar.onCourse live undestroyed.1).verdict step hx
  intro policy reacquires failures
  have hfailures : failures = x.extend reacquires (episode reacquires history) :=
    episode_concat reacquires history x
  rw [hfailures]
  refine ⟨hverdict.destinationFailed_iff, hverdict.retryExhausted_iff, ?_,
    hverdict.sourceClosed_iff, ?_, hverdict.triesAgain, ?_⟩
  · intro attempts reason ends
    -- a budget that is not empty is the number of retries
    obtain ⟨kind, opening, -, -, hbudget, -, rfl⟩ :=
      (hverdict.retryExhausted_iff attempts reason).mp ends
    have hretries := RetryPolicy.budget_eq_retries hbudget
    omega
  · exact hverdict.session_of_ends
  · intro outcome ends
    refine ⟨hverdict.outcome_cases ends, fun final hfinal => ends.finished ?_ hfinal⟩
    rw [hverdict.session_of_ends ends]
    exact ends.1.1

/-- A binding to a route that retries once. -/
def onceRetried : Binding where
  route := ⟨"web", .registered "backend", [], ⟨.always, 1, 5⟩⟩
  cluster := 0
  metadata := .null

/-- A session so bound. -/
def routedOnce : Session :=
  { Session.create ⟨0⟩ "s" "main" .null with
    state := .routed
    route := some onceRetried.route
    connectAttempts := 1 }

/-- The source of a connected session closes. A new one is asked for and had, and the cluster
refuses the only retry. -/
theorem follows_policy_onceRetried :
    ∃ piping waiting r next : Running,
      (begin (.create ⟨0⟩ "s" "main" .null) true (.ok onceRetried)).Follows [.connected 0] piping ∧
      piping.Step (.sourceEnded "source closed" 3) waiting ∧
      piping.TriesAgain waiting .reacquire 1 ∧
      waiting.Follows [.delayOver, .reacquired] r ∧ r.session.connectAttempts = 2 ∧
      r.Step (.refused "down") next ∧ r.Ends next (.retryExhausted 1 "down") := by
  have hpiping : (begin (.create ⟨0⟩ "s" "main" .null) true (.ok onceRetried)).Follows
      [.connected 0] ⟨{ routedOnce with state := .connected },
        .piping (onceRetried.connector true []) 0⟩ :=
    Follows.start.signal (.connected routedOnce (onceRetried.connector true []) 0)
  have hwaiting := Step.sourceEnded { routedOnce with state := .connected }
    (onceRetried.connector true []) 0 3 true "source closed"
  have hrefused := ((hpiping.signal hwaiting).signal (.delayOver ..)).signal (.reacquired ..)
  have hagain := (follows_policy rfl hpiping hwaiting (by simp)).2.2.2.2.2.1 rfl
    (fun outcome hends => nomatch hends.2)
  have hends := (follows_policy rfl hrefused (.refused _ _ "down") (by simp)).2.1 1 "down"
  exact ⟨_, _, _, _, hpiping, hwaiting, hagain,
    (Follows.start.signal (.delayOver ..)).signal (.reacquired ..), rfl, .refused ..,
    hends.mpr ⟨.connect, .disconnect, rfl, rfl, by decide, rfl, rfl⟩⟩

end Running

end Switchboard

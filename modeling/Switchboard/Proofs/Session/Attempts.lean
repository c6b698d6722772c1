/-
What a session counts.

A session counts its calls into the cluster and its reconnects, and keeps no list of what happened to
it. What it counts is compared with its signals: each episode of failures that a connect closes is
one reconnect, each retry pays for one call at most, and the budget of retries is refilled once an
episode.

* `Ledger`: connects and closed episodes, from the signals alone;
* `Accounts`: what a session has counted at each of its tasks, and what it may still spend;
* `Accounts.step`: every signal keeps the accounts;
* `attempts_accounted`: **connects, reconnects and attempts at every point of every session**.
-/
import Switchboard.Proofs.Session.Episode

namespace Switchboard

/-! ### Budgets -/

namespace RetryPolicy

variable {policy : RetryPolicy}

/-- The most retries that an episode may have, whatever opens it. -/
def most (policy : RetryPolicy) : Nat := max (policy.budget .connect) (policy.budget .disconnect)

theorem budget_le_most (policy : RetryPolicy) (kind : FailureKind) :
    policy.budget kind ≤ policy.most := by
  cases kind with
  | connect => exact Nat.le_max_left _ _
  | disconnect => exact Nat.le_max_right _ _

theorem most_le_retries (policy : RetryPolicy) : policy.most ≤ policy.retries := by
  have hbudget (kind : FailureKind) : policy.budget kind ≤ policy.retries := by
    unfold budget
    split <;> simp
  exact Nat.max_le.mpr ⟨hbudget _, hbudget _⟩

theorem most_of_never (h : policy.retryOn = .never) : policy.most = 0 := by
  simp [most, budget, h]

end RetryPolicy

/-! ### Signals -/

/-- What the signals of a session amount to. -/
structure Ledger where
  /-- Successful connects. -/
  connects : Nat
  /-- Episodes of failures that a successful connect closed. -/
  closed : Nat
  /-- Whether something has failed since the last successful connect, or else since the start. -/
  broken : Bool

namespace Ledger

def empty : Ledger := ⟨0, 0, false⟩

/-- One more signal. -/
def add (l : Ledger) : Signal → Ledger
  | .connected _ => ⟨l.connects + 1, if l.broken then l.closed + 1 else l.closed, false⟩
  | .refused _ | .sourceEnded _ _ | .destinationEnded _ _ _ | .notReacquired _ =>
    { l with broken := true }
  | _ => l

/-- The ledger of a history of signals. -/
def ofHistory (history : List Signal) : Ledger := history.foldl add empty

theorem ofHistory_concat (history : List Signal) (x : Signal) :
    ofHistory (history ++ [x]) = (ofHistory history).add x := by
  rw [ofHistory, List.foldl_append]
  rfl

end Ledger

/-! ### Accounts -/

namespace Running

/-- What was counted by a session that is bound to `route`. -/
structure Balanced (l : Ledger) (route : Option Route) (attempts reconnects : Nat) : Prop where
  closed : reconnects = l.closed
  least : l.closed ≤ l.connects
  most : l.connects ≤ l.closed + 1
  bounded : ∀ r, route = some r → attempts ≤ 1 + r.retry.most * (l.closed + 1)
  unrouted : route = none → attempts = 0

/-- Every attempt is the first, was a retry of an episode that is closed, or is one of the present
episode. -/
structure Spends (l : Ledger) (route : Option Route) (attempts : Nat) (c : Connector) : Prop where
  policy : ∃ r, route = some r ∧ r.retry = c.policy
  broken : c.episode.isSome = l.broken
  granted : c.retries ≤ c.policy.most
  unspent : c.episode = none → c.retries = 0
  spent : attempts ≤ 1 + c.policy.most * l.closed + c.retries

/-- What a session has counted when `l` has happened to it. While it waits, it owes an attempt for
the retry that it has spent. -/
inductive Accounts (l : Ledger) : Running → Prop
  | starting {s : Session} (live : s.isTerminated = false) (nothing : l = .empty)
      (unrouted : s.route = none) (balanced : Balanced l s.route s.connectAttempts s.reconnects) :
      Accounts l ⟨s, .starting⟩
  | connecting {s : Session} {c : Connector} (live : s.isTerminated = false)
      (balanced : Balanced l s.route s.connectAttempts s.reconnects)
      (spends : Spends l s.route s.connectAttempts c)
      (first : l.broken = false → l.connects = l.closed) : Accounts l ⟨s, .connecting c⟩
  | piping {s : Session} {c : Connector} (since : Nat) (live : s.isTerminated = false)
      (balanced : Balanced l s.route s.connectAttempts s.reconnects)
      (spends : Spends l s.route s.connectAttempts c) : Accounts l ⟨s, .piping c since⟩
  | waiting {s : Session} {c : Connector} (delay : Nat) (next : Next)
      (live : s.isTerminated = false)
      (balanced : Balanced l s.route s.connectAttempts s.reconnects)
      (spends : Spends l s.route (s.connectAttempts + 1) c) (broken : l.broken = true) :
      Accounts l ⟨s, .waiting c delay next⟩
  | reacquiring {s : Session} {c : Connector} (live : s.isTerminated = false)
      (balanced : Balanced l s.route s.connectAttempts s.reconnects)
      (spends : Spends l s.route (s.connectAttempts + 1) c) (broken : l.broken = true) :
      Accounts l ⟨s, .reacquiring c⟩
  | ended {s : Session} {task : Task} (started : task ≠ .starting) (idle : task.connector? = none)
      (balanced : Balanced l s.route s.connectAttempts s.reconnects) : Accounts l ⟨s, task⟩

variable {l : Ledger} {s : Session} {c : Connector} {r next : Running} {x : Signal}

theorem Accounts.balanced (h : Accounts l r) :
    Balanced l r.session.route r.session.connectAttempts r.session.reconnects := by
  cases h <;> assumption

/-- What is called for is within the bound. -/
theorem Spends.le {route : Option Route} {attempts : Nat} (h : Spends l route attempts c) :
    ∀ r, route = some r → attempts ≤ 1 + r.retry.most * (l.closed + 1) := by
  intro r hroute
  obtain ⟨bound, hbound, hpolicy⟩ := h.policy
  rw [hroute] at hbound
  cases hbound
  have hattempts := h.spent
  have hgranted := h.granted
  rw [hpolicy, Nat.mul_succ]
  omega

theorem Spends.routed {route : Option Route} {attempts : Nat} (h : Spends l route attempts c) :
    route ≠ none := by
  obtain ⟨r, hroute, -⟩ := h.policy
  simp [hroute]

/-- A retry that came to nothing leaves no attempt to be owed. -/
theorem Spends.waive {route : Option Route} {attempts : Nat} (h : Spends l route (attempts + 1) c) :
    Spends l route attempts c :=
  { h with spent := Nat.le_of_succ_le h.spent }

theorem Balanced.terminate (h : Balanced l s.route s.connectAttempts s.reconnects)
    (outcome : Outcome) :
    Balanced l (s.terminate outcome).route (s.terminate outcome).connectAttempts
      (s.terminate outcome).reconnects := by
  unfold Session.terminate
  split <;> exact h

/-- A failure that ends the session changes none of its counts. -/
theorem Accounts.fail (balanced : Balanced l s.route s.connectAttempts s.reconnects)
    (outcome : Outcome) : Accounts { l with broken := true } ⟨s, .ended outcome⟩ :=
  .ended (by simp) rfl { balanced with }

/-- A call pays for what was owed. -/
theorem Accounts.call (live : s.isTerminated = false)
    (balanced : Balanced l s.route s.connectAttempts s.reconnects)
    (spends : Spends l s.route (s.connectAttempts + 1) c)
    (first : l.broken = false → l.connects = l.closed) : Accounts l (call s c) := by
  exact .connecting live
    { balanced with bounded := spends.le, unrouted := fun h => absurd h spends.routed } spends first

/-- A failure spends a retry that the policy grants, or ends the session. -/
theorem Accounts.retry (live : s.isTerminated = false)
    (balanced : Balanced l s.route s.connectAttempts s.reconnects)
    (spends : Spends l s.route s.connectAttempts c) (failure : FailureKind) (reason : String)
    (elapsed : Option Nat) (again : Next) :
    Accounts { l with broken := true } (retry s c failure reason elapsed again) := by
  unfold Running.retry
  dsimp only
  split
  · exact .fail balanced _
  · split
    · exact .fail balanced _
    · next hbudget hleft =>
      rw [advance_of_live live]
      have hmost := c.policy.budget_le_most (c.episode.getD failure)
      refine .waiting _ _ rfl { balanced with } ⟨spends.policy, rfl, ?_, by simp, ?_⟩ rfl
      · show c.retries + 1 ≤ c.policy.most
        omega
      · show s.connectAttempts + 1 ≤ 1 + c.policy.most * l.closed + (c.retries + 1)
        have := spends.spent
        omega

/-- A connect closes the episode that was open, and the next one has a budget of its own. -/
theorem Accounts.connected (live : s.isTerminated = false)
    (balanced : Balanced l s.route s.connectAttempts s.reconnects)
    (spends : Spends l s.route s.connectAttempts c)
    (first : l.broken = false → l.connects = l.closed) (now : Nat) :
    Accounts (l.add (.connected now)) (connected s c now) := by
  have hspent := spends.spent
  have hgranted := spends.granted
  have hspends : Spends (l.add (.connected now)) s.route s.connectAttempts
      { c with episode := none, retries := 0 } := by
    refine ⟨spends.policy, rfl, Nat.zero_le _, fun _ => rfl, ?_⟩
    cases hbroken : l.broken with
    | false =>
      have hunspent : c.retries = 0 := spends.unspent (by simpa [hbroken] using spends.broken)
      simp only [Ledger.add, hbroken, Bool.false_eq_true, if_false]
      omega
    | true =>
      simp only [Ledger.add, hbroken, if_true, Nat.mul_succ]
      omega
  have hconnects : (l.add (.connected now)).closed ≤ l.connects + 1 ∧
      l.connects + 1 ≤ (l.add (.connected now)).closed + 1 := by
    have hleast := balanced.least
    have hmost := balanced.most
    cases hbroken : l.broken with
    | false =>
      -- this is the first connect, and nothing has failed before
      have hfirst := first hbroken
      simp only [Ledger.add, hbroken, Bool.false_eq_true, if_false]
      omega
    | true =>
      simp only [Ledger.add, hbroken, if_true]
      omega
  rw [Running.connected, advance_of_live live]
  refine .piping now rfl ⟨?_, hconnects.1, hconnects.2, hspends.le,
    fun h => absurd h spends.routed⟩ hspends
  show (if c.episode.isSome then s.reconnects + 1 else s.reconnects) =
    if l.broken then l.closed + 1 else l.closed
  rw [spends.broken, balanced.closed]

/-- Every signal keeps the accounts. -/
theorem Accounts.step (h : Accounts l r) (step : r.Step x next) : Accounts (l.add x) next := by
  cases step with
  | bound s hook binding =>
    cases h with
    | starting live nothing unrouted balanced =>
      cases binding with
      | error outcome => exact .ended (by simp) rfl balanced
      | ok b =>
        have hlive : { s with metadata := b.metadata, route := some b.route }.isTerminated = false :=
          live
        have hattempts : s.connectAttempts = 0 := balanced.unrouted unrouted
        rw [begin, advance_of_live hlive]
        subst nothing
        refine .call rfl { balanced with bounded := fun r _ => ?_, unrouted := fun _ => hattempts }
          ⟨⟨b.route, rfl, rfl⟩, rfl, Nat.zero_le _, fun _ => rfl, ?_⟩ fun _ => rfl
        · exact Nat.le_trans (Nat.le_of_eq hattempts) (Nat.zero_le _)
        · exact Nat.le_trans (Nat.succ_le_succ (Nat.le_of_eq hattempts)) (Nat.le_add_right 1 _)
    | ended started => exact absurd rfl started
  | connected s c now =>
    cases h with
    | connecting live balanced spends first => exact .connected live balanced spends first now
    | ended _ idle => cases idle
  | refused s c reason =>
    cases h with
    | connecting live balanced spends first => exact .retry live balanced spends _ _ _ _
    | ended _ idle => cases idle
  | forwarded s c since bytesIn bytesOut =>
    cases h with
    | piping _ live balanced spends => exact .piping since live balanced spends
    | ended _ idle => cases idle
  | sourceEnded s c since now retriable reason =>
    cases h with
    | piping _ live balanced spends =>
      rw [pipeEnded]
      split
      · exact .retry live balanced spends _ _ _ _
      · exact .fail balanced _
    | ended _ idle => cases idle
  | destinationEnded s c since now retriable reason =>
    cases h with
    | piping _ live balanced spends =>
      rw [pipeEnded]
      split
      · exact .retry live balanced spends _ _ _ _
      · exact .fail balanced _
    | ended _ idle => cases idle
  | delayOver s c delay next =>
    cases h with
    | waiting _ _ live balanced spends broken =>
      cases next with
      | connect => exact .call live balanced spends (by simp [Ledger.add, broken])
      | reacquire => exact .reacquiring live balanced spends broken
    | ended _ idle => cases idle
  | reacquired s c =>
    cases h with
    | reacquiring live balanced spends broken =>
      exact .call live balanced spends (by simp [Ledger.add, broken])
    | ended _ idle => cases idle
  | notReacquired s c reason =>
    cases h with
    | reacquiring live balanced spends broken =>
      exact .retry live balanced spends.waive _ _ _ _
    | ended _ idle => cases idle
  | edited s task metadata =>
    cases h with
    | starting live nothing unrouted balanced => exact .starting live nothing unrouted balanced
    | connecting live balanced spends first => exact .connecting live balanced spends first
    | piping since live balanced spends => exact .piping since live balanced spends
    | waiting delay next live balanced spends broken =>
      exact .waiting delay next live balanced spends broken
    | reacquiring live balanced spends broken => exact .reacquiring live balanced spends broken
    | ended started idle balanced => exact .ended started idle balanced
  | finished s outcome => exact .ended (by simp) rfl (h.balanced.terminate outcome)
  | left s => exact .ended (by simp) rfl h.balanced
  | destroyed => exact .ended (by simp) rfl (h.balanced.terminate .destroyed)

/-! ### All signals -/

theorem accounts_ofSession (number : SessionId) (name ruleList : String) (metadata : Json) :
    Accounts .empty (ofSession (.create number name ruleList metadata)) :=
  .starting rfl rfl rfl ⟨rfl, Nat.le_refl _, Nat.zero_le _, fun _ _ => Nat.zero_le _, fun _ => rfl⟩

theorem Follows.accounts {history : List Signal} (h : r.Follows history next)
    (hr : Accounts .empty r) : Accounts (.ofHistory history) next := by
  induction h with
  | start => exact hr
  | signal _ step ih =>
    rw [Ledger.ofHistory_concat]
    exact ih.step step

/-- **What a session counts.** Whatever happens to a session from its creation on, it has counted one
reconnect for each episode of failures that a connect closed, there were as many connects or one
more, and its attempts are within the budget of its policy: one, and the retries once for each
episode that is closed and once more. With a policy that never retries there is one attempt at most,
and without a route there is none. -/
theorem attempts_accounted {number : SessionId} {name ruleList : String} {metadata : Json}
    {history : List Signal} {r : Running}
    (h : (ofSession (.create number name ruleList metadata)).Follows history r) :
    let s := r.session
    let ledger := Ledger.ofHistory history
    s.reconnects = ledger.closed ∧
    s.reconnects ≤ ledger.connects ∧ ledger.connects ≤ s.reconnects + 1 ∧
    (∀ route, s.route = some route →
      s.connectAttempts ≤ 1 + route.retry.retries * (s.reconnects + 1) ∧
      (route.retry.retryOn = .never → s.connectAttempts ≤ 1)) ∧
    (s.route = none → s.connectAttempts = 0) := by
  intro s ledger
  have hbalanced := (h.accounts (accounts_ofSession number name ruleList metadata)).balanced
  have hclosed : s.reconnects = ledger.closed := hbalanced.closed
  refine ⟨hclosed, hclosed ▸ hbalanced.least, hclosed ▸ hbalanced.most, fun route hroute => ⟨?_, ?_⟩,
    hbalanced.unrouted⟩
  · calc s.connectAttempts
        ≤ 1 + route.retry.most * (ledger.closed + 1) := hbalanced.bounded route hroute
      _ ≤ 1 + route.retry.retries * (s.reconnects + 1) := by
        rw [hclosed]
        exact Nat.add_le_add_left (Nat.mul_le_mul_right _ route.retry.most_le_retries) 1
  · intro hnever
    simpa [RetryPolicy.most_of_never hnever] using hbalanced.bounded route hroute

/-- The first connect closes an episode, and in the next episode the budget is used up. -/
theorem attempts_accounted_tight :
    ∃ r, (ofSession (.create ⟨0⟩ "s" "main" .null)).Follows
        [.bound false (.ok onceRetried), .refused "down", .delayOver, .connected 0,
          .destinationEnded true "destination closed" 3, .delayOver] r ∧
      r.session.reconnects = 1 ∧ r.session.connectAttempts = 3 ∧
      r.session.connectAttempts ≤ 1 + onceRetried.route.retry.retries * (r.session.reconnects + 1) := by
  have hbound := Follows.start.signal (.bound (.create ⟨0⟩ "s" "main" .null) false (.ok onceRetried))
  have hrefused := hbound.signal (.refused _ _ "down")
  have hconnected := (hrefused.signal (.delayOver _ _ _ _)).signal (.connected _ _ 0)
  have hended := hconnected.signal (.destinationEnded _ _ _ 3 true "destination closed")
  have h := hended.signal (.delayOver _ _ _ _)
  exact ⟨_, h, rfl, rfl, ((attempts_accounted h).2.2.2.1 onceRetried.route rfl).1⟩

end Running

end Switchboard

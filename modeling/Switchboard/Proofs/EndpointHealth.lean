/-
What a cluster remembers of its endpoints.

A call goes through the endpoints in turn and marks those that it tries. The mark of an address is
kept by the first endpoint that has it, so that endpoint always tells how the last connect with the
address ended, and how many have failed in a row, whichever endpoints the connects were made for.

* `attemptsOn`: how the connects with an address ended;
* `failuresInRow`: how many of the last of them have failed;
* `DescribedBy`: an endpoint that agrees with them;
* `tells_runTrials`: every endpoint that is the first with its address does;
* `run_health`: what one call does, and what is remembered after any calls.
-/
import Switchboard.Proofs.Cluster.Trials

namespace Switchboard

namespace Endpoints

variable {σ ε : Type}

/-- How the connects with an address ended. -/
def attemptsOn (address : String) (log : Log) : List Bool :=
  (log.filter fun made => made.1.address = address).map (·.2)

/-- The number of failures since the last success. -/
def failuresInRow (attempts : List Bool) : Nat :=
  (attempts.reverse.takeWhile fun success => !success).length

/-- The first endpoint with an address. -/
def first? (list : List Endpoint) (address : String) : Option Endpoint :=
  list.find? fun e => e.address = address

/-- An endpoint agrees with what became of the connects with its address. -/
structure DescribedBy (e : Endpoint) (attempts : List Bool) : Prop where
  unknown_iff : e.health = .unknown ↔ attempts = []
  healthy_iff : e.health = .healthy ↔ attempts.getLast? = some true
  unhealthy_iff : e.health = .unhealthy ↔ attempts.getLast? = some false
  /-- Failures are counted in 32 bits. -/
  failures_eq : e.failures = failuresInRow attempts % UInt32.size

/-- The first endpoint of each address agrees with a log. -/
def Tells (list : List Endpoint) (log : Log) : Prop :=
  ∀ address e, first? list address = some e → DescribedBy e (attemptsOn address log)

/-! ### One mark -/

theorem failuresInRow_concat (attempts : List Bool) (success : Bool) :
    failuresInRow (attempts ++ [success]) = if success then 0 else failuresInRow attempts + 1 := by
  rw [failuresInRow, List.reverse_append, List.reverse_singleton, List.singleton_append]
  cases success with
  | true => rfl
  | false => rfl

/-- The count is exact as long as it fits. -/
theorem DescribedBy.failures_eq_of_lt {e : Endpoint} {attempts : List Bool}
    (h : DescribedBy e attempts) (fits : failuresInRow attempts < UInt32.size) :
    e.failures = failuresInRow attempts :=
  h.failures_eq.trans (Nat.mod_eq_of_lt fits)

theorem describedBy_fresh (address : String) : DescribedBy (.fresh address) [] where
  unknown_iff := ⟨fun _ => rfl, fun _ => rfl⟩
  healthy_iff := by simp [Endpoint.fresh]
  unhealthy_iff := by simp [Endpoint.fresh]
  failures_eq := rfl

theorem DescribedBy.marked {e : Endpoint} {attempts : List Bool} (h : DescribedBy e attempts)
    (success : Bool) (now : Nat) :
    DescribedBy (e.marked success now) (attempts ++ [success]) where
  unknown_iff := by cases success <;> simp [Endpoint.marked]
  healthy_iff := by cases success <;> simp [Endpoint.marked]
  unhealthy_iff := by cases success <;> simp [Endpoint.marked]
  failures_eq := by
    rw [failuresInRow_concat]
    cases success with
    | true => rfl
    | false =>
      -- the run of failures goes on
      calc (e.failures + 1) % UInt32.size
          = (failuresInRow attempts % UInt32.size + 1) % UInt32.size := by rw [h.failures_eq]
        _ = (failuresInRow attempts + 1) % UInt32.size := Nat.mod_add_mod ..

/-- A mark is kept by the first endpoint with the address. -/
theorem first?_mark (list : List Endpoint) (address other : String) (success : Bool) (now : Nat) :
    first? (mark address success now list) other =
      if address = other then (first? list other).map (·.marked success now)
      else first? list other := by
  induction list with
  | nil =>
    split
    · rfl
    · rfl
  | cons e rest ih =>
    rw [mark, first?, first?]
    by_cases hmarked : e.address = address
    · rw [if_pos hmarked]
      by_cases hsame : address = other
      · rw [if_pos hsame, List.find?_cons_of_pos (by simp [hmarked, hsame]),
          List.find?_cons_of_pos (by simp [hmarked, hsame])]
        rfl
      · have hother : ¬ e.address = other := fun h => hsame (hmarked.symm.trans h)
        rw [if_neg hsame, List.find?_cons_of_neg (by simpa using hother),
          List.find?_cons_of_neg (by simpa using hother)]
    · rw [if_neg hmarked]
      by_cases hother : e.address = other
      · have hsame : ¬ address = other := fun h => hmarked (hother.trans h.symm)
        rw [if_neg hsame, List.find?_cons_of_pos (by simpa using hother),
          List.find?_cons_of_pos (by simpa using hother)]
      · rw [List.find?_cons_of_neg (by simpa using hother),
          List.find?_cons_of_neg (by simpa using hother)]
        exact ih

theorem Tells.mark {list : List Endpoint} {log : Log} (h : Tells list log) (entry : Entry)
    (success : Bool) (now : Nat) :
    Tells (mark entry.address success now list) (log ++ [(entry, success)]) := by
  intro address e hfirst
  rw [first?_mark] at hfirst
  have hlog : attemptsOn address (log ++ [(entry, success)])
      = attemptsOn address log ++ if entry.address = address then [success] else [] := by
    rw [attemptsOn, List.filter_append, List.map_append]
    by_cases hsame : entry.address = address
    · simp [attemptsOn, hsame]
    · simp [attemptsOn, hsame]
  rw [hlog]
  by_cases hsame : entry.address = address
  · rw [if_pos hsame] at hfirst ⊢
    obtain ⟨before, hbefore, rfl⟩ := Option.map_eq_some_iff.mp hfirst
    exact (h address before hbefore).marked success now
  · rw [if_neg hsame] at hfirst ⊢
    rw [List.append_nil]
    exact h address e hfirst

/-! ### All calls -/

theorem tells_fresh (addresses : List String) : Tells (fresh addresses).list [] := by
  intro address e hfirst
  obtain ⟨own, -, rfl⟩ := List.mem_map.mp (List.mem_of_find?_eq_some hfirst)
  exact describedBy_fresh own

theorem Tells.markAll {list : List Endpoint} {log : Log} (h : Tells list log) (now : Nat)
    (more : Log) : Tells (markAll now list more) (log ++ more) := by
  induction more generalizing list log with
  | nil => rwa [List.append_nil]
  | cons made rest ih =>
    have hrest := ih (h.mark made.1 made.2 now)
    rwa [List.append_assoc] at hrest

/-- The connects that some trials made. -/
def history (trials : List (Trial σ ε)) (es : Endpoints) : Log :=
  (courses trials es).flatMap Course.log

theorem tells_runTrials {es : Endpoints} {log : Log} (h : Tells es.list log)
    (trials : List (Trial σ ε)) : Tells (runTrials trials es).list (log ++ history trials es) := by
  induction trials generalizing es log with
  | nil => rwa [history, courses, List.flatMap_nil, List.append_nil]
  | cons trial rest ih =>
    rw [history, courses, List.flatMap_cons, ← List.append_assoc]
    refine ih ?_
    rw [list_course]
    exact h.markAll trial.now _

theorem attempted_runTrials (trials : List (Trial σ ε)) (es : Endpoints) :
    (runTrials trials es).attempted = es.attempted + trials.length := by
  induction trials generalizing es with
  | nil => rfl
  | cons trial rest ih =>
    calc (runTrials (trial :: rest) es).attempted
        = (es.course trial).after.attempted + rest.length := ih _
      _ = es.attempted + 1 + rest.length := rfl
      _ = es.attempted + (rest.length + 1) := by omega

theorem succeeded_runTrials (trials : List (Trial σ ε)) (es : Endpoints) :
    (runTrials trials es).succeeded
      = es.succeeded + (courses trials es).countP fun course => course.answer.isOk := by
  induction trials generalizing es with
  | nil => rfl
  | cons trial rest ih =>
    have hone : (es.course trial).after.succeeded
        = es.succeeded + if (es.course trial).answer.isOk then 1 else 0 := by
      change (if (es.course trial).answer.isOk then es.succeeded + 1 else es.succeeded) = _
      split
      · rfl
      · rfl
    calc (runTrials (trial :: rest) es).succeeded
        = (es.course trial).after.succeeded
            + (courses rest (es.course trial).after).countP (·.answer.isOk) := ih _
      _ = _ := by rw [hone, courses, List.countP_cons]; omega

/-- **Calls go through the endpoints in turn, and are remembered.** In any state of a cluster, a
call tries its candidates one by one up to the first that accepts, and succeeds exactly if one of
them does, whatever each endpoint answers. After any calls, the first endpoint with an address
tells how the last connect with that address ended, if there was one, and how many have failed in a
row, in a count of 32 bits that is exact as long as it fits. The counters tell how many calls there
were and how many have succeeded. The calls of a cluster are those in which endpoints of one address
answer alike. -/
theorem run_health (es : Endpoints) (trial : Trial σ ε) (addresses : List String)
    (trials : List (Trial σ ε)) :
    let after := runTrials trials (fresh addresses)
    es.GoesInTurn trial ∧
      after.list.map Endpoint.address = addresses ∧
      (∀ address ∈ addresses, ∃ e, first? after.list address = some e ∧
        let attempts := attemptsOn address (history trials (fresh addresses))
        DescribedBy e attempts ∧
          (failuresInRow attempts < UInt32.size → e.failures = failuresInRow attempts)) ∧
      after.attempted = trials.length ∧
      after.succeeded
        = (courses trials (fresh addresses)).countP (fun course => course.answer.isOk) ∧
      (∀ call : Call σ ε, es.answer call = (es.course call.trial).answer ∧
        es.after call = (es.course call.trial).after) ∧
      ∀ calls : List (Call σ ε), run calls es = runTrials (calls.map Call.trial) es := by
  have haddresses : (runTrials trials (fresh addresses)).list.map Endpoint.address = addresses :=
    (map_address_runTrials trials _).trans (map_address_fresh addresses)
  refine ⟨es.goesInTurn trial, haddresses, ?_, ?_, ?_, ?_, ?_⟩
  · intro address haddress
    rw [← haddresses] at haddress
    obtain ⟨e, he, howner⟩ := List.mem_map.mp haddress
    have hsome : (first? (runTrials trials (fresh addresses)).list address).isSome = true :=
      List.find?_isSome.mpr ⟨e, he, by simpa using howner⟩
    obtain ⟨owner, hfirst⟩ := Option.isSome_iff_exists.mp hsome
    have htold := tells_runTrials (tells_fresh addresses) trials address owner hfirst
    exact ⟨owner, hfirst, htold, htold.failures_eq_of_lt⟩
  · rw [attempted_runTrials]
    exact Nat.zero_add _
  · rw [succeeded_runTrials]
    exact Nat.zero_add _
  · intro call
    have hcall := connect_eq_course es call
    exact ⟨congrArg Prod.fst hcall, congrArg Prod.snd hcall⟩
  · exact fun calls => run_eq_runTrials calls es

/-- A trial in which only the endpoint at one place accepts. -/
def acceptsAt (place : Nat) : Trial Nat Unit :=
  ⟨fun entry => if entry.place = place then .ok place else .error (), 0⟩

/-- Two endpoints share an address. After a call in which all three fail, the second is still
eligible, and what it gives to the next call is noted with the first. -/
theorem run_health_shared :
    let after := runTrials [acceptsAt 3, acceptsAt 1] (fresh ["a", "a", "b"])
    (∃ e, first? after.list "a" = some e ∧ DescribedBy e [false, false, true] ∧ e.failures = 0) ∧
      (∃ e, first? after.list "b" = some e ∧ DescribedBy e [false] ∧ e.failures = 1) ∧
      after.attempted = 2 ∧ after.succeeded = 1 := by
  obtain ⟨-, -, htold, hattempted, hsucceeded, -⟩ :=
    run_health (fresh []) (acceptsAt 0) ["a", "a", "b"] [acceptsAt 3, acceptsAt 1]
  obtain ⟨a, ha, haTold, haExact⟩ := htold "a" (by decide)
  obtain ⟨b, hb, hbTold, hbExact⟩ := htold "b" (by decide)
  exact ⟨⟨a, ha, haTold, haExact (by decide)⟩, ⟨b, hb, hbTold, hbExact (by decide)⟩, hattempted,
    hsucceeded⟩

end Endpoints

end Switchboard

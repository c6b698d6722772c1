/-
Failover between the endpoints of a cluster.

A call passes over endpoints whose last connect failed as long as there are others. So it succeeds
if one of the others accepts, whatever happened before, but an endpoint that has come back may be
missed by one call. That call fails with all that it tries, and the next one tries every endpoint.

* `run_failover`: when a call succeeds, after any calls before;
* `not_isOk_of_accepts`: an endpoint that accepts is not enough.
-/
import Switchboard.Proofs.Cluster.Endpoints

namespace Switchboard

namespace Endpoints

variable {σ ε : Type}

/-- A call reaches the endpoints of some addresses: it gives a connection to one that accepts. -/
def Reaches (es : Endpoints) (call : Call σ ε) (addresses : List String) : Prop :=
  ∃ address ∈ addresses, ∃ connection,
    call.dial address = .ok connection ∧ es.answer call = .ok connection

/-- A call that succeeds reaches one of the endpoints. -/
theorem reaches_iff {es : Endpoints} {call : Call σ ε} :
    es.Reaches call (es.list.map Endpoint.address) ↔
      ∃ e, es.Tries e ∧ (call.dial e.address).isOk = true := by
  constructor
  · rintro ⟨-, -, connection, -, hanswer⟩
    exact isOk_connect_iff.mp (congrArg Except.isOk hanswer)
  · intro h
    have hok : (es.answer call).isOk = true := isOk_connect_iff.mpr h
    cases hanswer : es.answer call with
    | error f =>
      rw [hanswer] at hok
      cases hok
    | ok connection =>
      obtain ⟨e, he, hdial⟩ := exists_of_connect_eq_ok hanswer
      exact ⟨e.address, List.mem_map_of_mem he.1, connection, hdial, hanswer⟩

/-- **Calls reach what they may try.** After any calls, the next one gives a connection to an
endpoint that accepts exactly if an eligible one accepts, or if none is eligible and any accepts.
If no address occurs twice, the call after one that failed tries all endpoints, and so reaches one
whenever any accepts. -/
theorem run_failover (addresses : List String) (calls : List (Call σ ε)) (call : Call σ ε) :
    let es := run calls (fresh addresses)
    (es.Reaches call addresses ↔ ∃ e, es.Tries e ∧ (call.dial e.address).isOk = true) ∧
      (addresses.Nodup → (es.answer call).isOk = false → ∀ next : Call σ ε,
        (es.after call).Reaches next addresses ↔
          ∃ address ∈ addresses, (next.dial address).isOk = true) := by
  intro es
  have haddresses : es.list.map Endpoint.address = addresses := by
    rw [map_address_run, map_address_fresh]
  refine ⟨haddresses ▸ reaches_iff, fun distinct failed next => ?_⟩
  have hafter : (es.after call).list.map Endpoint.address = addresses :=
    (map_address_connect es call.dial call.now).trans haddresses
  have hnone := eligible_eq_false_of_failed (haddresses.symm ▸ distinct) failed
  have hreaches : (es.after call).Reaches next addresses ↔
      ∃ e, (es.after call).Tries e ∧ (next.dial e.address).isOk = true := hafter ▸ reaches_iff
  rw [hreaches]
  constructor
  · rintro ⟨e, ⟨he, -⟩, hok⟩
    exact ⟨e.address, hafter ▸ List.mem_map_of_mem he, hok⟩
  · rintro ⟨address, hmem, hok⟩
    -- no endpoint is eligible any more, so that each of them is tried
    obtain ⟨e, he, rfl⟩ := List.mem_map.mp (hafter ▸ hmem)
    exact ⟨e, ⟨he, .inr hnone⟩, hok⟩

/-- A network in which one address accepts. -/
def only (address : String) : Call String Unit :=
  ⟨fun a => if a = address then .ok a else .error (), 0⟩

/-- The second endpoint takes over from the first, and the first comes back when the second ends:
one call fails, and the next one reaches the first. -/
theorem run_failover_return :
    (run [only "b"] (fresh ["a", "b"])).Reaches (only "b") ["a", "b"] ∧
      ((run [only "b"] (fresh ["a", "b"])).answer (only "a")).isOk = false ∧
      ((run [only "b"] (fresh ["a", "b"])).after (only "a")).Reaches (only "a") ["a", "b"] := by
  obtain ⟨hfirst, -⟩ := run_failover ["a", "b"] [only "b"] (only "b")
  obtain ⟨-, hnext⟩ := run_failover ["a", "b"] [only "b"] (only "a")
  have hfailed : ((run [only "b"] (fresh ["a", "b"])).answer (only "a")).isOk = false := by decide
  refine ⟨hfirst.mpr ⟨⟨"b", .healthy, 0, none⟩, ⟨by decide, .inl rfl⟩, rfl⟩, hfailed, ?_⟩
  exact (hnext (by decide) hfailed (only "a")).mpr ⟨"a", by decide, rfl⟩

/-- An endpoint that accepts is not enough: a call may pass it over for one that it takes to be
alive. -/
theorem not_isOk_of_accepts :
    ¬ ∀ (addresses : List String) (calls : List (Call String Unit)) (call : Call String Unit),
      (∃ address ∈ addresses, (call.dial address).isOk = true) →
      (run calls (fresh addresses)).Reaches call addresses := by
  intro h
  obtain ⟨-, -, connection, -, hanswer⟩ :=
    h ["a", "b"] [only "b"] (only "a") ⟨"a", by decide, rfl⟩
  have hfailed : ((run [only "b"] (fresh ["a", "b"])).answer (only "a")).isOk = false := by decide
  rw [hanswer] at hfailed
  cases hfailed

end Endpoints

end Switchboard

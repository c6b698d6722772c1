/-
Calls into a cluster of endpoints.

A call tries some endpoints in turn up to the first that accepts, and marks those it tried. The
addresses stay what they were.

* `Tries`: the endpoints that the next call may try;
* `isOk_connect_iff`: when a call succeeds;
* `eligible_eq_false_of_failed`: a call that fails leaves no endpoint eligible;
* `run`: the endpoints after some calls.
-/
import Switchboard.Cluster.Endpoints

namespace Switchboard

namespace Endpoints

variable {σ ε : Type} {dial : String → Except ε σ} {now : Nat}

/-! ### Candidates -/

theorem rotateLeft_perm {α : Type} (as : List α) (n : Nat) : (as.rotateLeft n).Perm as := by
  rw [List.rotateLeft]
  split
  · exact .refl _
  · exact List.perm_append_comm.trans (.of_eq (List.take_append_drop _ as))

/-- An endpoint that the next call may try: one that is eligible, or any if none is. -/
def Tries (es : Endpoints) (e : Endpoint) : Prop :=
  e ∈ es.list ∧ (e.eligible = true ∨ ∀ other ∈ es.list, other.eligible = false)

theorem mem_candidates {es : Endpoints} {address : String} :
    address ∈ es.candidates ↔ ∃ e, es.Tries e ∧ e.address = address := by
  have hnone : es.list.filter Endpoint.eligible = [] ↔
      ∀ other ∈ es.list, other.eligible = false := by
    simp [List.filter_eq_nil_iff]
  rw [candidates, (rotateLeft_perm _ _).mem_iff, pool]
  split
  · next hempty =>
    have hall := hnone.mp hempty
    rw [List.mem_map]
    constructor
    · rintro ⟨e, he, haddress⟩
      exact ⟨e, ⟨he, .inr hall⟩, haddress⟩
    · rintro ⟨e, ⟨he, -⟩, haddress⟩
      exact ⟨e, he, haddress⟩
  · next hsome =>
    rw [List.mem_map]
    constructor
    · rintro ⟨e, he, haddress⟩
      obtain ⟨hmem, heligible⟩ := List.mem_filter.mp he
      exact ⟨e, ⟨hmem, .inl heligible⟩, haddress⟩
    · rintro ⟨e, ⟨he, heligible | hall⟩, haddress⟩
      · exact ⟨e, List.mem_filter.mpr ⟨he, heligible⟩, haddress⟩
      · exact absurd (hnone.mpr hall) hsome

/-! ### Trying -/

theorem isOk_tryAll_iff {as : List String} {last : Option ε} {list : List Endpoint} :
    (tryAll dial now as last list).1.isOk = true ↔ ∃ a ∈ as, (dial a).isOk = true := by
  induction as generalizing last list with
  | nil => simp [tryAll, Except.isOk, Except.toBool]
  | cons a rest ih =>
    rw [tryAll]
    cases hdial : dial a with
    | ok connection => simp [hdial, Except.isOk, Except.toBool]
    | error f =>
      rw [ih]
      simp [hdial, Except.isOk, Except.toBool]

/-- A connection comes from one of the addresses that are tried. -/
theorem exists_of_tryAll_eq_ok {as : List String} {last : Option ε} {list : List Endpoint}
    {connection : σ} (h : (tryAll dial now as last list).1 = .ok connection) :
    ∃ a ∈ as, dial a = .ok connection := by
  induction as generalizing last list with
  | nil => cases h
  | cons a rest ih =>
    rw [tryAll] at h
    cases hdial : dial a with
    | ok answer =>
      rw [hdial] at h
      cases h
      exact ⟨a, List.mem_cons_self, hdial⟩
    | error f =>
      rw [hdial] at h
      obtain ⟨b, hb, hanswer⟩ := ih h
      exact ⟨b, List.mem_cons_of_mem _ hb, hanswer⟩

/-! ### Marks -/

@[simp] theorem address_marked (e : Endpoint) (success : Bool) :
    (e.marked success now).address = e.address := by
  cases success <;> rfl

@[simp] theorem map_address_mark (address : String) (success : Bool) (list : List Endpoint) :
    (mark address success now list).map Endpoint.address = list.map Endpoint.address := by
  induction list with
  | nil => rfl
  | cons e rest ih =>
    rw [mark]
    split
    · simp
    · rw [List.map_cons, ih, List.map_cons]

@[simp] theorem map_address_tryAll (as : List String) (last : Option ε) (list : List Endpoint) :
    (tryAll dial now as last list).2.map Endpoint.address = list.map Endpoint.address := by
  induction as generalizing last list with
  | nil => rfl
  | cons a rest ih =>
    rw [tryAll]
    split
    · exact map_address_mark a true list
    · rw [ih, map_address_mark]

/-- An endpoint that is eligible after a failure was so before, and has another address if no
address occurs twice. -/
theorem of_eligible_mark {address : String} {list : List Endpoint}
    (distinct : (list.map Endpoint.address).Nodup) {e : Endpoint}
    (he : e ∈ mark address false now list) (heligible : e.eligible = true) :
    e ∈ list ∧ e.address ≠ address := by
  induction list with
  | nil => cases he
  | cons first rest ih =>
    obtain ⟨hfirst, hrest⟩ := List.nodup_cons.mp distinct
    rw [mark] at he
    split at he
    · next haddress =>
      rcases List.mem_cons.mp he with rfl | he
      · cases heligible
      · refine ⟨List.mem_cons_of_mem _ he, ?_⟩
        rintro rfl
        exact hfirst (haddress ▸ List.mem_map_of_mem he)
    · next haddress =>
      rcases List.mem_cons.mp he with rfl | he
      · exact ⟨List.mem_cons_self, haddress⟩
      · obtain ⟨hmem, hne⟩ := ih hrest he
        exact ⟨List.mem_cons_of_mem _ hmem, hne⟩

/-- An endpoint that is eligible when all tries have failed was so before, and was not tried. -/
theorem of_eligible_tryAll {as : List String} {last : Option ε} {list : List Endpoint}
    (distinct : (list.map Endpoint.address).Nodup)
    (failed : (tryAll dial now as last list).1.isOk = false) {e : Endpoint}
    (he : e ∈ (tryAll dial now as last list).2) (heligible : e.eligible = true) :
    e ∈ list ∧ e.address ∉ as := by
  induction as generalizing last list with
  | nil => exact ⟨he, List.not_mem_nil⟩
  | cons a rest ih =>
    rw [tryAll] at failed he
    cases hdial : dial a with
    | ok connection =>
      rw [hdial] at failed
      cases failed
    | error f =>
      rw [hdial] at failed he
      obtain ⟨hmark, hrest⟩ := ih (by rwa [map_address_mark]) failed he
      obtain ⟨hmem, hne⟩ := of_eligible_mark distinct hmark heligible
      exact ⟨hmem, fun h => (List.mem_cons.mp h).elim hne hrest⟩

/-! ### Calls -/

variable {es : Endpoints}

/-- A call succeeds exactly if an endpoint that it may try accepts. -/
theorem isOk_connect_iff :
    (es.connect dial now).1.isOk = true ↔ ∃ e, es.Tries e ∧ (dial e.address).isOk = true := by
  rw [connect, isOk_tryAll_iff]
  constructor
  · rintro ⟨a, ha, hok⟩
    obtain ⟨e, he, rfl⟩ := mem_candidates.mp ha
    exact ⟨e, he, hok⟩
  · rintro ⟨e, he, hok⟩
    exact ⟨e.address, mem_candidates.mpr ⟨e, he, rfl⟩, hok⟩

/-- The connection of a call comes from an endpoint that it may try. -/
theorem exists_of_connect_eq_ok {connection : σ}
    (h : (es.connect dial now).1 = .ok connection) :
    ∃ e, es.Tries e ∧ dial e.address = .ok connection := by
  obtain ⟨a, ha, hdial⟩ := exists_of_tryAll_eq_ok h
  obtain ⟨e, he, rfl⟩ := mem_candidates.mp ha
  exact ⟨e, he, hdial⟩

@[simp] theorem map_address_connect (es : Endpoints) (dial : String → Except ε σ) (now : Nat) :
    (es.connect dial now).2.list.map Endpoint.address = es.list.map Endpoint.address :=
  map_address_tryAll _ _ _

/-- After a call that failed no endpoint is eligible, if no address occurs twice. -/
theorem eligible_eq_false_of_failed (distinct : (es.list.map Endpoint.address).Nodup)
    (failed : (es.connect dial now).1.isOk = false) :
    ∀ e ∈ (es.connect dial now).2.list, e.eligible = false := by
  intro e he
  cases heligible : e.eligible with
  | false => rfl
  | true =>
    -- the endpoint would have been among the candidates
    obtain ⟨hmem, hnot⟩ := of_eligible_tryAll distinct failed he heligible
    exact absurd (mem_candidates.mpr ⟨e, ⟨hmem, .inl heligible⟩, rfl⟩) hnot

/-! ### Runs -/

/-- A call: what a connect to each address comes to at its time. -/
structure Call (σ ε : Type) where
  dial : String → Except ε σ
  now : Nat

/-- What a call comes to. -/
def answer (es : Endpoints) (call : Call σ ε) : Except (Option ε) σ :=
  (es.connect call.dial call.now).1

/-- The endpoints after a call. -/
def after (es : Endpoints) (call : Call σ ε) : Endpoints := (es.connect call.dial call.now).2

/-- The endpoints after some calls. -/
def run (calls : List (Call σ ε)) (es : Endpoints) : Endpoints := calls.foldl after es

theorem map_address_run (calls : List (Call σ ε)) (es : Endpoints) :
    (run calls es).list.map Endpoint.address = es.list.map Endpoint.address := by
  induction calls generalizing es with
  | nil => rfl
  | cons call rest ih =>
    rw [run, List.foldl_cons]
    exact (ih (es.after call)).trans (map_address_connect es call.dial call.now)

theorem map_address_fresh (addresses : List String) :
    (fresh addresses).list.map Endpoint.address = addresses := by
  rw [fresh, List.map_map]
  exact List.map_id' addresses

end Endpoints

end Switchboard

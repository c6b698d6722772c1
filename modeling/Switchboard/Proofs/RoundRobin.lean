/-
The balance of round robin.

While all endpoints of a cluster are eligible, a call starts with the endpoint whose place is the
number of the turn modulo the number of endpoints. If that endpoint accepts, it gives the connection
and all stay eligible, so the endpoints take turns. Among consecutive turns each place comes up as
often as any other, up to one, wherever the turns start.

* `Ready`: all endpoints are eligible;
* `log_of_accepting`, `Ready.after`: one call, if they all accept;
* `given_courses`: how many connections an endpoint gives in some calls;
* `count_window`: the numbers of one residue among consecutive ones;
* `run_balanced`: the shares of the endpoints, after any calls before.
-/
import Mathlib.Data.Int.CardIntervalMod
import Switchboard.Proofs.Cluster.Trials

namespace Switchboard

namespace Endpoints

variable {σ ε : Type} {addresses : List String} {es : Endpoints} {trial : Trial σ ε}

/-- All endpoints of some addresses are eligible. -/
structure Ready (es : Endpoints) (addresses : List String) : Prop where
  addresses_eq : es.list.map Endpoint.address = addresses
  eligible : ∀ e ∈ es.list, e.eligible = true

/-- All endpoints of some addresses accept. -/
def Trial.AllAccept (trial : Trial σ ε) (addresses : List String) : Prop :=
  ∀ entry : Entry, addresses[entry.place]? = some entry.address → trial.accepts entry = true

/-- How many connections the endpoint at a place gave. -/
def given (place : Nat) (courses : List (Course σ ε)) : Nat :=
  courses.countP fun course => course.giver?.map Entry.place = some place

/-! ### One call -/

theorem Ready.length_eq (h : es.Ready addresses) : es.list.length = addresses.length := by
  rw [← h.addresses_eq, List.length_map]

theorem Ready.entries_eq (h : es.Ready addresses) : es.entries = es.list.zipIdx.map entryOf := by
  have hall : (es.list.zipIdx.filter fun placed => placed.1.eligible) = es.list.zipIdx :=
    List.filter_eq_self.mpr fun placed hplaced =>
      h.eligible placed.1 (List.fst_mem_of_mem_zipIdx hplaced)
  rw [entries, hall]
  split
  · rfl
  · rfl

theorem head?_rotateLeft {α : Type} {as : List α} {n : Nat} (h : n < as.length) :
    (as.rotateLeft n).head? = as[n]? := by
  rw [List.rotateLeft]
  split
  · next hone =>
    obtain rfl : n = 0 := by omega
    exact List.head?_eq_getElem?
  · rw [Nat.mod_eq_of_lt h, List.head?_append, List.head?_drop, List.getElem?_eq_getElem h]
    rfl

/-- The order starts with the endpoint whose turn it is. -/
theorem Ready.head?_order (h : es.Ready addresses) (nonempty : addresses ≠ []) :
    ∃ address, addresses[es.turn % addresses.length]? = some address ∧
      es.order.head? = some ⟨es.turn % addresses.length, address⟩ := by
  have hentries : es.entries.length = addresses.length := by
    rw [h.entries_eq, List.length_map, List.length_zipIdx, h.length_eq]
  have hturn : es.turn % addresses.length < addresses.length :=
    Nat.mod_lt _ (List.length_pos_of_ne_nil nonempty)
  obtain ⟨e, he⟩ : ∃ e, es.list[es.turn % addresses.length]? = some e :=
    ⟨_, List.getElem?_eq_getElem (h.length_eq.symm ▸ hturn)⟩
  refine ⟨e.address, by rw [← h.addresses_eq, List.getElem?_map, h.addresses_eq, he]; rfl, ?_⟩
  rw [order, hentries, head?_rotateLeft (hentries.symm ▸ hturn), h.entries_eq, List.getElem?_map,
    List.getElem?_zipIdx, he]
  simp [entryOf]

/-- The endpoint whose turn it is accepts at once. -/
theorem Ready.log_of_accepting (h : es.Ready addresses) (nonempty : addresses ≠ [])
    (accepting : trial.AllAccept addresses) :
    ∃ address, (es.course trial).log = [(⟨es.turn % addresses.length, address⟩, true)] := by
  obtain ⟨address, hget, hhead⟩ := h.head?_order nonempty
  obtain ⟨rest, horder⟩ := List.head?_eq_some_iff.mp hhead
  have haccepts := accepting ⟨es.turn % addresses.length, address⟩ hget
  refine ⟨address, ?_⟩
  rw [log_course, horder, tried_cons, if_pos haccepts, List.map_singleton, haccepts]

/-- The endpoint whose turn it is gives the connection. -/
theorem Ready.giver?_of_accepting (h : es.Ready addresses) (nonempty : addresses ≠ [])
    (accepting : trial.AllAccept addresses) :
    (es.course trial).giver?.map Entry.place = some (es.turn % addresses.length) := by
  obtain ⟨address, hlog⟩ := h.log_of_accepting nonempty accepting
  rw [Course.giver?, hlog]
  rfl

theorem Ready.isOk_of_accepting (h : es.Ready addresses) (nonempty : addresses ≠ [])
    (accepting : trial.AllAccept addresses) : (es.course trial).answer.isOk = true := by
  obtain ⟨address, hget, hhead⟩ := h.head?_order nonempty
  exact isOk_course_iff.mpr ⟨⟨es.turn % addresses.length, address⟩,
    mem_order.mp (List.mem_of_mem_head? hhead), accepting _ hget⟩

theorem eligible_of_mem_mark {address : String} {now : Nat} {list : List Endpoint}
    (h : ∀ e ∈ list, e.eligible = true) :
    ∀ e ∈ mark address true now list, e.eligible = true := by
  induction list with
  | nil => exact h
  | cons first rest ih =>
    obtain ⟨hfirst, hrest⟩ := List.forall_mem_cons.mp h
    rw [mark]
    split
    · exact List.forall_mem_cons.mpr ⟨rfl, hrest⟩
    · exact List.forall_mem_cons.mpr ⟨hfirst, ih hrest⟩

/-- If all endpoints accept, they stay eligible. -/
theorem Ready.after (h : es.Ready addresses) (nonempty : addresses ≠ [])
    (accepting : trial.AllAccept addresses) : (es.course trial).after.Ready addresses where
  addresses_eq := (map_address_runTrials [trial] es).trans h.addresses_eq
  eligible := by
    obtain ⟨address, hlog⟩ := h.log_of_accepting nonempty accepting
    rw [list_course, hlog]
    exact eligible_of_mem_mark h.eligible

theorem Ready.turn_course (h : es.Ready addresses) (nonempty : addresses ≠ [])
    (trial : Trial σ ε) : (es.course trial).after.turn = (es.turn + 1) % 2 ^ 64 := by
  obtain ⟨address, -, hhead⟩ := h.head?_order nonempty
  obtain ⟨rest, horder⟩ := List.head?_eq_some_iff.mp hhead
  change (if es.order.isEmpty then es.turn else (es.turn + 1) % 2 ^ 64) = _
  rw [horder]
  rfl

/-! ### Some calls -/

theorem Ready.isOk_courses (h : es.Ready addresses) (nonempty : addresses ≠ [])
    {trials : List (Trial σ ε)} (accepting : ∀ trial ∈ trials, trial.AllAccept addresses) :
    ∀ course ∈ courses trials es, course.answer.isOk = true := by
  induction trials generalizing es with
  | nil => exact fun _ hcourse => absurd hcourse List.not_mem_nil
  | cons trial rest ih =>
    obtain ⟨hfirst, hrest⟩ := List.forall_mem_cons.mp accepting
    exact List.forall_mem_cons.mpr
      ⟨h.isOk_of_accepting nonempty hfirst, ih (h.after nonempty hfirst) hrest⟩

/-- The endpoint at a place gives the connections of the turns that are its own. -/
theorem Ready.given_courses (h : es.Ready addresses) (nonempty : addresses ≠ [])
    {trials : List (Trial σ ε)} (accepting : ∀ trial ∈ trials, trial.AllAccept addresses)
    (below : es.turn + trials.length ≤ 2 ^ 64) (place : Nat) :
    given place (courses trials es)
      = Nat.count (fun k => (es.turn + k) % addresses.length = place) trials.length := by
  induction trials generalizing es with
  | nil => rfl
  | cons trial rest ih =>
    obtain ⟨hfirst, hrest⟩ := List.forall_mem_cons.mp accepting
    rw [List.length_cons] at below
    have hturn := h.turn_course nonempty trial
    have hlater := ih (h.after nonempty hfirst) hrest (by rw [hturn]; omega)
    have hshift : Nat.count
          (fun k => ((es.course trial).after.turn + k) % addresses.length = place) rest.length
        = Nat.count (fun k => (es.turn + (k + 1)) % addresses.length = place) rest.length := by
      rcases Nat.eq_zero_or_pos rest.length with hnone | hsome
      · -- the counter may have run over, but no call is left
        rw [hnone, Nat.count_zero, Nat.count_zero]
      · rw [hturn, Nat.mod_eq_of_lt (by omega)]
        simp only [Nat.add_assoc, Nat.add_comm 1]
    have hgiver := h.giver?_of_accepting nonempty hfirst
    calc given place (courses (trial :: rest) es)
        = given place (courses rest (es.course trial).after)
            + if (es.turn + 0) % addresses.length = place then 1 else 0 := by
          rw [given, courses, List.countP_cons, hgiver]
          simp [given]
      _ = Nat.count (fun k => (es.turn + (k + 1)) % addresses.length = place) rest.length
            + if (es.turn + 0) % addresses.length = place then 1 else 0 := by
          rw [hlater, hshift]
      _ = Nat.count (fun k => (es.turn + k) % addresses.length = place) (rest.length + 1) := by
          rw [Nat.count_succ']

/-! ### Shares -/

theorem add_pred_div_eq {modulus : Nat} (h : 0 < modulus) (number : Nat) :
    (number + modulus - 1) / modulus
      = number / modulus + if number % modulus = 0 then 0 else 1 := by
  have hnumber := Nat.div_add_mod number modulus
  have hsum : number + modulus - 1
      = modulus * (number / modulus) + (number % modulus + (modulus - 1)) := by omega
  rw [hsum, Nat.mul_add_div h]
  congr 1
  split
  · next hnone => rw [hnone, Nat.zero_add, Nat.div_eq_of_lt (by omega)]
  · next hsome =>
    have hbound : number % modulus < modulus := Nat.mod_lt _ h
    have hover : number % modulus + (modulus - 1) = (number % modulus - 1) + modulus := by omega
    rw [hover, Nat.add_div_right _ h, Nat.div_eq_of_lt (by omega)]

/-- Of consecutive numbers, those of each residue are as many as those of any other, up to one. -/
theorem count_window {modulus place : Nat} (h : place < modulus) (start number : Nat) :
    let own := Nat.count (fun k => (start + k) % modulus = place) number
    own = number / modulus ∨ own = (number + modulus - 1) / modulus := by
  intro own
  have hpositive : 0 < modulus := Nat.zero_lt_of_lt h
  have hcount : ∀ m, Nat.count (fun k => k % modulus = place) m
      = m / modulus + if place < m % modulus then 1 else 0 := by
    intro m
    have hcard := Nat.count_modEq_card m hpositive place
    simpa only [Nat.ModEq, Nat.mod_eq_of_lt h] using hcard
  -- the window is what lies between two initial segments
  have hsplit : Nat.count (fun k => k % modulus = place) (start + number)
      = Nat.count (fun k => k % modulus = place) start + own := Nat.count_add _ _ _
  rw [hcount, hcount, Nat.add_div hpositive] at hsplit
  have hmod := Nat.add_mod_add_ite start number modulus
  have hstart : start % modulus < modulus := Nat.mod_lt _ hpositive
  have hnumber : number % modulus < modulus := Nat.mod_lt _ hpositive
  rw [add_pred_div_eq hpositive]
  split_ifs at hsplit hmod ⊢ <;> omega

/-- **Round robin is balanced.** After any calls that leave all endpoints of a cluster eligible, if
all of them accept during some more calls, these calls succeed, and each endpoint gives an equal
share of the connections, rounded down or up. The calls of a cluster are those in which endpoints
of one address answer alike. -/
theorem run_balanced (addresses : List String) (before next : List (Trial σ ε))
    (nonempty : addresses ≠ [])
    (eligible : ∀ e ∈ (runTrials before (fresh addresses)).list, e.eligible = true)
    (accepting : ∀ trial ∈ next, trial.AllAccept addresses)
    (below : (runTrials before (fresh addresses)).turn + next.length ≤ 2 ^ 64) :
    let made := courses next (runTrials before (fresh addresses))
    (∀ course ∈ made, course.answer.isOk = true) ∧
      (∀ place < addresses.length,
        given place made = next.length / addresses.length ∨
          given place made = (next.length + addresses.length - 1) / addresses.length) ∧
      ∀ (es : Endpoints) (call : Call σ ε), es.connect call.dial call.now =
        ((es.course call.trial).answer, (es.course call.trial).after) := by
  have hready : (runTrials before (fresh addresses)).Ready addresses :=
    ⟨(map_address_runTrials before _).trans (map_address_fresh addresses), eligible⟩
  refine ⟨hready.isOk_courses nonempty accepting, fun place hplace => ?_, connect_eq_course⟩
  rw [hready.given_courses nonempty accepting below]
  exact count_window hplace _ _

/-- A trial in which the endpoints from a place on accept. -/
def acceptsFrom (place : Nat) : Trial Nat Unit :=
  ⟨fun entry => if place ≤ entry.place then .ok entry.place else .error (), 0⟩

/-- Two endpoints share an address. The first fails, and is eligible again when the second has
accepted. Then four connections are shared by three endpoints. -/
theorem run_balanced_recovered :
    let made := courses (List.replicate 4 (acceptsFrom 0))
      (runTrials [acceptsFrom 1] (fresh ["a", "a", "b"]))
    (∀ course ∈ made, course.answer.isOk = true) ∧
      ∀ place < 3, given place made = 1 ∨ given place made = 2 := by
  have haccepting : ∀ trial ∈ List.replicate 4 (acceptsFrom 0),
      trial.AllAccept ["a", "a", "b"] := by
    intro trial htrial entry _
    have hresult : (acceptsFrom 0).result entry = .ok entry.place := by
      simp only [acceptsFrom, Nat.zero_le, if_true]
    rw [List.eq_of_mem_replicate htrial]
    exact accepts_of_ok hresult
  obtain ⟨hok, hshares, -⟩ := run_balanced ["a", "a", "b"] [acceptsFrom 1]
    (List.replicate 4 (acceptsFrom 0)) (by decide) (by decide) haccepting (by decide)
  exact ⟨hok, hshares⟩

end Endpoints

end Switchboard

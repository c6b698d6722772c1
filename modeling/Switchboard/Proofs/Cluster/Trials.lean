/-
Calls in which each endpoint answers for itself.

Several endpoints of a cluster may have one address, and a connect with it may fail for the first and
succeed for the second. So the results of a trial are told by endpoint, and calls are the trials
whose results go by the address alone. The course of a trial keeps a log of the connects that were
made.

* `order`: the endpoints that the next call may try, in order;
* `course`: a trial with its log;
* `GoesInTurn`, `goesInTurn`: what one trial does;
* `connect_eq_course`, `run_eq_runTrials`: calls are trials.
-/
import Switchboard.Proofs.Cluster.Endpoints

namespace Switchboard

namespace Endpoints

variable {σ ε : Type}

/-- An endpoint by its place in the definition of the cluster. -/
structure Entry where
  place : Nat
  address : String
deriving DecidableEq

/-- What a connect to each endpoint comes to at the time of a call. -/
structure Trial (σ ε : Type) where
  result : Entry → Except ε σ
  now : Nat

def Trial.accepts (trial : Trial σ ε) (entry : Entry) : Bool := (trial.result entry).isOk

/-- A call as a trial: endpoints of one address answer alike. -/
def Call.trial (call : Call σ ε) : Trial σ ε := ⟨fun entry => call.dial entry.address, call.now⟩

/-- The connects that were made, in order, and whether they succeeded. -/
abbrev Log := List (Entry × Bool)

/-! ### The order -/

def entryOf (placed : Endpoint × Nat) : Entry := ⟨placed.2, placed.1.address⟩

/-- The entries that may be tried, in the order of the definition: those of eligible endpoints, or
all if there are none. -/
def entries (es : Endpoints) : List Entry :=
  match es.list.zipIdx.filter fun placed => placed.1.eligible with
  | [] => es.list.zipIdx.map entryOf
  | some_ => some_.map entryOf

/-- The entries that the next call tries, in order. -/
def order (es : Endpoints) : List Entry := es.entries.rotateLeft (es.turn % es.entries.length)

/-- The entry of an endpoint that the next call may try. -/
def Candidate (es : Endpoints) (entry : Entry) : Prop :=
  ∃ e, es.list[entry.place]? = some e ∧ e.address = entry.address ∧ es.Tries e

theorem map_rotateLeft {α β : Type} (f : α → β) (as : List α) (n : Nat) :
    (as.rotateLeft n).map f = (as.map f).rotateLeft n := by
  simp only [List.rotateLeft, List.length_map]
  split
  · rfl
  · rw [List.map_append, List.map_drop, List.map_take]

theorem map_address_zipIdx (list : List Endpoint) :
    (list.zipIdx.map entryOf).map Entry.address = list.map Endpoint.address := by
  rw [List.map_map]
  calc list.zipIdx.map (Entry.address ∘ entryOf)
      = (list.zipIdx.map Prod.fst).map Endpoint.address := by rw [List.map_map]; rfl
    _ = list.map Endpoint.address := by rw [List.zipIdx_map_fst]

theorem filter_eligible_eq (list : List Endpoint) :
    list.filter Endpoint.eligible
      = (list.zipIdx.filter fun placed => placed.1.eligible).map Prod.fst := by
  calc list.filter Endpoint.eligible
      = (list.zipIdx.map Prod.fst).filter Endpoint.eligible := by rw [List.zipIdx_map_fst]
    _ = _ := List.filter_map

theorem map_address_entries (es : Endpoints) : es.entries.map Entry.address = es.pool := by
  rw [entries, pool, filter_eligible_eq]
  cases hfilter : es.list.zipIdx.filter fun placed => placed.1.eligible with
  | nil => exact map_address_zipIdx es.list
  | cons placed rest => simp [entryOf]

/-- The addresses of the order are those that are dialled. -/
theorem map_address_order (es : Endpoints) : es.order.map Entry.address = es.candidates := by
  have hlength : es.entries.length = es.pool.length := by
    rw [← map_address_entries, List.length_map]
  rw [order, map_rotateLeft, map_address_entries, hlength, candidates]

theorem mem_entries {es : Endpoints} {entry : Entry} : entry ∈ es.entries ↔ es.Candidate entry := by
  have hmem : ∀ placed : Endpoint × Nat, placed ∈ es.list.zipIdx ↔
      es.list[placed.2]? = some placed.1 := fun placed => List.mem_zipIdx_iff_getElem?
  have hnone : es.list.zipIdx.filter (fun placed => placed.1.eligible) = [] ↔
      ∀ other ∈ es.list, other.eligible = false := by
    rw [← List.map_eq_nil_iff (f := Prod.fst), ← filter_eligible_eq]
    simp [List.filter_eq_nil_iff]
  rw [entries]
  split
  · next hempty =>
    rw [List.mem_map]
    constructor
    · rintro ⟨placed, hplaced, rfl⟩
      have hget := (hmem placed).mp hplaced
      exact ⟨placed.1, hget, rfl, List.mem_of_getElem? hget, .inr (hnone.mp hempty)⟩
    · rintro ⟨e, hget, haddress, -⟩
      exact ⟨(e, entry.place), (hmem _).mpr hget, by rw [entryOf, haddress]⟩
  · next hsome =>
    rw [List.mem_map]
    constructor
    · rintro ⟨placed, hplaced, rfl⟩
      obtain ⟨hin, heligible⟩ := List.mem_filter.mp hplaced
      have hget := (hmem placed).mp hin
      exact ⟨placed.1, hget, rfl, List.mem_of_getElem? hget, .inl heligible⟩
    · rintro ⟨e, hget, haddress, -, heligible | hall⟩
      · exact ⟨(e, entry.place), List.mem_filter.mpr ⟨(hmem _).mpr hget, heligible⟩,
          by rw [entryOf, haddress]⟩
      · exact absurd (hnone.mpr hall) hsome

theorem mem_order {es : Endpoints} {entry : Entry} : entry ∈ es.order ↔ es.Candidate entry :=
  (rotateLeft_perm _ _).mem_iff.trans mem_entries

/-- Entries stand in the order of the definition. -/
theorem entries_ascending (es : Endpoints) :
    es.entries.Pairwise fun former latter => former.place < latter.place := by
  have hplaces : es.list.zipIdx.Pairwise fun former latter => former.2 < latter.2 := by
    rw [← List.pairwise_map (f := Prod.snd) (R := (· < ·)), List.zipIdx_map_snd]
    exact List.pairwise_lt_range'
  rw [entries]
  split
  · exact List.pairwise_map.mpr hplaces
  · exact List.pairwise_map.mpr (hplaces.sublist List.filter_sublist)

theorem nodup_map_place_order (es : Endpoints) : (es.order.map Entry.place).Nodup := by
  have hentries : (es.entries.map Entry.place).Nodup :=
    List.pairwise_map.mpr (es.entries_ascending.imp Nat.ne_of_lt)
  exact ((rotateLeft_perm _ _).map _).nodup_iff.mpr hentries

/-! ### Trying -/

/-- Tries entries up to the first that accepts. Gives its connection, or the last error. -/
def tryEach (trial : Trial σ ε) :
    List Entry → Option ε → List Endpoint → Except (Option ε) σ × Log × List Endpoint
  | [], last, list => (.error last, [], list)
  | entry :: rest, _, list =>
    match trial.result entry with
    | .ok connection => (.ok connection, [(entry, true)], mark entry.address true trial.now list)
    | .error e =>
      let (answer, log, list) :=
        tryEach trial rest (some e) (mark entry.address false trial.now list)
      (answer, (entry, false) :: log, list)

/-- What became of a trial. -/
structure Course (σ ε : Type) where
  answer : Except (Option ε) σ
  log : Log
  after : Endpoints

/-- One trial, with the counters kept as in a call. -/
def course (es : Endpoints) (trial : Trial σ ε) : Course σ ε :=
  let (answer, log, list) := tryEach trial es.order none es.list
  { answer
    log
    after :=
      { list
        turn := if es.order.isEmpty then es.turn else (es.turn + 1) % 0x10000000000000000
        attempted := es.attempted + 1
        succeeded := if answer.isOk then es.succeeded + 1 else es.succeeded } }

/-- The entry that gave the connection. -/
def Course.giver? (course : Course σ ε) : Option Entry := (course.log.find? (·.2)).map (·.1)

/-- The entries that are tried: those before the first that accepts, and that one. -/
def Trial.tried (trial : Trial σ ε) (order : List Entry) : List Entry :=
  order.takeWhile (fun entry => !trial.accepts entry) ++ (order.find? trial.accepts).toList

/-- Notes the results of some connects. -/
def markAll (now : Nat) (list : List Endpoint) (log : Log) : List Endpoint :=
  log.foldl (fun list made => mark made.1.address made.2 now list) list

variable {trial : Trial σ ε}

theorem tryEach_of_ok {entry : Entry} {connection : σ} (h : trial.result entry = .ok connection)
    (rest : List Entry) (last : Option ε) (list : List Endpoint) :
    tryEach trial (entry :: rest) last list =
      (.ok connection, [(entry, true)], mark entry.address true trial.now list) := by
  rw [tryEach, h]

theorem tryEach_of_error {entry : Entry} {e : ε} (h : trial.result entry = .error e)
    (rest : List Entry) (last : Option ε) (list : List Endpoint) :
    tryEach trial (entry :: rest) last list =
      let later := tryEach trial rest (some e) (mark entry.address false trial.now list)
      (later.1, (entry, false) :: later.2.1, later.2.2) := by
  rw [tryEach, h]

theorem accepts_of_ok {entry : Entry} {connection : σ} (h : trial.result entry = .ok connection) :
    trial.accepts entry = true := by
  rw [Trial.accepts, h]
  rfl

theorem accepts_of_error {entry : Entry} {e : ε} (h : trial.result entry = .error e) :
    trial.accepts entry = false := by
  rw [Trial.accepts, h]
  rfl

theorem tried_cons (trial : Trial σ ε) (entry : Entry) (rest : List Entry) :
    trial.tried (entry :: rest) =
      if trial.accepts entry then [entry] else entry :: trial.tried rest := by
  cases haccepts : trial.accepts entry with
  | true => simp [Trial.tried, haccepts]
  | false => simp [Trial.tried, haccepts]

theorem tried_sublist (trial : Trial σ ε) (order : List Entry) :
    (trial.tried order).Sublist order := by
  induction order with
  | nil => exact .slnil
  | cons entry rest ih =>
    rw [tried_cons]
    split
    · exact (List.nil_sublist rest).cons_cons entry
    · exact ih.cons_cons entry

/-- Tries are made in order, up to the first success. -/
theorem log_tryEach (order : List Entry) (last : Option ε) (list : List Endpoint) :
    (tryEach trial order last list).2.1
      = (trial.tried order).map fun entry => (entry, trial.accepts entry) := by
  induction order generalizing last list with
  | nil => rfl
  | cons entry rest ih =>
    cases hresult : trial.result entry with
    | ok connection =>
      have haccepts := accepts_of_ok hresult
      rw [tryEach_of_ok hresult, tried_cons, if_pos haccepts, List.map_singleton, haccepts]
    | error e =>
      have haccepts := accepts_of_error hresult
      rw [tryEach_of_error hresult, tried_cons, haccepts, if_neg Bool.false_ne_true, List.map_cons,
        haccepts, ← ih]

/-- Each try is noted, and nothing else changes. -/
theorem list_tryEach (order : List Entry) (last : Option ε) (list : List Endpoint) :
    (tryEach trial order last list).2.2
      = markAll trial.now list (tryEach trial order last list).2.1 := by
  induction order generalizing last list with
  | nil => rfl
  | cons entry rest ih =>
    cases hresult : trial.result entry with
    | ok connection =>
      rw [tryEach_of_ok hresult]
      rfl
    | error e =>
      rw [tryEach_of_error hresult]
      exact ih (some e) (mark entry.address false trial.now list)

/-- The connection is that of the first entry that accepts. -/
theorem answer_tryEach_eq_ok_iff {order : List Entry} {last : Option ε} {list : List Endpoint}
    {connection : σ} : (tryEach trial order last list).1 = .ok connection ↔
      ∃ entry, order.find? trial.accepts = some entry ∧ trial.result entry = .ok connection := by
  induction order generalizing last list with
  | nil => simp [tryEach]
  | cons entry rest ih =>
    cases hresult : trial.result entry with
    | ok given =>
      rw [tryEach_of_ok hresult, List.find?_cons_of_pos (accepts_of_ok hresult)]
      constructor
      · intro h
        cases h
        exact ⟨entry, rfl, hresult⟩
      · rintro ⟨first, hfirst, hgiven⟩
        cases hfirst
        rw [hresult] at hgiven
        cases hgiven
        rfl
    | error e =>
      have hrefuses : ¬ trial.accepts entry = true := by simp [accepts_of_error hresult]
      rw [tryEach_of_error hresult, List.find?_cons_of_neg hrefuses]
      exact ih

/-- What an entry that is not tried would have answered makes no difference. -/
theorem tryEach_congr {other : Trial σ ε} (htime : other.now = trial.now) {order : List Entry}
    {last : Option ε} {list : List Endpoint}
    (hagree : ∀ made ∈ (tryEach trial order last list).2.1,
      other.result made.1 = trial.result made.1) :
    tryEach other order last list = tryEach trial order last list := by
  induction order generalizing last list with
  | nil => rfl
  | cons entry rest ih =>
    cases hresult : trial.result entry with
    | ok connection =>
      rw [tryEach_of_ok hresult] at hagree ⊢
      have hsame := hagree (entry, true) (List.mem_singleton_self _)
      rw [tryEach_of_ok (hsame.trans hresult), htime]
    | error e =>
      rw [tryEach_of_error hresult] at hagree ⊢
      have hsame := hagree (entry, false) List.mem_cons_self
      rw [tryEach_of_error (hsame.trans hresult), htime]
      rw [ih fun made hmade => hagree made (List.mem_cons_of_mem _ hmade)]

/-- Addresses are tried as the entries that have them, if the results go by the address. -/
theorem tryAll_eq_tryEach (call : Call σ ε) (order : List Entry) (last : Option ε)
    (list : List Endpoint) :
    tryAll call.dial call.now (order.map Entry.address) last list =
      ((tryEach call.trial order last list).1, (tryEach call.trial order last list).2.2) := by
  induction order generalizing last list with
  | nil => rfl
  | cons entry rest ih =>
    rw [List.map_cons, tryAll]
    cases hdial : call.dial entry.address with
    | ok connection =>
      have hresult : call.trial.result entry = .ok connection := hdial
      rw [tryEach_of_ok hresult]
      rfl
    | error e =>
      have hresult : call.trial.result entry = .error e := hdial
      rw [tryEach_of_error hresult]
      exact ih _ _

/-! ### Trials -/

variable {es : Endpoints}

theorem log_course (es : Endpoints) (trial : Trial σ ε) : (es.course trial).log
    = (trial.tried es.order).map fun entry => (entry, trial.accepts entry) :=
  log_tryEach _ _ _

theorem list_course (es : Endpoints) (trial : Trial σ ε) :
    (es.course trial).after.list = markAll trial.now es.list (es.course trial).log :=
  list_tryEach _ _ _

theorem giver?_course (es : Endpoints) (trial : Trial σ ε) :
    (es.course trial).giver? = es.order.find? trial.accepts := by
  have hbefore : ∀ entry ∈ es.order.takeWhile (fun entry => !trial.accepts entry),
      trial.accepts entry = false := by
    intro entry hentry
    simpa using List.all_eq_true.mp List.all_takeWhile entry hentry
  rw [Course.giver?, log_course, List.find?_map, Option.map_map, Trial.tried, List.find?_append]
  have hnone : (es.order.takeWhile fun entry => !trial.accepts entry).find?
      ((·.2) ∘ fun entry => (entry, trial.accepts entry)) = none :=
    List.find?_eq_none.mpr fun entry hentry => by simp [hbefore entry hentry]
  rw [hnone, Option.none_or]
  cases hfirst : es.order.find? trial.accepts with
  | none => rfl
  | some entry => simp [List.find?_some hfirst]

/-- The connection of a call is that of the entry that gave it. -/
theorem answer_course_eq_ok_iff {connection : σ} : (es.course trial).answer = .ok connection ↔
    ∃ entry, (es.course trial).giver? = some entry ∧ trial.result entry = .ok connection := by
  rw [giver?_course]
  exact answer_tryEach_eq_ok_iff

theorem isOk_course_iff : (es.course trial).answer.isOk = true ↔
    ∃ entry, es.Candidate entry ∧ trial.accepts entry = true := by
  constructor
  · intro hok
    cases hanswer : (es.course trial).answer with
    | error e =>
      rw [hanswer] at hok
      cases hok
    | ok connection =>
      obtain ⟨entry, hgiver, hresult⟩ := answer_course_eq_ok_iff.mp hanswer
      rw [giver?_course] at hgiver
      exact ⟨entry, mem_order.mp (List.mem_of_find?_eq_some hgiver), accepts_of_ok hresult⟩
  · rintro ⟨entry, hentry, haccepts⟩
    obtain ⟨first, hfirst⟩ := Option.isSome_iff_exists.mp
      (List.find?_isSome.mpr ⟨entry, mem_order.mpr hentry, haccepts⟩)
    cases hresult : trial.result first with
    | error e =>
      have := accepts_of_error hresult
      rw [List.find?_some hfirst] at this
      cases this
    | ok connection =>
      have hanswer := answer_course_eq_ok_iff.mpr ⟨first, (giver?_course es trial).trans hfirst,
        hresult⟩
      rw [hanswer]
      rfl

/-- Endpoints that were not tried have no influence on a trial. -/
theorem course_congr {other : Trial σ ε} (htime : other.now = trial.now)
    (hagree : ∀ made ∈ (es.course trial).log, other.result made.1 = trial.result made.1) :
    es.course other = es.course trial := by
  rw [course, course, tryEach_congr htime hagree]

/-- What one trial does: it goes through its candidates in turn. -/
structure GoesInTurn (es : Endpoints) (trial : Trial σ ε) : Prop where
  /-- The order is that of the addresses which a call dials. -/
  dials : es.order.map Entry.address = es.candidates
  /-- The candidates are taken in the order of the definition, rotated by the number of the turn. -/
  rotates : ∃ candidates : List Entry, (∀ entry, entry ∈ candidates ↔ es.Candidate entry) ∧
    (candidates.Pairwise fun former latter => former.place < latter.place) ∧
    es.order = candidates.rotateLeft (es.turn % candidates.length)
  /-- They are tried in that order up to the first success. -/
  log_eq : (es.course trial).log =
    (es.order.takeWhile (fun entry => !trial.accepts entry)
      ++ (es.order.find? trial.accepts).toList).map fun entry => (entry, trial.accepts entry)
  once : ((es.course trial).log.map fun made => made.1.place).Nodup
  answer_eq_ok_iff : ∀ connection, (es.course trial).answer = .ok connection ↔
    ∃ entry, (es.course trial).giver? = some entry ∧ trial.result entry = .ok connection
  isOk_iff : (es.course trial).answer.isOk = true ↔
    ∃ entry, es.Candidate entry ∧ trial.accepts entry = true
  /-- No other endpoint is connected to. -/
  reads_log : ∀ other : Trial σ ε, other.now = trial.now →
    (∀ made ∈ (es.course trial).log, other.result made.1 = trial.result made.1) →
    es.course other = es.course trial

theorem goesInTurn (es : Endpoints) (trial : Trial σ ε) : es.GoesInTurn trial where
  dials := map_address_order es
  rotates := ⟨es.entries, fun _ => mem_entries, es.entries_ascending, rfl⟩
  log_eq := log_course es trial
  once := by
    have hplaces : (es.course trial).log.map (fun made => made.1.place)
        = (trial.tried es.order).map Entry.place := by
      rw [log_course, List.map_map]
      rfl
    rw [hplaces]
    exact es.nodup_map_place_order.sublist ((tried_sublist trial es.order).map _)
  answer_eq_ok_iff := fun _ => answer_course_eq_ok_iff
  isOk_iff := isOk_course_iff
  reads_log := fun _ htime hagree => course_congr htime hagree

/-! ### Runs -/

/-- The endpoints after some trials. -/
def runTrials (trials : List (Trial σ ε)) (es : Endpoints) : Endpoints :=
  trials.foldl (fun es trial => (es.course trial).after) es

/-- What became of each of some trials, one after another. -/
def courses : List (Trial σ ε) → Endpoints → List (Course σ ε)
  | [], _ => []
  | trial :: rest, es => es.course trial :: courses rest (es.course trial).after

/-- A call is a trial in which the results go by the address. -/
theorem connect_eq_course (es : Endpoints) (call : Call σ ε) :
    es.connect call.dial call.now =
      ((es.course call.trial).answer, (es.course call.trial).after) := by
  have hempty : es.candidates.isEmpty = es.order.isEmpty := by
    rw [← map_address_order, List.isEmpty_map]
  rw [connect, hempty, ← map_address_order, tryAll_eq_tryEach]
  rfl

theorem run_eq_runTrials (calls : List (Call σ ε)) (es : Endpoints) :
    run calls es = runTrials (calls.map Call.trial) es := by
  induction calls generalizing es with
  | nil => rfl
  | cons call rest ih =>
    have hafter : es.after call = (es.course call.trial).after :=
      congrArg Prod.snd (connect_eq_course es call)
    rw [List.map_cons, runTrials, List.foldl_cons, ← hafter]
    exact ih (es.after call)

theorem map_address_markAll (now : Nat) (list : List Endpoint) (log : Log) :
    (markAll now list log).map Endpoint.address = list.map Endpoint.address := by
  induction log generalizing list with
  | nil => rfl
  | cons made rest ih => exact (ih _).trans (map_address_mark _ _ _)

theorem map_address_runTrials (trials : List (Trial σ ε)) (es : Endpoints) :
    (runTrials trials es).list.map Endpoint.address = es.list.map Endpoint.address := by
  induction trials generalizing es with
  | nil => rfl
  | cons trial rest ih =>
    rw [runTrials, List.foldl_cons]
    refine (ih (es.course trial).after).trans ?_
    rw [list_course, map_address_markAll]

end Endpoints

end Switchboard

/-
The first match decides, and it is counted once.

A list is searched from its start. The search ends at the first entry whose rule matches, or whose
name no rule has. What comes behind this entry does not matter, nor does it matter whether the same
rule stands in the list again.

* `RuleList.firstMatch_eq`: the search comes to what the entry is that ends it;
* `RuleList.evaluate_first_match`: **the first match decides, and it is counted once**;
* `Tally.run_counted`: in any run, the rules that a search may come to have their counts.
-/
import Switchboard.Proofs.HitCounts

namespace Switchboard

/-- Whether the search ends at an entry: no rule has its name, or its rule matches. -/
def RuleEntry.stops (rules : String → Option Rule) (metadata : Json) (entry : RuleEntry) : Bool :=
  (entry.rule? rules).all fun rule => rule.condition.holds metadata

/-- Only names may have no rule behind them. -/
theorem RuleEntry.eq_named {rules : String → Option Rule} {entry : RuleEntry}
    (h : entry.rule? rules = none) : entry = .named entry.name ∧ rules entry.name = none := by
  cases entry with
  | named name => exact ⟨rfl, h⟩
  | inline rule => cases h

/-- One count has grown by one, and no other has changed. -/
structure Counters.CountsOne (cs later : Counters) (id : CounterId) : Prop where
  one : later.get id = cs.get id + 1
  others : ∀ other, other ≠ id → later.get other = cs.get other

theorem Counters.countsOne_increment {cs : Counters} {id : CounterId}
    (h : id < cs.counts.size) : cs.CountsOne (cs.increment id) id := by
  constructor
  · rw [get_increment cs h, if_pos rfl]
  · intro other hother
    rw [get, increment, Array.getElem?_modify, if_neg (Ne.symm hother), get]

namespace RuleList

/-- Every rule behind an entry has a count, as it has in any run (`Tally.run_counted`). -/
def Counted (rules : String → Option Rule) (counters : Counters) (list : RuleList) : Prop :=
  ∀ entry ∈ list.entries, ∀ rule, entry.rule? rules = some rule →
    rule.counter < counters.counts.size

/-- The search comes to what the entry is that ends it. -/
theorem firstMatch_eq (rules : String → Option Rule) (metadata : Json)
    (entries : List RuleEntry) :
    firstMatch rules metadata entries =
      match entries.find? (RuleEntry.stops rules metadata) with
      | none => .ok none
      | some entry =>
        match entry.rule? rules with
        | none => .error entry.name
        | some rule => .ok (some rule) := by
  induction entries with
  | nil => rfl
  | cons entry rest ih =>
    rw [firstMatch_cons, List.find?_cons, RuleEntry.stops]
    cases hrule : entry.rule? rules with
    | none => simp [hrule]
    | some rule =>
      by_cases hholds : rule.condition.holds metadata = true
      · simp [hrule, hholds]
      · simpa [hholds] using ih

/-- **The first match decides, and it is counted once.** Look for the first entry at which the
search ends. If there is none, no rule is found and no count changes. If no rule has its name, the
fault says so and no count changes. Else the rule behind it matches and is found, a registry gives
its action, its count grows by one, and no other count changes. -/
theorem evaluate_first_match (rules : String → Option Rule) (list : RuleList) (metadata : Json)
    (counters : Counters) (counted : list.Counted rules counters) :
    match list.entries.findIdx? (RuleEntry.stops rules metadata) with
    | none => list.evaluate rules metadata counters = (.ok none, counters)
    | some i => ∃ entry, list.entries[i]? = some entry ∧
      ((∃ name, entry = .named name ∧ rules name = none ∧
          list.evaluate rules metadata counters =
            (.error (.ruleNotFound list.name name), counters)) ∨
        ∃ rule later, entry.rule? rules = some rule ∧ rule.condition.holds metadata = true ∧
          list.evaluate rules metadata counters = (.ok (some rule), later) ∧
          (∀ (r : Registry) (s : Snapshot), s.rule? = rules → r.counters = counters →
            r.evaluate s list metadata = (.ok (some rule.action), r.setCounters later)) ∧
          counters.CountsOne later rule.counter) := by
  have hfound := firstMatch_eq rules metadata list.entries
  rw [List.find?_eq_bind_findIdx?_getElem?] at hfound
  unfold evaluate
  cases hfirst : list.entries.findIdx? (RuleEntry.stops rules metadata) with
  | none =>
    rw [hfound, hfirst]
    rfl
  | some i =>
    -- the entry dangles or its rule matches, since the search ends at it
    obtain ⟨hi, hstops, -⟩ := List.findIdx?_eq_some_iff_getElem.mp hfirst
    rw [hfirst, Option.bind_some, List.getElem?_eq_getElem hi] at hfound
    refine ⟨list.entries[i], List.getElem?_eq_getElem hi, ?_⟩
    cases hrule : list.entries[i].rule? rules with
    | none =>
      obtain ⟨hnamed, hnone⟩ := RuleEntry.eq_named hrule
      refine .inl ⟨_, hnamed, hnone, ?_⟩
      simp only [hfound, hrule]
    | some rule =>
      have hholds : rule.condition.holds metadata = true := by
        simpa [RuleEntry.stops, hrule] using hstops
      have hcounter := counted _ (List.getElem_mem hi) rule hrule
      have hevaluate : list.evaluate rules metadata counters =
          (.ok (some rule), counters.increment rule.counter) := by
        simp only [evaluate, hfound, hrule]
      refine .inr ⟨rule, _, rfl, hholds, hevaluate, ?_, Counters.countsOne_increment hcounter⟩
      rintro r s rfl rfl
      rw [Registry.evaluate, hevaluate]
      rfl

/-- Web traffic, by its port. -/
def webRule : Rule :=
  ⟨"web", .ofJson (.ofFields [("op", .string "test"), ("path", .string "/TCP/dst_port"),
    ("value", .number (.int 80))]), .ofFields [("route", .string "web")], 0, none⟩

/-- Any traffic. -/
def anyRule : Rule := ⟨"any", .wildcard, .ofFields [("route", .string "default")], 1, none⟩

/-- A list that names the first rule and has the second one as its own, twice. No rule has the last
name, but the search does not come to it. -/
def services : RuleList := ⟨"main", [.named "web", .inline anyRule, .inline anyRule, .named "gone"]⟩

theorem evaluate_first_match_services :
    let rules := fun name => if name = "web" then some webRule else none
    let ssh : Json := .ofFields [("TCP", .ofFields [("dst_port", .number (.int 22))])]
    services.Counted rules ⟨#[3, 4]⟩ ∧
      ∃ later, services.evaluate rules ssh ⟨#[3, 4]⟩ = (.ok (some anyRule), later) ∧
        later.get 1 = 5 ∧ later.get 0 = 3 := by
  intro rules ssh
  have hcounted : services.Counted rules ⟨#[3, 4]⟩ := by
    intro entry hentry rule hrule
    simp only [services, List.mem_cons, List.not_mem_nil, or_false] at hentry
    rcases hentry with rfl | rfl | rfl | rfl
    · cases hrule
      decide
    · cases hrule
      decide
    · cases hrule
      decide
    · cases hrule
  have hfirst : services.entries.findIdx? (RuleEntry.stops rules ssh) = some 1 := by decide +kernel
  have hfound := evaluate_first_match rules services ssh ⟨#[3, 4]⟩ hcounted
  rw [hfirst] at hfound
  obtain ⟨entry, hentry, ⟨name, hname, -⟩ | ⟨rule, later, hrule, -, heq, -, hcount⟩⟩ := hfound
  · cases hname
    cases hentry
  · cases hentry
    cases hrule
    exact ⟨hcounted, later, heq, hcount.one, hcount.others 0 (by decide)⟩

end RuleList

namespace Tally

/-- Every rule in a snapshot that can be looked at has a count. -/
theorem Exact.counted {t : Tally} (exact : t.Exact) {v : Sight} (sees : t.Sees v) {name : String}
    {list : RuleList} (there : v.snapshot.ruleList? name = some list) :
    list.Counted v.snapshot.rule? t.counters := by
  obtain ⟨-, owner, hkept⟩ := exact
  have howns := hkept.owns v sees
  intro entry hentry rule hrule
  cases entry with
  | named other => exact (howns.registered other rule hrule).1
  | inline own =>
    obtain rfl : own = rule := Option.some.inj hrule
    exact (howns.inline name list there own hentry).1

/-- In any run every rule behind an entry has a count, in whatever snapshot a list is looked at. -/
theorem run_counted {strict : Bool} {moves : List Move}
    (checked : ∀ m ∈ moves, m.isChecked = true) {v : Sight}
    (sees : (run moves (fresh strict)).Sees v) {name : String} {list : RuleList}
    (there : v.snapshot.ruleList? name = some list) :
    list.Counted v.snapshot.rule? (run moves (fresh strict)).counters :=
  ((exact_fresh strict).run checked).counted sees there

end Tally

end Switchboard

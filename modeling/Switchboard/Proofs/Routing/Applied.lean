/-
Which rules are applied.

To evaluate a list is to apply the rule behind the first entry that matches, if there is one. To
look up is to do this for each list that is followed. No other count changes.

* `RuleList.hit?`: the entry that matches, with the rule behind it;
* `Snapshot.hits`: all hits of a look-up;
* `Counters.countAll`: counts after some hits;
* `counters_evaluate`, `counters_lookup`: what is counted.
-/
import Switchboard.Routing.Snapshot

namespace Switchboard

/-! ### Hits -/

/-- An entry of a list that matched, and the rule behind it. -/
structure Hit where
  entry : RuleEntry
  rule : Rule

/-- The rule behind an entry. -/
def RuleEntry.rule? (rules : String → Option Rule) : RuleEntry → Option Rule
  | .inline rule => some rule
  | .named name => rules name

/-- The first of the entries that matches, unless a name that no rule has comes before. -/
def RuleList.hit? (rules : String → Option Rule) (metadata : Json) : List RuleEntry → Option Hit
  | [] => none
  | entry :: rest =>
    match entry.rule? rules with
    | none => none
    | some rule =>
      if rule.condition.holds metadata then some ⟨entry, rule⟩ else hit? rules metadata rest

/-- The list that a rule hands a document on to, and the document that this list gets. -/
def Rule.handsOn? (rule : Rule) (metadata : Json) : Option (String × Json) :=
  match Action.parse rule.action with
  | .error _ => none
  | .ok action =>
    match action.route, action.apply with
    | none, some next => some (next, action.annotate metadata)
    | _, _ => none

namespace Snapshot

/-- The hits in the lists that are followed from the list `name` on, at most `lists` of them. -/
def hits (s : Snapshot) : Nat → String → Json → List Hit
  | 0, _, _ => []
  | lists + 1, name, metadata =>
    match (s.ruleList? name).bind fun list => RuleList.hit? s.rule? metadata list.entries with
    | none => []
    | some hit =>
      match hit.rule.handsOn? metadata with
      | none => [hit]
      | some (next, metadata) => hit :: s.hits lists next metadata

/-- Whether a hit may come from the snapshot. -/
def Offers (s : Snapshot) (hit : Hit) : Prop :=
  ∃ name list, s.ruleList? name = some list ∧ hit.entry ∈ list.entries ∧
    hit.entry.rule? s.rule? = some hit.rule

end Snapshot

/-- The counts after some hits. -/
def Counters.countAll (cs : Counters) (hits : List Hit) : Counters :=
  hits.foldl (fun cs hit => cs.increment hit.rule.counter) cs

/-! ### Counting -/

namespace Counters

variable (cs : Counters) (hits : List Hit)

theorem size_countAll : (cs.countAll hits).counts.size = cs.counts.size := by
  induction hits generalizing cs with
  | nil => rfl
  | cons hit rest ih => exact (ih _).trans Array.size_modify

theorem get_increment {id : CounterId} (h : id < cs.counts.size) (other : CounterId) :
    (cs.increment other).get id = cs.get id + if other = id then 1 else 0 := by
  rw [get, increment, Array.getElem?_modify, get, Array.getElem?_eq_getElem h]
  by_cases hother : other = id
  · rw [if_pos hother, if_pos hother]
    rfl
  · rw [if_neg hother, if_neg hother]
    rfl

/-- A count grows by the number of hits that it belongs to. -/
theorem get_countAll {id : CounterId} (h : id < cs.counts.size) :
    (cs.countAll hits).get id = cs.get id + hits.countP fun hit => hit.rule.counter == id := by
  induction hits generalizing cs with
  | nil => rfl
  | cons hit rest ih =>
    have hsize : id < (cs.increment hit.rule.counter).counts.size := by
      rwa [increment, Array.size_modify]
    show ((cs.increment hit.rule.counter).countAll rest).get id = _
    rw [ih _ hsize, cs.get_increment h, List.countP_cons]
    simp only [beq_iff_eq]
    omega

end Counters

/-! ### Evaluation -/

namespace RuleList

variable (rules : String → Option Rule) (metadata : Json)

theorem firstMatch_cons (entry : RuleEntry) (rest : List RuleEntry) :
    firstMatch rules metadata (entry :: rest) =
      match entry.rule? rules with
      | none => .error entry.name
      | some rule =>
        if rule.condition.holds metadata then .ok (some rule)
        else firstMatch rules metadata rest := by
  cases entry with
  | inline rule => rfl
  | named name =>
    rw [firstMatch, RuleEntry.rule?]
    cases rules name with
    | none => rfl
    | some rule => rfl

/-- The rule that is found is the one that is hit. -/
theorem map_hit? (entries : List RuleEntry) :
    (hit? rules metadata entries).map Hit.rule =
      (firstMatch rules metadata entries).toOption.join := by
  induction entries with
  | nil => rfl
  | cons entry rest ih =>
    rw [hit?, firstMatch_cons]
    cases entry.rule? rules with
    | none => rfl
    | some rule =>
      by_cases hholds : rule.condition.holds metadata = true
      · simp only [if_pos hholds]
        rfl
      · simp only [if_neg hholds]
        exact ih

/-- What an evaluation comes to: no rule, or the one that is hit, which is counted. -/
theorem evaluate_cases (list : RuleList) (counters : Counters) :
    (∃ result, hit? rules metadata list.entries = none ∧
      (result = .ok none ∨ ∃ f, result = .error f) ∧
      list.evaluate rules metadata counters = (result, counters)) ∨
    ∃ hit, hit? rules metadata list.entries = some hit ∧
      list.evaluate rules metadata counters =
        (.ok (some hit.rule), counters.increment hit.rule.counter) := by
  have hhit := map_hit? rules metadata list.entries
  unfold evaluate
  cases hfound : firstMatch rules metadata list.entries with
  | error name =>
    rw [hfound] at hhit
    exact .inl ⟨_, Option.map_eq_none_iff.mp hhit, .inr ⟨_, rfl⟩, rfl⟩
  | ok found =>
    rw [hfound] at hhit
    cases found with
    | none => exact .inl ⟨_, Option.map_eq_none_iff.mp hhit, .inl rfl, rfl⟩
    | some rule =>
      obtain ⟨hit, hsome, rfl⟩ := Option.map_eq_some_iff.mp hhit
      exact .inr ⟨hit, hsome, rfl⟩

/-- To evaluate a list is to count the hit, if there is one. -/
theorem counters_evaluate (list : RuleList) (counters : Counters) :
    (list.evaluate rules metadata counters).2 =
      counters.countAll (hit? rules metadata list.entries).toList := by
  rcases evaluate_cases rules metadata list counters with
    ⟨result, hnone, -, heq⟩ | ⟨hit, hsome, heq⟩
  · rw [hnone, heq]
    rfl
  · rw [hsome, heq]
    rfl

theorem hit?_eq_some {entries : List RuleEntry} {hit : Hit}
    (h : hit? rules metadata entries = some hit) :
    hit.entry ∈ entries ∧ hit.entry.rule? rules = some hit.rule := by
  induction entries with
  | nil => cases h
  | cons entry rest ih =>
    rw [hit?] at h
    split at h
    · cases h
    · next rule hrule =>
      split at h
      · cases h
        exact ⟨List.mem_cons_self, hrule⟩
      · obtain ⟨hmem, hbehind⟩ := ih h
        exact ⟨List.mem_cons_of_mem _ hmem, hbehind⟩

end RuleList

namespace Snapshot

variable (s : Snapshot)

theorem offers_of_hit? {name : String} {list : RuleList} (there : s.ruleList? name = some list)
    {metadata : Json} {hit : Hit} (h : RuleList.hit? s.rule? metadata list.entries = some hit) :
    s.Offers hit :=
  ⟨name, list, there, RuleList.hit?_eq_some _ _ h⟩

theorem offers_of_mem_hits {lists : Nat} {name : String} {metadata : Json} {hit : Hit}
    (h : hit ∈ s.hits lists name metadata) : s.Offers hit := by
  induction lists generalizing name metadata with
  | zero => cases h
  | succ lists ih =>
    rw [hits] at h
    split at h
    · cases h
    · next first hfirst =>
      obtain ⟨list, hlist, hhit⟩ := Option.bind_eq_some_iff.mp hfirst
      have hoffers := s.offers_of_hit? hlist hhit
      split at h
      · rwa [List.mem_singleton.mp h]
      · rcases List.mem_cons.mp h with rfl | h
        · exact hoffers
        · exact ih h

/-- To look up is to count all hits. -/
theorem counters_follow (start : String) (lists : Nat) (name : String) (metadata : Json)
    (counters : Counters) : (s.follow start lists name metadata counters).counters =
      counters.countAll (s.hits lists name metadata) := by
  -- on the number of lists that may still be followed
  induction lists generalizing name metadata counters with
  | zero => rfl
  | succ lists ih =>
    rw [follow, hits]
    cases hlist : s.ruleList? name with
    | none => rfl
    | some list =>
      rw [Option.bind_some]
      dsimp only
      rcases RuleList.evaluate_cases s.rule? metadata list counters with
        ⟨result, hnone, hresult, heq⟩ | ⟨hit, hsome, heq⟩
      · rw [hnone, heq]
        rcases hresult with rfl | ⟨f, rfl⟩ <;> rfl
      · rw [hsome, heq]
        dsimp only
        unfold Rule.handsOn?
        cases hparse : Action.parse hit.rule.action with
        | error f => rfl
        | ok action =>
          dsimp only
          cases hroute : action.route with
          | some route => rfl
          | none =>
            cases happly : action.apply with
            | none => rfl
            | some next => exact ih next (action.annotate metadata) _

theorem counters_lookup (list : String) (metadata : Json) (counters : Counters) :
    (s.lookup list metadata counters).counters =
      counters.countAll (s.hits (maxDelegations + 1) list metadata) :=
  s.counters_follow list (maxDelegations + 1) list metadata counters

end Snapshot

end Switchboard

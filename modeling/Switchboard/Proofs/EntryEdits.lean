/-
Edits of single entries of a list of rules.

An entry is put in or taken out at its position, or it is edited at a path below `/rules/i`. The
first way keeps the other entries as they are. The second one shows the list, edits what is shown
and builds a new list from it, so that the other entries keep their contents but not their counts.

* `EntryEffect`: what happens at the position, and the entries beside it;
* `Admin.Operation.EditsEntry`: the operations that are addressed to a position of a list;
* `run_entryEdits`: what they keep, after every run;
* `not_editPath_keepsCounts`: an edit at a path does not keep all counts.
-/
import Switchboard.Proofs.Json.Path
import Switchboard.Proofs.References
import Switchboard.Proofs.Routing.RuleList

namespace Switchboard

/-! ### Entries beside the one that is edited -/

/-- What an edit does at a position of a list. -/
inductive EntryEffect
  | inserts
  | removes
  | changes

namespace EntryEffect

variable {α β : Type}

/-- The entries before the edit, without the one that it is about. -/
def before (effect : EntryEffect) (i : Nat) (entries : List α) : List α :=
  match effect with
  | inserts => entries
  | removes => entries.eraseIdx i
  | changes => entries.eraseIdx i

/-- The entries after the edit, without the one that it is about. -/
def after (effect : EntryEffect) (i : Nat) (entries : List α) : List α :=
  match effect with
  | inserts => entries.eraseIdx i
  | removes => entries
  | changes => entries.eraseIdx i

variable (effect : EntryEffect) (i : Nat)

theorem map_before (f : α → β) (entries : List α) :
    (effect.before i entries).map f = effect.before i (entries.map f) := by
  cases effect with
  | inserts => rfl
  | removes => exact (List.eraseIdx_map ..).symm
  | changes => exact (List.eraseIdx_map ..).symm

theorem items_before {item : Decoder α} {vs : List Json} {as : List α}
    (h : Decode.items item vs = .ok as) :
    Decode.items item (effect.before i vs) = .ok (effect.before i as) := by
  cases effect with
  | inserts => exact h
  | removes => exact Decode.items_eraseIdx h i
  | changes => exact Decode.items_eraseIdx h i

theorem items_after {item : Decoder α} {vs : List Json} {as : List α}
    (h : Decode.items item vs = .ok as) :
    Decode.items item (effect.after i vs) = .ok (effect.after i as) := by
  cases effect with
  | inserts => exact Decode.items_eraseIdx h i
  | removes => exact h
  | changes => exact Decode.items_eraseIdx h i

theorem map_content_buildAll (res : Resources) {rs : List RuleReference}
    (h : ∀ r ∈ effect.after i rs, r.HasName) :
    (effect.after i (RuleEntry.buildAll res rs).1).map RuleEntry.content = effect.after i rs := by
  cases effect with
  | inserts => exact RuleEntry.map_content_eraseIdx_buildAll res h
  | removes => exact RuleEntry.map_content_buildAll res h
  | changes => exact RuleEntry.map_content_eraseIdx_buildAll res h

end EntryEffect

/-! ### Operations on entries -/

namespace Admin

/-- The operations that are addressed to a position of a list of rules. -/
inductive Operation.EditsEntry (list : String) (i : Nat) : Operation → EntryEffect → Prop
  | insert (v : Json) : EditsEntry list i (.insertEntry list i v) .inserts
  | delete : EditsEntry list i (.deleteEntry list i) .removes
  | set (path s : String) (rest : List String) (value : Json)
      (inside : Path.segments path = "rules" :: s :: rest) (index : Numeral.index? s = some i) :
      EditsEntry list i (.setPath .ruleList list path value) .changes
  /-- The whole entry is taken out. -/
  | deletePath (path s : String) (inside : Path.segments path = ["rules", s])
      (index : Numeral.index? s = some i) :
      EditsEntry list i (.deletePath .ruleList list path) .removes
  /-- A part of the entry is taken out. -/
  | deleteInside (path s t : String) (rest : List String)
      (inside : Path.segments path = "rules" :: s :: t :: rest)
      (index : Numeral.index? s = some i) :
      EditsEntry list i (.deletePath .ruleList list path) .changes

/-- Whether an operation edits a list at a position, and not at a path. -/
def Operation.isPositional : Operation → Bool
  | insertEntry _ _ _ => true
  | deleteEntry _ _ => true
  | _ => false

/-! ### Edits at positions -/

variable {strict : Bool} {name : String} {i : Nat} {s next : Snapshot} {res later : Resources}
  {answer : Json}

theorem insertEntry_eq_ok {v : Json}
    (h : insertEntry strict name i v s res = (.ok (answer, next), later)) :
    ∃ list entry longer, s.ruleList? name = some list ∧
      list.inserted? i entry = some longer ∧ next = s.putRuleList longer ∧
      ∀ id, later.counters.get id = res.counters.get id := by
  unfold insertEntry at h
  dsimp only at h
  split at h
  · cases h
  · next reference list hfound =>
    obtain ⟨_, -, hfound⟩ := Except.bind_eq_ok.mp hfound
    obtain ⟨_, hlist, hfound⟩ := Except.bind_eq_ok.mp hfound
    cases hfound
    split at h
    · cases h
    · next longer hlonger =>
      split at h
      · cases h
      · cases h
        exact ⟨list, _, longer, ruleListOf_eq_ok.mp hlist, hlonger, rfl,
          RuleEntry.get_build res reference⟩

theorem deleteEntry_eq_ok (h : deleteEntry name i s res = (.ok (answer, next), later)) :
    ∃ list shorter, s.ruleList? name = some list ∧ list.removed? i = some shorter ∧
      next = s.putRuleList shorter ∧ later = res := by
  unfold deleteEntry at h
  dsimp only at h
  split at h
  · cases h
  · next list entry hfound =>
    obtain ⟨_, hlist, hfound⟩ := Except.bind_eq_ok.mp hfound
    obtain ⟨_, -, hfound⟩ := Except.bind_eq_ok.mp hfound
    cases hfound
    split at h
    · cases h
    · next shorter hshorter =>
      cases h
      exact ⟨list, shorter, ruleListOf_eq_ok.mp hlist, hshorter, rfl, rfl⟩

/-! ### Edits at paths -/

theorem updateRuleList_eq_ok {v : Json}
    (h : updateRuleList strict name v s res = (.ok (answer, next), later)) :
    ∃ d, RuleListDefinition.decode v = .ok d ∧
      next = s.putRuleList (RuleList.build res name d).1 ∧
      later = (RuleList.build res name d).2 := by
  unfold updateRuleList at h
  split at h
  · cases h
  · next d hd =>
    unfold storeRuleList at h
    dsimp only at h
    split at h
    · cases h
    · exact ⟨d, decodeAs_eq_ok hd, buildRuleList_eq_ok h⟩

/-- An edit at a path of a list reads the document that it makes, and builds the list anew. -/
theorem editDefinition_ruleList_eq_ok {time : Nat} {path : String} {change : PathEdit}
    (h : editDefinition strict time .ruleList name path change s res =
      (.ok (answer, next), later)) :
    ∃ list doc d, s.ruleList? name = some list ∧
      change (viewRuleList s res.counters false list) path = .ok doc ∧
      RuleListDefinition.decode doc = .ok d ∧
      next = s.putRuleList (RuleList.build res name d).1 ∧
      later = (RuleList.build res name d).2 := by
  unfold editDefinition at h
  dsimp only at h
  split at h
  · cases h
  · next doc hdoc =>
    obtain ⟨view, hview, hdoc⟩ := Except.bind_eq_ok.mp hdoc
    unfold definitionOf at hview
    cases hlist : ruleListOf s name with
    | error f =>
      rw [hlist] at hview
      cases hview
    | ok list =>
      rw [hlist] at hview
      cases hview
      obtain ⟨d, hd, hnext, hlater⟩ := updateRuleList_eq_ok h
      exact ⟨list, doc, d, ruleListOf_eq_ok.mp hlist, hdoc, hd, hnext, hlater⟩

theorem rules_of_writing {fields : List (String × Json)} {items : List Json} {path seg : String}
    {rest : List String} {value : Json} {d : RuleListDefinition}
    (hitems : Table.find? fields "rules" = some (.array items))
    (inside : Path.segments path = "rules" :: seg :: rest) (index : Numeral.index? seg = some i)
    (h : RuleListDefinition.decode (Path.set (.object fields) path value) = .ok d) :
    ∃ vs, Decode.items RuleReference.decode vs = .ok d.rules ∧
      vs.eraseIdx i = items.eraseIdx i := by
  rw [Path.set, inside, Path.setAt_field hitems] at h
  obtain ⟨vs, hvs, hread⟩ := RuleListDefinition.items_of_decode h (Table.find?_insert_self ..)
  -- an empty item is no rule, so the edit fails if it leaves one
  refine ⟨vs, hread, Path.eraseIdx_of_setAt index hvs fun hnull => ?_⟩
  obtain ⟨reference, hreference⟩ := Decode.exists_of_mem_of_items hread hnull
  cases hreference

theorem rules_of_removing {fields : List (String × Json)} {items : List Json} {path seg : String}
    {rest : List String} {doc : Json} {d : RuleListDefinition}
    (hitems : Table.find? fields "rules" = some (.array items))
    (inside : Path.segments path = "rules" :: seg :: rest)
    (hdoc : removing .ruleList name path (.object fields) path = .ok doc)
    (h : RuleListDefinition.decode doc = .ok d) :
    ∃ v vs, Path.removeAt? (.array items) (seg :: rest) = some (v, .array vs) ∧
      Decode.items RuleReference.decode vs = .ok d.rules := by
  unfold removing Path.remove? at hdoc
  rw [inside, Path.removeAt?_field hitems] at hdoc
  cases hremoved : Path.removeAt? (.array items) (seg :: rest) with
  | none =>
    rw [hremoved] at hdoc
    cases hdoc
  | some r =>
    obtain ⟨v, left⟩ := r
    rw [hremoved] at hdoc
    cases hdoc
    obtain ⟨vs, rfl, hread⟩ :=
      RuleListDefinition.items_of_decode h (Table.find?_insert_self ..)
    exact ⟨v, vs, rfl, hread⟩

/-- A list that is built from what is shown of another one, apart from the entry that an edit is
about, has the other's entries, apart from that one. -/
theorem map_content_rebuilt {effect : EntryEffect} {list : RuleList} {d : RuleListDefinition}
    {rules : String → Option Rule} {counters : Counters} {vs : List Json}
    (written : ∀ rule, .inline rule ∈ list.entries → rule.condition.Written)
    (hread : Decode.items RuleReference.decode vs = .ok d.rules)
    (hothers : effect.after i vs =
      effect.before i (list.entries.map (RuleEntry.view rules counters false))) :
    (effect.after i (RuleList.build res name d).1.entries).map RuleEntry.content =
      (effect.before i list.entries).map RuleEntry.content := by
  have hviews : Decode.items RuleReference.decode
      (list.entries.map (RuleEntry.view rules counters false)) =
        .ok (list.entries.map RuleEntry.content) :=
    Decode.items_map fun entry he =>
      RuleEntry.decode_view (fun rule hrule => written rule (hrule ▸ he)) rules counters
  have hrules : effect.after i d.rules = (effect.before i list.entries).map RuleEntry.content := by
    have hafter := effect.items_after i hread
    rw [hothers, effect.items_before i hviews] at hafter
    rw [effect.map_before]
    exact (Except.ok.inj hafter).symm
  rw [← hrules]
  refine effect.map_content_buildAll i res fun r hr => ?_
  rw [hrules] at hr
  obtain ⟨entry, -, rfl⟩ := List.mem_map.mp hr
  exact entry.hasName_content

end Admin

/-! ### Runs -/

namespace Proxy

open Admin

/-- What an edit of an entry keeps. `positional` says whether it is addressed to the position and
not to a path. -/
structure KeepsOthers (name : String) (i : Nat) (effect : EntryEffect) (positional : Bool)
    (p q : Proxy) (before after : RuleList) : Prop where
  thereBefore : p.registry.current.ruleList? name = some before
  thereAfter : q.registry.current.ruleList? name = some after
  contents : (effect.after i after.entries).map RuleEntry.content =
    (effect.before i before.entries).map RuleEntry.content
  counters : ∀ id, q.registry.counters.get id = p.registry.counters.get id
  identical : positional = true → effect.after i after.entries = effect.before i before.entries
  recounted : positional = false →
    ∀ rule, .inline rule ∈ after.entries → q.registry.counters.get rule.counter = 0

variable {p q : Proxy} {name : String} {i : Nat} {effect : EntryEffect} {answer : Json}

theorem keepsOthers_of_identical {before after : RuleList} {next : Snapshot} {later : Resources}
    (there : p.registry.current.ruleList? name = some before) (hname : after.name = name)
    (hq : q.registry = ⟨next, later⟩) (hnext : next = p.registry.current.putRuleList after)
    (identical : effect.after i after.entries = effect.before i before.entries)
    (counters : ∀ id, later.counters.get id = p.registry.counters.get id) :
    KeepsOthers name i effect true p q before after where
  thereBefore := there
  thereAfter := by
    rw [hq, hnext, ← hname]
    exact Table.find?_insert_self ..
  contents := by rw [identical]
  counters := by
    rw [hq]
    exact counters
  identical := fun _ => identical
  recounted := nofun

theorem insertEntry_keepsOthers {strict : Bool} {v : Json}
    (names : ∀ list, p.registry.current.ruleList? name = some list → list.name = name)
    (h : p.update (insertEntry strict name i v) = (.ok answer, q)) :
    ∃ before after, KeepsOthers name i .inserts true p q before after := by
  obtain ⟨next, later, hedit, hq⟩ := update_eq_ok h
  obtain ⟨list, entry, longer, hlist, hlonger, hnext, hcounters⟩ := insertEntry_eq_ok hedit
  obtain rfl := eq_of_inserted? hlonger
  have hothers : (list.entries.insertIdx i entry).eraseIdx i = list.entries :=
    List.eraseIdx_insertIdx_self ..
  refine ⟨list, { list with entries := list.entries.insertIdx i entry }, ?_⟩
  exact keepsOthers_of_identical hlist (names list hlist) hq hnext hothers hcounters

theorem deleteEntry_keepsOthers
    (names : ∀ list, p.registry.current.ruleList? name = some list → list.name = name)
    (h : p.update (deleteEntry name i) = (.ok answer, q)) :
    ∃ before after, KeepsOthers name i .removes true p q before after := by
  obtain ⟨next, later, hedit, hq⟩ := update_eq_ok h
  obtain ⟨list, shorter, hlist, hshorter, hnext, rfl⟩ := deleteEntry_eq_ok hedit
  obtain rfl := eq_of_removed? hshorter
  refine ⟨list, { list with entries := list.entries.eraseIdx i }, ?_⟩
  exact keepsOthers_of_identical hlist (names list hlist) hq hnext rfl fun _ => rfl

/-- An edit at a path keeps what the same edit of the shown list keeps. -/
theorem editPath_keepsOthers {path seg : String} {rest : List String} {change : PathEdit}
    (written : ∀ rule ∈ p.registry.current.allRules, rule.condition.Written)
    (inside : Path.segments path = seg :: rest)
    (shown : ∀ fields items doc d, Table.find? fields "rules" = some (.array items) →
      change (.object fields) path = .ok doc → RuleListDefinition.decode doc = .ok d →
      ∃ vs, Decode.items RuleReference.decode vs = .ok d.rules ∧
        effect.after i vs = effect.before i items)
    (h : editPath p .ruleList name path change = (.ok answer, q)) :
    ∃ before after, KeepsOthers name i effect false p q before after := by
  unfold editPath at h
  rw [if_neg (by simp [Path.isRoot, inside])] at h
  obtain ⟨next, later, hedit, hq⟩ := update_eq_ok h
  obtain ⟨list, doc, d, hlist, hdoc, hd, rfl, rfl⟩ := editDefinition_ruleList_eq_ok hedit
  obtain ⟨vs, hread, hothers⟩ := shown _ _ doc d (Table.find?_ofList ..) hdoc hd
  have hown (rule : Rule) (hrule : .inline rule ∈ list.entries) : rule.condition.Written :=
    written rule (Snapshot.inline_mem_allRules hlist hrule)
  have hcounters := RuleEntry.get_buildAll p.registry.resources d.rules
  refine ⟨list, (RuleList.build p.registry.resources name d).1, hlist, ?_, ?_, ?_, nofun, ?_⟩
  · rw [hq]
    exact Table.find?_insert_self ..
  · exact map_content_rebuilt hown hread hothers
  · rw [hq]
    exact hcounters
  · intro _ rule hrule
    rw [hq]
    exact (hcounters _).trans (RuleEntry.get_counter_buildAll _ hrule)

/-- Every list is stored under its own name. -/
theorem run_ruleListNames {strict : Bool} {events : List Event}
    (checked : ∀ e ∈ events, e.isChecked = true) {list : RuleList}
    (h : (run events (fresh strict)).registry.current.ruleList? name = some list) :
    list.name = name := by
  have hclosed : (run events (fresh strict)).registry.current.Closed
      (run events (fresh strict)).registry.clusters :=
    run_snapshot Snapshot.Closed (fun _ _ _ hgrows hs => hs.grows hgrows)
      (fun _ _ _ hchange hs => hchange.closed hs) (.empty _) checked
  exact hclosed.ruleListNames _ (Table.mem_of_find? h)

/-- **The other entries keep their contents, but not always their counts.** Take any edit that
succeeds after any run of checked events and is addressed to one position of a list. All other
entries are there afterwards, in the same order and with the same contents, and no count has
changed. If the edit was addressed to the position itself, they are the same rules, which go on
being counted. If it was addressed to a path, all rules of the list's own are new ones, which have
not been applied yet. -/
theorem run_entryEdits {strict : Bool} {events : List Event}
    (checked : ∀ e ∈ events, e.isChecked = true) {op : Operation}
    (edits : op.EditsEntry name i effect)
    (done : op.carryOut (run events (fresh strict)) = (.ok answer, q)) :
    ∃ before after,
      KeepsOthers name i effect op.isPositional (run events (fresh strict)) q before after := by
  have hnames (list : RuleList)
      (h : (run events (fresh strict)).registry.current.ruleList? name = some list) :
      list.name = name :=
    run_ruleListNames checked h
  have hwritten : ∀ rule ∈ (run events (fresh strict)).registry.current.allRules,
      rule.condition.Written :=
    fun rule there => (run_built checked there).condition
  -- one case for each way to address an entry; the last three build the list anew
  cases edits with
  | insert v => exact insertEntry_keepsOthers hnames done
  | delete => exact deleteEntry_keepsOthers hnames done
  | set path seg rest value inside index =>
    refine editPath_keepsOthers hwritten inside (fun fields items doc d hitems hdoc hd => ?_) done
    cases hdoc
    exact rules_of_writing hitems inside index hd
  | deletePath path seg inside index =>
    refine editPath_keepsOthers hwritten inside (fun fields items doc d hitems hdoc hd => ?_) done
    obtain ⟨v, vs, hremoved, hread⟩ := rules_of_removing hitems inside hdoc hd
    exact ⟨vs, hread, Path.eq_eraseIdx_of_removeAt? index hremoved⟩
  | deleteInside path seg t rest inside index =>
    refine editPath_keepsOthers hwritten inside (fun fields items doc d hitems hdoc hd => ?_) done
    obtain ⟨v, vs, hremoved, hread⟩ := rules_of_removing hitems inside hdoc hd
    exact ⟨vs, hread, Path.eraseIdx_of_removeAt? index hremoved⟩

/-- A list with two rules of its own, the second of which has been applied to a session. -/
def appliedOnce : List Event :=
  [.operation (.addRuleList (.ofFields
      [("name", .string "main"), ("rules", .array
        [.ofFields
            [("name", .string "marked"),
              ("match", .ofFields [("op", .string "defined"), ("path", .string "/mark")]),
              ("action", .ofFields [("route", .string "fast")])],
          .ofFields
            [("name", .string "every"), ("match", .string "*"),
              ("action", .ofFields [("route", .string "slow")])]])])),
    .dispatch (.ofFields []) "main" none, .step 0]

/-- The first rule gets another route. -/
def rerouted : Operation :=
  .setPath .ruleList "main" "/rules/0/action/route" (.string "faster")

theorem rerouted_editsEntry : rerouted.EditsEntry "main" 0 .changes :=
  .set _ "0" ["action", "route"] _ (by decide +kernel) (by decide +kernel)

theorem exists_carryOut_rerouted : ∃ answer q,
    rerouted.carryOut (run appliedOnce (fresh false)) = (.ok answer, q) := by
  have hok : (rerouted.carryOut (run appliedOnce (fresh false))).1.isOk = true := by
    decide +kernel
  cases hdone : rerouted.carryOut (run appliedOnce (fresh false)) with
  | mk result q =>
    cases result with
    | ok answer => exact ⟨answer, q, rfl⟩
    | error f =>
      rw [hdone] at hok
      cases hok

theorem run_entryEdits_rerouted :
    (∀ e ∈ appliedOnce, e.isChecked = true) ∧
      ∃ answer q before after, rerouted.carryOut (run appliedOnce (fresh false)) = (.ok answer, q) ∧
        KeepsOthers "main" 0 .changes false (run appliedOnce (fresh false)) q before after := by
  have hchecked : ∀ e ∈ appliedOnce, e.isChecked = true := by
    simp [appliedOnce, Event.isChecked]
  obtain ⟨answer, q, hdone⟩ := exists_carryOut_rerouted
  obtain ⟨before, after, hkeeps⟩ := run_entryEdits hchecked rerouted_editsEntry hdone
  exact ⟨hchecked, answer, q, before, after, hdone, hkeeps⟩

/-- Not every edit lets the other rules of the list's own keep their counts. -/
theorem not_editPath_keepsCounts :
    ¬ ∀ (strict : Bool) (events : List Event), (∀ e ∈ events, e.isChecked = true) →
      ∀ (op : Operation) (name : String) (i : Nat) (effect : EntryEffect) (answer : Json)
        (q : Proxy), op.EditsEntry name i effect →
        op.carryOut (run events (fresh strict)) = (.ok answer, q) →
        ∃ before after,
          (run events (fresh strict)).registry.current.ruleList? name = some before ∧
          q.registry.current.ruleList? name = some after ∧
          (effect.after i after.entries).map (RuleEntry.count? q.registry.counters) =
            (effect.before i before.entries).map
              (RuleEntry.count? (run events (fresh strict)).registry.counters) := by
  intro h
  have hchecked : ∀ e ∈ appliedOnce, e.isChecked = true := by
    simp [appliedOnce, Event.isChecked]
  obtain ⟨answer, q, hdone⟩ := exists_carryOut_rerouted
  have hq : q = (rerouted.carryOut (run appliedOnce (fresh false))).2 := by rw [hdone]
  obtain ⟨before, after, hbefore, hafter, hcounts⟩ :=
    h false appliedOnce hchecked rerouted "main" 0 .changes answer q rerouted_editsEntry hdone
  have hold : ((run appliedOnce (fresh false)).registry.current.ruleList? "main").map
      (fun list => (list.entries.eraseIdx 0).map
        (RuleEntry.count? (run appliedOnce (fresh false)).registry.counters)) =
      some [some 1] := by
    decide +kernel
  have hnew : ((rerouted.carryOut (run appliedOnce (fresh false))).2.registry.current.ruleList?
      "main").map (fun list => (list.entries.eraseIdx 0).map (RuleEntry.count?
        (rerouted.carryOut (run appliedOnce (fresh false))).2.registry.counters)) =
      some [some 0] := by
    decide +kernel
  rw [hbefore] at hold
  rw [← hq, hafter] at hnew
  have heq : some [some 0] = some [some 1] := hnew.symm.trans ((congrArg some hcounts).trans hold)
  cases heq

end Proxy

end Switchboard

/-
Operations change what they name, and nothing else.

An operation is about one thing: a registered one or a live session. If it fails, nothing has
changed but what was used up on the way. If it succeeds, everything else is as it was, though some
operations edit a document first or build clusters on the way. What is added takes a name that
nothing of its kind has.

* `Proxy.entity?`: everything that operations can name, by kind and name;
* `Proxy.OwnSessions`: live sessions are listed under their own names;
* `run_locality`: what operations leave alone, after every run;
* `not_add_alreadyExists`: not every taken name is reported as such.
-/
import Switchboard.Proofs.InlineRoutes
import Switchboard.Proofs.Proxy.Acts
import Switchboard.Proofs.Proxy.Course
import Switchboard.Proofs.Proxy.Roster

namespace Switchboard

/-! ### Names that are things' own -/

theorem Admin.Change.ownNames {strict : Bool} {pool : ClusterPool} {s next : Snapshot}
    (h : Change strict pool s next) (own : s.OwnNames) : next.OwnNames := by
  cases h with
  | rule r => exact ⟨Table.own_insert r own.rules, own.ruleLists⟩
  | ruleDropped name => exact ⟨Table.own_erase own.rules, own.ruleLists⟩
  | ruleList list => exact ⟨own.rules, Table.own_insert list own.ruleLists⟩
  | ruleListDropped name => exact ⟨own.rules, Table.own_erase own.ruleLists⟩
  | entryDropped name list shorter => exact ⟨own.rules, Table.own_insert shorter own.ruleLists⟩
  | _ => exact ⟨own.rules, own.ruleLists⟩

/-- Whether rules and lists of rules that are handed in are stored under their own names. -/
def Event.KeepsNames : Event → Prop
  | .handIn change => ∀ r : Registry, r.current.OwnNames → (change r).current.OwnNames
  | _ => True

theorem Event.keepsNames_of_isChecked {e : Event} (checked : e.isChecked = true) :
    e.KeepsNames := by
  cases e with
  | handIn change => cases checked
  | _ => exact trivial

namespace Proxy

theorem ownNames_fresh (strict : Bool) : (fresh strict).registry.current.OwnNames :=
  ⟨nofun, nofun⟩

theorem ownNames_apply {p : Proxy} {e : Event} (keeps : e.KeepsNames)
    (own : p.registry.current.OwnNames) : (p.apply e).registry.current.OwnNames := by
  cases hchecked : e.isChecked with
  | false =>
    cases e with
    | handIn change => exact keeps p.registry own
    | _ => cases hchecked
  | true =>
    obtain ⟨⟨-, hcurrent⟩, -⟩ := p.apply_moves hchecked
    rcases hcurrent with hsame | hchange
    · rwa [hsame]
    · exact hchange.ownNames own

/-- Every live session is listed under its own name. -/
def OwnSessions (p : Proxy) : Prop :=
  ∀ name id, Table.find? p.live name = some id → ∃ a, p.actor? id = some a ∧ a.session.name = name

/-- Sessions go on under their names, and some may leave the table. -/
theorem OwnSessions.goOn {R : Duplex → Duplex → Prop} {may : Deed → Prop}
    {handed : ActorId → Option StreamId} {p q : Proxy} (own : p.OwnSessions)
    (turns : p.Turns R may handed q)
    (less : ∀ name id, Table.find? q.live name = some id → Table.find? p.live name = some id) :
    q.OwnSessions := by
  intro name id hid
  obtain ⟨a, ha, hname⟩ := own name id (less name id hid)
  obtain ⟨b, hb, hgoes⟩ := turns.old id a ha
  have hsame : b.session.name = a.session.name := congrArg Prod.snd hgoes.identity
  exact ⟨b, hb, hsame.trans hname⟩

/-- A session that starts is listed under its name. -/
theorem OwnSessions.start {p q : Proxy} {name : String} {b : Actor} (own : p.OwnSessions)
    (hlive : q.live = Table.insert p.live name p.actors.size)
    (hactors : q.actors = p.actors.push b) (hname : b.session.name = name) : q.OwnSessions := by
  intro n id hid
  rw [hlive] at hid
  rw [actor?_of_push hactors]
  rcases Table.find?_insert_eq_some hid with ⟨rfl, rfl⟩ | hid
  · exact ⟨b, if_pos rfl, hname⟩
  · obtain ⟨a, ha, hown⟩ := own n id hid
    exact ⟨a, by rw [if_neg (ne_size_of_actor? ha), ha], hown⟩

theorem find?_leave_le (p : Proxy) (id : ActorId) {name : String} {j : ActorId}
    (h : Table.find? (p.leave id).live name = some j) : Table.find? p.live name = some j := by
  rw [leave] at h
  split at h
  · exact h
  · split at h
    · split at h
      · exact Table.find?_of_find?_erase h
      · exact h
    · exact h

/-- A session that leaves takes no entry of another name with it. -/
theorem find?_leave_of_ne {p : Proxy} {id : ActorId} {a : Actor} (ha : p.actor? id = some a)
    {name : String} (hne : name ≠ a.session.name) :
    Table.find? (p.leave id).live name = Table.find? p.live name := by
  rw [leave, ha]
  dsimp only
  split
  · split
    · exact Table.find?_erase_of_ne hne _
    · rfl
  · rfl

theorem find?_abort (p : Proxy) (id : ActorId) (name : String) :
    Table.find? (p.abort id).live name = Table.find? p.live name := by
  rw [show (p.abort id).live = p.live from congrArg Prod.fst (p.roster_abort id)]

theorem find?_destroy_le (p : Proxy) (name : String) {other : String} {j : ActorId}
    (h : Table.find? (p.destroy name).2.live other = some j) :
    Table.find? p.live other = some j := by
  rw [destroy] at h
  split at h
  · exact h
  · next id _ =>
    rw [← p.find?_abort id]
    exact find?_leave_le _ id h

theorem find?_shutdown_le (p : Proxy) {name : String} {j : ActorId}
    (h : Table.find? p.shutdown.live name = some j) : Table.find? p.live name = some j := by
  -- the table shrinks on the way, but it is the first one that is gone through
  have hall (entries : Table ActorId) (p : Proxy)
      (h : Table.find? (entries.foldl (fun p e => (p.abort e.2).leave e.2) p).live name = some j) :
      Table.find? p.live name = some j := by
    induction entries generalizing p with
    | nil => exact h
    | cons e rest ih =>
      rw [← p.find?_abort e.2]
      exact find?_leave_le _ e.2 (ih _ h)
  exact hall p.live p h

theorem ownSessions_apply {p : Proxy} (own : p.OwnSessions) (e : Event) :
    (p.apply e).OwnSessions := by
  have hturns := p.apply_turns e
  -- names are given when sessions start, and all other events at most take entries out
  cases hconcerns : p.concernsTable e with
  | false =>
    refine own.goOn hturns fun name id hid => ?_
    rwa [show (p.apply e).live = p.live from congrArg Prod.fst (roster_apply hconcerns)] at hid
  | true =>
    cases e with
    | dispatch metadata ruleList hook =>
      rcases p.accept_cases metadata ruleList hook with
        ⟨name, metadata', b, -, -, hlive, hactors, hrunning⟩ | ⟨-, hroster⟩
      · refine own.start hlive hactors ?_
        rw [Actor.session, hrunning]
        rfl
      · refine own.goOn hturns fun name id hid => ?_
        have hlive : (p.apply (.dispatch metadata ruleList hook)).live = p.live :=
          congrArg Prod.fst hroster
        rwa [hlive] at hid
    | destroy name => exact own.goOn hturns fun _ _ h => p.find?_destroy_le name h
    | shutdown => exact own.goOn hturns fun _ _ h => p.find?_shutdown_le h
    | step id =>
      obtain ⟨a, -, -, hstep⟩ := exists_leaving hconcerns
      refine own.goOn hturns fun other j hj => p.find?_leave_le id ?_
      rwa [hstep] at hj
    | operation op =>
      cases op with
      | deleteSession name =>
        refine own.goOn hturns fun other j hj => ?_
        rw [apply, Admin.Operation.carryOut] at hj
        rcases deleteSession_cases p name with hsame | hdestroyed
        · rwa [hsame] at hj
        · rw [hdestroyed] at hj
          exact p.find?_destroy_le name hj
      | _ => cases hconcerns
    | _ => cases hconcerns

end Proxy

/-! ### What operations are about -/

/-- Whether what is to be added can be read and, where that is checked, is well formed. -/
def Admin.Operation.Accepted (strict : Bool) : Operation → Prop
  | addRule v => ∃ d, RuleDefinition.decode v = .ok d ∧ checkMatch strict .rule d.condition = .ok ()
  | addRuleList v => ∃ d, RuleListDefinition.decode v = .ok d
  | addRoute v => ∃ d, RouteDefinition.decode v = .ok d
  | addCluster v => ∃ d, ClusterDefinition.decode false v = .ok d
  | _ => True

/-- The rules whose counts belong to a thing. -/
def Thing.rules : Thing → List Rule
  | rule r => [r]
  | ruleList list => list.ownRules
  | _ => []

/-- One thing that operations can name, with all there is of it. -/
inductive Entity
  | registered (thing : Thing) (counts : List Nat)
  | session (id : ActorId) (actor : Actor)

namespace Proxy

/-- What goes by a name among the things of a kind. -/
def entity? (p : Proxy) (kind : EntityKind) (name : String) : Option Entity :=
  match kind with
  | .session => (p.liveActor? name).map fun s => .session s.1 s.2
  | kind => (p.registry.current.thing? kind name).map fun thing =>
    .registered thing (thing.rules.map fun rule => p.registry.counters.get rule.counter)

/-- An entity is the same if what is registered of it is, with its counts, and the live session. -/
theorem entity?_congr {p q : Proxy} {kind : EntityKind} {name : String}
    (thing : q.registry.current.thing? kind name = p.registry.current.thing? kind name)
    (count : ∀ id, q.registry.counters.get id = p.registry.counters.get id)
    (live : kind = .session → q.liveActor? name = p.liveActor? name) :
    q.entity? kind name = p.entity? kind name := by
  cases kind with
  | session => simp only [entity?, live rfl]
  | _ => simp only [entity?, thing, count]

theorem entity?_eq_none_iff {p : Proxy} {kind : EntityKind} {name : String}
    (session : kind ≠ .session) :
    p.entity? kind name = none ↔ p.registry.current.thing? kind name = none := by
  cases kind with
  | session => exact absurd rfl session
  | _ => exact Option.map_eq_none_iff

/-- Nothing has changed but what was used up. -/
def Untouched (p q : Proxy) : Prop :=
  ∃ later, p.registry.resources.Extends later ∧
    q = { p with registry := ⟨p.registry.current, later⟩ }

/-- Nothing has changed but one thing, and what was used up. -/
structure Alters (kind : EntityKind) (name : String) (p q : Proxy) : Prop where
  others : ∀ k n, (k = kind → n ≠ name) → q.entity? k n = p.entity? k n
  extended : p.registry.resources.Extends q.registry.resources

/-- What an operation comes to, by its answer and the proxy after it. -/
structure Local {α : Type} (adds : Bool) (kind : EntityKind) (given : Option String) (p : Proxy)
    (result : Except Admin.Fault α × Proxy) : Prop where
  failed : ∀ f, result.1 = .error f → p.Untouched result.2
  done : ∀ answer, result.1 = .ok answer → ∃ name, (∀ n ∈ given, name = n) ∧
    Alters kind name p result.2 ∧
    (adds = true → p.entity? kind name = none ∧ (result.2.entity? kind name).isSome = true)

section Local

variable {α : Type} {adds : Bool} {kind : EntityKind} {given : Option String} {p q : Proxy}

theorem Local.of_failed (f : Admin.Fault) (h : p.Untouched q) :
    Local adds kind given p ((.error f, q) : Except Admin.Fault α × Proxy) :=
  ⟨fun _ _ => h, nofun⟩

theorem Local.of_refused (p : Proxy) (f : Admin.Fault) :
    Local adds kind given p ((.error f, p) : Except Admin.Fault α × Proxy) :=
  .of_failed f ⟨_, .refl _, rfl⟩

theorem Local.of_done {answer : α} (name : String) (addressed : ∀ n ∈ given, name = n)
    (alters : Alters kind name p q)
    (new : adds = true → p.entity? kind name = none ∧ (q.entity? kind name).isSome = true) :
    Local adds kind given p ((.ok answer, q) : Except Admin.Fault α × Proxy) where
  failed f h := by cases h
  done _ _ := ⟨name, addressed, alters, new⟩

theorem Local.map {β : Type} {result : Except Admin.Fault α × Proxy}
    (h : Local adds kind given p result) (f : α → β) :
    Local adds kind given p (result.1.map f, result.2) := by
  obtain ⟨answer, q⟩ := result
  cases answer with
  | error fault => exact .of_failed fault (h.failed fault rfl)
  | ok a =>
    obtain ⟨name, addressed, alters, new⟩ := h.done a rfl
    exact .of_done name addressed alters new

end Local

theorem update_local {α : Type} {adds : Bool} {kind : EntityKind} {given : Option String}
    {edit : Admin.Edit α} (acts : Admin.ActsOn adds kind given edit)
    (session : kind ≠ .session) {p : Proxy} (own : p.registry.current.OwnNames) :
    Local adds kind given p (p.update edit) := by
  have heffect := acts p.registry.current p.registry.resources own
  rw [update, Registry.update]
  generalize edit p.registry.current p.registry.resources = result at heffect
  -- counts and clusters that were built for an edit stay used up even if it is refused
  cases heffect with
  | refused f later extended => exact .of_failed f ⟨later, extended, rfl⟩
  | done answer next later name extended addressed act new =>
    refine .of_done name addressed ⟨fun k n hne => ?_, extended⟩ fun hadds => ?_
    · exact entity?_congr (act.thing?_of_ne hne) extended.count fun _ => rfl
    · obtain ⟨hfree, hthere⟩ := new hadds
      refine ⟨(entity?_eq_none_iff session).mpr hfree, ?_⟩
      rw [← Option.ne_none_iff_isSome, Ne, entity?_eq_none_iff session]
      exact Option.ne_none_iff_isSome.mpr hthere

/-! ### Sessions -/

/-- One live session changes, or it is taken out of the table. Sessions of other names are others,
for each is listed under its own name. -/
theorem alters_session {p q : Proxy} (own : p.OwnSessions) {name : String} {id : ActorId}
    (listed : Table.find? p.live name = some id) (registry : q.registry = p.registry)
    (live : ∀ n, n ≠ name → Table.find? q.live n = Table.find? p.live n)
    (actors : ∀ j, j ≠ id → q.actor? j = p.actor? j) : Alters .session name p q := by
  refine ⟨fun k n hne => ?_, by rw [registry]; exact .refl _⟩
  refine entity?_congr (by rw [registry]) (fun _ => by rw [registry]) fun hk => ?_
  rw [liveActor?, liveActor?, live n (hne hk)]
  cases hfound : Table.find? p.live n with
  | none => rfl
  | some j =>
    have hj : j ≠ id := by
      rintro rfl
      obtain ⟨a, ha, hname⟩ := own n j hfound
      obtain ⟨b, hb, hname'⟩ := own name j listed
      rw [ha, Option.some_inj] at hb
      exact hne hk (by rw [← hname, hb, hname'])
    rw [Option.bind_some, Option.bind_some, actors j hj]

theorem editSession_local {p : Proxy} (own : p.OwnSessions) (name path : String)
    (change : Admin.PathEdit) :
    Local false .session (some name) p (Admin.editSession p name path change) := by
  unfold Admin.editSession
  split
  · exact .of_refused _ _
  · split
    · exact .of_refused _ _
    · next id session hsession =>
      split
      · exact .of_refused _ _
      · next metadata _ =>
        refine .of_done name (fun n hn => Option.some.inj hn) ?_ nofun
        exact alters_session own (listed_of_sessionOf hsession) rfl (fun _ _ => rfl)
          fun j hj => actor?_changeActor_of_ne hj _

theorem deleteSession_local {p : Proxy} (own : p.OwnSessions) (name : String) :
    Local false .session (some name) p (Admin.deleteSession p name) := by
  unfold Admin.deleteSession
  split
  · exact .of_refused _ _
  · next id session hsession =>
    have hlisted := listed_of_sessionOf hsession
    refine .of_done name (fun n hn => Option.some.inj hn) ?_ nofun
    refine alters_session own hlisted (congrArg Prod.fst (p.setting_destroy name))
      (fun n hn => ?_) fun j hj => ?_
    · -- the session keeps its name while it is terminated
      obtain ⟨a, ha, hname⟩ := own name id hlisted
      have hturns : p.Turns Duplex.Stays (fun _ => True) (fun _ => none) (p.abort id) :=
        (p.abort_aborts id).turns trivial
      obtain ⟨b, hb, hgoes⟩ := hturns.old id a ha
      have hsame : b.session.name = a.session.name := congrArg Prod.snd hgoes.identity
      show Table.find? (p.destroy name).2.live n = Table.find? p.live n
      rw [destroy, hlisted]
      show Table.find? ((p.abort id).leave id).live n = Table.find? p.live n
      rw [find?_leave_of_ne hb (by rwa [hsame, hname]), find?_abort]
    · show (p.destroy name).2.actor? j = p.actor? j
      rw [destroy, hlisted]
      show ((p.abort id).leave id).actor? j = p.actor? j
      rw [actor?, actors_leave, ← actor?, actor?_abort_of_ne hj]

theorem carryOut_local {p : Proxy} (own : p.registry.current.OwnNames)
    (ownSessions : p.OwnSessions) (op : Admin.Operation) :
    Local op.adds op.kind op.given? p (op.carryOut p) := by
  have hcarried := Admin.Operation.carryOut_carried p op
  generalize op.carryOut p = result at hcarried
  cases hcarried with
  | refused f => exact .of_refused p f
  | edited edit shown registered acts => exact (update_local acts registered own).map shown
  | sessionEdited name path change kind adds given =>
    rw [kind, adds, given]
    exact editSession_local ownSessions name path change
  | sessionDeleted name kind adds given =>
    rw [kind, adds, given]
    exact deleteSession_local ownSessions name

/-! ### Taken names -/

open Admin

variable {p : Proxy} {name : String}

/-- What comes of an addition under a name that is taken: the definition is looked at first. -/
def RefusesTaken (p : Proxy) (op : Operation) (name : String) : Prop :=
  (op.Accepted p.strict → op.carryOut p = (.error (.alreadyExists op.kind name), p)) ∧
    (¬op.Accepted p.strict → ∃ defect, op.carryOut p = (.error (.invalid op.kind defect), p))

theorem exists_of_givenName {α : Type} {decode : Decoder α} {nameOf : α → Option String} {v : Json}
    (h : givenName decode nameOf v = some name) : ∃ d, decode v = .ok d ∧ nameOf d = some name := by
  unfold givenName at h
  cases hdecode : decode v with
  | error f =>
    rw [hdecode] at h
    cases h
  | ok d =>
    rw [hdecode] at h
    exact ⟨d, rfl, h⟩

theorem chooseName_of_taken {α : Type} (kind : EntityKind) (default : NameKind) {table : Table α}
    (h : (Table.find? table name).isSome = true) (res : Resources) :
    chooseName kind default table (some name) res = (.error (.alreadyExists kind name), res) := by
  rw [chooseName, Table.has, if_pos h]

theorem exists_of_checkMatch_eq_error {strict : Bool} {kind : EntityKind} {m : Match} {f : Fault}
    (h : checkMatch strict kind m = .error f) : ∃ defect, f = .invalid kind defect := by
  unfold checkMatch at h
  split at h
  · cases hvalid : m.validate with
    | ok _ =>
      rw [hvalid] at h
      cases h
    | error reason =>
      rw [hvalid] at h
      cases h
      exact ⟨_, rfl⟩
  · cases h

theorem RefusesTaken.of_accepted {op : Operation} (accepted : op.Accepted p.strict)
    (h : op.carryOut p = (.error (.alreadyExists op.kind name), p)) : p.RefusesTaken op name :=
  ⟨fun _ => h, fun refused => absurd accepted refused⟩

/-- A taken name is refused as such, unless the definition is refused before. -/
theorem refusesTaken {op : Operation} (adds : op.adds = true) (given : op.given? = some name)
    (taken : (p.entity? op.kind name).isSome = true) : p.RefusesTaken op name := by
  cases op with
  | addRule v =>
    obtain ⟨d, hd, hname⟩ := exists_of_givenName given
    have htaken : (Table.find? p.registry.current.rules name).isSome = true := by
      simpa [entity?, Operation.kind, Snapshot.thing?, Snapshot.rule?] using taken
    have hread : decodeAs .rule RuleDefinition.decode v = .ok d := decodeAs_of_ok .rule hd
    cases hcheck : checkMatch p.strict .rule d.condition with
    | ok _ =>
      refine ⟨fun _ => update_of_refused ?_, fun hrefused => absurd ⟨d, hd, hcheck⟩ hrefused⟩
      unfold addRule
      simp only [hread, hcheck, bind, Except.bind, pure, Except.pure, hname,
        chooseName_of_taken .rule .rule htaken]
      rfl
    | error f =>
      refine ⟨fun haccepted => ?_, fun _ => ?_⟩
      · obtain ⟨d', hd', hcheck'⟩ := haccepted
        rw [hd] at hd'
        cases hd'
        rw [hcheck] at hcheck'
        cases hcheck'
      · obtain ⟨defect, rfl⟩ := exists_of_checkMatch_eq_error hcheck
        refine ⟨defect, update_of_refused ?_⟩
        unfold addRule
        simp only [hread, hcheck, bind, Except.bind]
        rfl
  | addRuleList v =>
    obtain ⟨d, hd, hname⟩ := exists_of_givenName given
    have htaken : (Table.find? p.registry.current.ruleLists name).isSome = true := by
      simpa [entity?, Operation.kind, Snapshot.thing?, Snapshot.ruleList?] using taken
    refine .of_accepted ⟨d, hd⟩ (update_of_refused ?_)
    simp only [addRuleList, decodeAs_of_ok .ruleList hd, hname,
      chooseName_of_taken .ruleList .ruleList htaken]
    rfl
  | addRoute v =>
    obtain ⟨d, hd, hname⟩ := exists_of_givenName given
    have htaken : (Table.find? p.registry.current.routes name).isSome = true := by
      simpa [entity?, Operation.kind, Snapshot.thing?, Snapshot.route?] using taken
    refine .of_accepted ⟨d, hd⟩ (update_of_refused ?_)
    simp only [addRoute, decodeAs_of_ok .route hd, hname,
      chooseName_of_taken .route .route htaken]
    rfl
  | addCluster v =>
    obtain ⟨d, hd, hname⟩ := exists_of_givenName given
    obtain rfl : d.name = name := Option.some.inj hname
    have htaken : (Table.find? p.registry.current.clusters d.name).isSome = true := by
      simpa [entity?, Operation.kind, Snapshot.thing?, Snapshot.cluster?] using taken
    refine .of_accepted ⟨d, hd⟩ (update_of_refused ?_)
    simp only [addCluster, decodeAs_of_ok .cluster hd, Table.has, htaken, if_true]
    rfl
  | addStage stage =>
    obtain rfl : stage.name = name := Option.some.inj given
    have htaken : (Table.find? p.registry.current.stages stage.name).isSome = true := by
      simpa [entity?, Operation.kind, Snapshot.thing?, Snapshot.stage?] using taken
    have hrefused : p.update (addStage stage) = (.error (.alreadyExists .stage stage.name), p) := by
      refine update_of_refused ?_
      simp only [addStage, Table.has, htaken, if_true]
    refine .of_accepted trivial ?_
    rw [Operation.carryOut, hrefused]
    rfl
  | _ => cases adds

/-! ### Runs -/

/-- **An operation changes what it names, and nothing else.** Take any operation after any run in
which nothing is handed in under another's name. If it fails, nothing has changed but what was used
up: not what is registered, no count, no state of a cluster and no session. If it succeeds, there is
one name, the one that was given if there was one, such that every thing of another kind or another
name is as it was, with its counts, and so is every other session. An addition takes a name that
nothing of its kind had. Under a taken name it fails for that reason, as long as its definition is
accepted, and else for what is wrong with the definition. -/
theorem run_locality {strict : Bool} {events : List Event} (named : ∀ e ∈ events, e.KeepsNames)
    (op : Operation) :
    let p := run events (fresh strict)
    Local op.adds op.kind op.given? p (op.carryOut p) ∧
      (op.adds = true → ∀ name, op.given? = some name → (p.entity? op.kind name).isSome = true →
        p.RefusesTaken op name) := by
  intro p
  obtain ⟨hown, hsessions⟩ : p.registry.current.OwnNames ∧ p.OwnSessions := by
    refine run_invariant _ (fun p => p.registry.current.OwnNames ∧ p.OwnSessions)
      (fun p e he hp => ⟨ownNames_apply he hp.1, ownSessions_apply hp.2 e⟩) named ?_
    exact ⟨ownNames_fresh strict, fun _ _ h => nomatch h⟩
  exact ⟨carryOut_local hown hsessions op, fun adds _ given taken => refusesTaken adds given taken⟩

/-- A rule has got the name that would be the first default one. -/
def defaultTaken : List Event :=
  [.operation (.addRule (.ofFields [("name", "Rule_0")])), .dispatch (.ofFields []) "main" none]

theorem run_locality_defaultTaken :
    let p := run defaultTaken (fresh true)
    (∀ e ∈ defaultTaken, e.KeepsNames) ∧
      Local true .rule none p ((Operation.addRule (.ofFields [])).carryOut p) ∧
      p.RefusesTaken (.addRule (.ofFields [("name", "Rule_0")])) "Rule_0" := by
  have hnamed : ∀ e ∈ defaultTaken, e.KeepsNames := by simp [defaultTaken, Event.KeepsNames]
  refine ⟨hnamed, (run_locality hnamed (.addRule (.ofFields []))).1, ?_⟩
  exact (run_locality hnamed (.addRule (.ofFields [("name", "Rule_0")]))).2 rfl "Rule_0" rfl
    (by decide +kernel)

/-- The short name of the fault in an answer. -/
def faultCode : Except Fault Json → String
  | .ok _ => ""
  | .error f => f.code

/-- Not every addition under a taken name is refused for the name: a malformed condition is found
first. -/
theorem not_add_alreadyExists :
    ¬ ∀ (strict : Bool) (events : List Event), (∀ e ∈ events, e.KeepsNames) →
      ∀ (op : Operation) (name : String), op.adds = true → op.given? = some name →
        ((run events (fresh strict)).entity? op.kind name).isSome = true →
        (op.carryOut (run events (fresh strict))).1 = .error (.alreadyExists op.kind name) := by
  intro h
  have hnamed : ∀ e ∈ defaultTaken, e.KeepsNames := by simp [defaultTaken, Event.KeepsNames]
  have hexists := h true defaultTaken hnamed
    (.addRule (.ofFields [("name", "Rule_0"), ("match", .ofFields [("op", "bogus")])])) "Rule_0"
    rfl rfl (by decide +kernel)
  have hinvalid : faultCode ((Operation.addRule (.ofFields [("name", "Rule_0"),
      ("match", .ofFields [("op", "bogus")])])).carryOut (run defaultTaken (fresh true))).1 =
        "invalid" := by
    decide +kernel
  rw [hexists] at hinvalid
  exact absurd hinvalid (by decide)

end Proxy

end Switchboard

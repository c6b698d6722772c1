/-
What events do to what is registered.

An operation is an edit of what is registered, or it is about a session. So it comes to one act or
to none, and no count changes. Other events register nothing, and the only counts that they change
are those of the rules that a session meets when it starts.

* `Operation.kind`, `Operation.given?`, `Operation.adds`: what an operation is about;
* `Operation.Carried`: what carrying out an operation comes to;
* `Registry.Acts`: one act or none, with all counts as they were;
* `carryOut_acts`, `apply_quiet`: operations, and all other events;
* `apply_acts`: all of them.
-/
import Switchboard.Proofs.Admin.Effect
import Switchboard.Proofs.Proxy.Frame

namespace Switchboard

namespace Admin

/-! ### Operations -/

namespace Operation

/-- The kind of the thing that an operation is about. -/
def kind : Operation → EntityKind
  | addRule _ | updateRule _ _ | deleteRule _ => .rule
  | addRuleList _ | updateRuleList _ _ | deleteRuleList _ => .ruleList
  | insertEntry _ _ _ | deleteEntry _ _ => .ruleList
  | addRoute _ | updateRoute _ _ | deleteRoute _ => .route
  | addCluster _ | deleteCluster _ => .cluster
  | addStage _ | deleteStage _ => .stage
  | deleteSession _ => .session
  | setPath kind _ _ _ | deletePath kind _ _ => kind

/-- Whether an operation is to add something. -/
def adds : Operation → Bool
  | addRule _ | addRuleList _ | addRoute _ | addCluster _ | addStage _ => true
  | _ => false

/-- The name that an operation is addressed to. A definition need not give one. -/
def given? : Operation → Option String
  | addRule v => givenName RuleDefinition.decode RuleDefinition.name v
  | addRuleList v => givenName RuleListDefinition.decode RuleListDefinition.name v
  | addRoute v => givenName RouteDefinition.decode RouteDefinition.name v
  | addCluster v => givenName (ClusterDefinition.decode false) (fun d => some d.name) v
  | addStage stage => some stage.name
  | updateRule name _ | deleteRule name | updateRuleList name _ | deleteRuleList name
  | insertEntry name _ _ | deleteEntry name _ | updateRoute name _ | deleteRoute name
  | deleteCluster name | deleteStage name | deleteSession name | setPath _ name _ _
  | deletePath _ name _ => some name

/-- What carrying out an operation comes to: an edit of what is registered or of a session. -/
inductive Carried (p : Proxy) (op : Operation) : Except Fault Json × Proxy → Prop
  | refused (f : Fault) : Carried p op (.error f, p)
  | edited {α : Type} (edit : Edit α) (shown : α → Json) (registered : op.kind ≠ .session)
      (acts : ActsOn op.adds op.kind op.given? edit) :
      Carried p op ((p.update edit).1.map shown, (p.update edit).2)
  | sessionEdited (name path : String) (change : PathEdit) (kind : op.kind = .session)
      (adds : op.adds = false) (given : op.given? = some name) :
      Carried p op (editSession p name path change)
  | sessionDeleted (name : String) (kind : op.kind = .session) (adds : op.adds = false)
      (given : op.given? = some name) : Carried p op (Admin.deleteSession p name)

variable {p : Proxy} {op : Operation}

/-- An edit that has a view for an answer. -/
theorem Carried.ofEdit {edit : Edit Json} (registered : op.kind ≠ .session)
    (acts : ActsOn op.adds op.kind op.given? edit) : Carried p op (p.update edit) := by
  have h : Carried p op ((p.update edit).1.map id, (p.update edit).2) :=
    .edited edit id registered acts
  rwa [Except.map_id] at h

theorem Carried.ofPath {kind : EntityKind} {name path : String} {change : PathEdit}
    (hkind : op.kind = kind) (adds : op.adds = false) (given : op.given? = some name) :
    Carried p op (editPath p kind name path change) := by
  unfold editPath
  split
  · exact .refused _
  · split
    · exact .refused _
    · exact .sessionEdited name path change hkind adds given
    · next hsession =>
      refine .ofEdit (hkind ▸ hsession) ?_
      rw [hkind, adds, given]
      exact editDefinition_actsOn _ _ _ _ _ _

theorem carryOut_carried (p : Proxy) (op : Operation) : Carried p op (op.carryOut p) := by
  cases op with
  | addRule v => exact .ofEdit nofun (addRule_actsOn _ v)
  | updateRule name v => exact .ofEdit nofun (updateRule_actsOn _ name v)
  | deleteRule name => exact .ofEdit nofun (deleteRule_actsOn name)
  | addRuleList v => exact .ofEdit nofun (addRuleList_actsOn _ v)
  | updateRuleList name v => exact .ofEdit nofun (updateRuleList_actsOn _ name v)
  | deleteRuleList name => exact .ofEdit nofun (deleteRuleList_actsOn name)
  | insertEntry list position v => exact .ofEdit nofun (insertEntry_actsOn _ list position v)
  | deleteEntry list position => exact .ofEdit nofun (deleteEntry_actsOn list position)
  | addRoute v => exact .ofEdit nofun (addRoute_actsOn _ v)
  | updateRoute name v => exact .ofEdit nofun (updateRoute_actsOn _ name v)
  | deleteRoute name => exact .ofEdit nofun (deleteRoute_actsOn name)
  | addCluster v => exact .ofEdit nofun (addCluster_actsOn _ v)
  | deleteCluster name => exact .ofEdit nofun (deleteCluster_actsOn _ name)
  | addStage stage => exact .edited (Admin.addStage stage) _ nofun (addStage_actsOn stage)
  | deleteStage name => exact .edited (Admin.deleteStage name) _ nofun (deleteStage_actsOn name)
  | deleteSession name => exact .sessionDeleted name rfl rfl rfl
  | setPath kind name path value => exact .ofPath rfl rfl rfl
  | deletePath kind name path => exact .ofPath rfl rfl rfl

end Operation

end Admin

/-! ### Acts -/

/-- What is registered changes by one act or not at all, and no count changes. -/
def Registry.Acts (r later : Registry) : Prop :=
  r.resources.Extends later.resources ∧
    (later.current = r.current ∨
      ∃ kind name, Admin.Act r.current r.counters later.counters kind name later.current)

theorem Registry.Acts.refl (r : Registry) : r.Acts r := ⟨.refl _, .inl rfl⟩

namespace Proxy

theorem update_acts {α : Type} {adds : Bool} {kind : EntityKind} {given : Option String}
    {edit : Admin.Edit α} (acts : Admin.ActsOn adds kind given edit) {p : Proxy}
    (own : p.registry.current.OwnNames) : p.registry.Acts (p.update edit).2.registry := by
  have heffect := acts p.registry.current p.registry.resources own
  rw [update, Registry.update]
  generalize edit p.registry.current p.registry.resources = result at heffect
  cases heffect with
  | refused f later extended => exact ⟨extended, .inl rfl⟩
  | done answer next later name extended addressed act new =>
    exact ⟨extended, .inr ⟨kind, name, act⟩⟩

theorem carryOut_acts {p : Proxy} (own : p.registry.current.OwnNames) (op : Admin.Operation) :
    p.registry.Acts (op.carryOut p).2.registry := by
  have hsetting {q : Proxy} (h : q.setting = p.setting) : p.registry.Acts q.registry := by
    rw [show q.registry = p.registry from congrArg Prod.fst h]
    exact .refl _
  have hcarried := Admin.Operation.carryOut_carried p op
  generalize op.carryOut p = result at hcarried
  cases hcarried with
  | refused f => exact .refl _
  | edited edit shown registered acts => exact update_acts acts own
  -- what is done to a session leaves the registry alone
  | sessionEdited name path change => exact hsetting (p.setting_editSession name path change)
  | sessionDeleted name =>
    refine hsetting ?_
    unfold Admin.deleteSession
    split
    · rfl
    · exact p.setting_destroy name

/-! ### Other events -/

/-- The look-up that an event makes: that of a session that starts. -/
def lookUp? (p : Proxy) : Event → Option (String × Json)
  | .step id => (p.actor? id).bind fun a =>
    match a.running.task with
    | .starting => some (a.session.ruleList, a.session.metadata)
    | _ => none
  | _ => none

/-- What is registered is the same, and so are all counts. -/
def SameCounts (p q : Proxy) : Prop :=
  q.registry.current = p.registry.current ∧ q.registry.counters = p.registry.counters

theorem SameCounts.of_setting {p q : Proxy} (h : q.setting = p.setting) : p.SameCounts q := by
  have hregistry : q.registry = p.registry := congrArg Prod.fst h
  exact ⟨by rw [hregistry], by rw [hregistry]⟩

/-- The registry after an event that is no operation. -/
structure Quiet (p : Proxy) (looked : Option (String × Json)) (q : Proxy) : Prop where
  current : q.registry.current = p.registry.current
  counters : q.registry.counters = match looked with
    | some (list, metadata) =>
      (p.registry.current.lookup list metadata p.registry.counters).counters
    | none => p.registry.counters

/-- What is done afterwards with the setting left alone is a part of it. -/
theorem SameCounts.then {p q later : Proxy} (h : p.SameCounts q)
    (hset : later.setting = q.setting) : p.SameCounts later := by
  have hregistry : later.registry = q.registry := congrArg Prod.fst hset
  exact ⟨hregistry ▸ h.1, hregistry ▸ h.2⟩

theorem SameCounts.quiet {p q : Proxy} (h : p.SameCounts q) : p.Quiet none q := ⟨h.1, h.2⟩

/-- All that a session's binding changes is counts, names and clusters. -/
theorem find_quiet (r : Registry) (list : String) (metadata : Json) :
    (Binding.find r list metadata).2.current = r.current ∧
      (Binding.find r list metadata).2.counters =
        (r.current.lookup list metadata r.counters).counters := by
  have hroute (decision : Snapshot.Decision) (res : Resources) :
      (r.current.routeFor decision res).2.counters = res.counters := by
    unfold Snapshot.routeFor
    split
    · rfl
    · rfl
    · split <;> rfl
    · next d _ _ =>
      show (res.buildNamedRoute d).2.counters = res.counters
      rw [Resources.buildNamedRoute]
      split <;> rfl
  unfold Binding.find
  dsimp only
  split
  · exact ⟨rfl, rfl⟩
  · exact ⟨rfl, rfl⟩
  · next decision _ =>
    -- a route that is written inside the action may be built only now
    have hcounters := hroute decision (r.setCounters (r.current.lookup list metadata
      r.counters).counters).resources
    split
    · exact ⟨rfl, hcounters⟩
    · exact ⟨rfl, hcounters⟩
    · split
      · exact ⟨rfl, hcounters⟩
      · split <;> exact ⟨rfl, hcounters⟩

theorem callCluster_sameCounts (p : Proxy) (id : ClusterId) (metadata : Json) :
    p.SameCounts (p.callCluster id metadata).2 := by
  rcases p.callCluster_registry id metadata with heq | ⟨cluster, after, -, -, heq⟩
  · exact ⟨by rw [heq], by rw [heq]⟩
  · exact ⟨by rw [heq]; rfl, by rw [heq]; rfl⟩

theorem accept_sameCounts (p : Proxy) (metadata : Json) (ruleList : String)
    (hook : Option Hook) : p.SameCounts (p.accept metadata ruleList hook) := by
  have hwished (p : Proxy) : p.SameCounts (p.wishedName metadata).2 := by
    unfold wishedName
    split <;> exact ⟨rfl, rfl⟩
  have hdispatch (p : Proxy) (source : StreamId) :
      p.SameCounts (p.dispatch metadata ruleList source hook).2 := by
    unfold dispatch
    dsimp only
    split <;> exact hwished p
  have hdispatched := hdispatch (p.openStream .fresh).2 (p.openStream .fresh).1
  unfold accept
  dsimp only
  split
  · next heq =>
    rw [heq] at hdispatched
    exact hdispatched
  · next heq =>
    rw [heq] at hdispatched
    exact SameCounts.then (p := p) hdispatched (by simp)

theorem SameCounts.of_stepOf {p next : Proxy} {id : ActorId} {a : Actor} (h : p.StepOf id a next)
    (task : a.running.task ≠ .starting) : p.SameCounts next := by
  cases h with
  | begin starting => exact absurd starting task
  | call c _ => exact (p.callCluster_sameCounts c.cluster a.session.metadata).then (by simp)
  | pipe c since _ _ piped => exact .of_setting (setting_stepPiping piped)
  | wake c delay next _ => exact .of_setting rfl
  | wait delay => exact .of_setting rfl
  | callHook c _ reply hook => exact .of_setting (by simp)
  | finish outcome _ => exact .of_setting (by simp)
  | leave _ => exact .of_setting (by simp)

theorem stepActor_of_starting {p : Proxy} {id : ActorId} {a : Actor} (ha : p.actor? id = some a)
    (task : a.running.task = .starting) :
    ∃ next, p.stepActor id = some next ∧
      next.registry = (Binding.find p.registry a.session.ruleList a.session.metadata).2 := by
  unfold stepActor
  rw [ha]
  simp only [bind, Option.bind, task]
  exact ⟨_, rfl, rfl⟩

theorem step_quiet (p : Proxy) (id : ActorId) :
    p.Quiet (p.lookUp? (.step id)) (p.apply (.step id)) := by
  rw [lookUp?, apply]
  cases ha : p.actor? id with
  | none =>
    have hnone : p.stepActor id = none := by
      unfold stepActor
      rw [ha]
      rfl
    rw [hnone]
    exact ⟨rfl, rfl⟩
  | some a =>
    rw [Option.bind_some]
    -- a session looks up its route in its first step, and in no other
    by_cases htask : a.running.task = .starting
    · obtain ⟨next, hnext, hregistry⟩ := stepActor_of_starting ha htask
      have hfind := find_quiet p.registry a.session.ruleList a.session.metadata
      rw [hnext, htask]
      rw [Option.getD_some]
      exact ⟨by rw [hregistry, hfind.1], by rw [hregistry, hfind.2]⟩
    · have hsame : p.SameCounts ((p.stepActor id).getD p) := by
        cases hstep : p.stepActor id with
        | none => exact ⟨rfl, rfl⟩
        | some next =>
          obtain ⟨b, hb, hof⟩ := stepActor_inv hstep
          rw [ha, Option.some_inj] at hb
          exact .of_stepOf hof (hb ▸ htask)
      split
      · next hstarting => exact absurd hstarting htask
      · exact hsame.quiet

/-- An event that is no operation registers nothing, and changes no counts but those of the rules
that it looks up. -/
theorem apply_quiet (p : Proxy) {e : Event} (checked : e.isChecked = true)
    (other : ∀ op, e ≠ .operation op) : p.Quiet (p.lookUp? e) (p.apply e) := by
  cases e with
  | operation op => exact absurd rfl (other op)
  | handIn change => cases checked
  | dispatch metadata ruleList hook => exact (p.accept_sameCounts metadata ruleList hook).quiet
  | destroy name => exact (SameCounts.of_setting (p.setting_destroy name)).quiet
  | shutdown => exact (SameCounts.of_setting p.setting_shutdown).quiet
  | step id => exact p.step_quiet id
  | timer id => exact (SameCounts.of_setting (p.setting_endTimer id)).quiet
  | answer id answer => exact (SameCounts.of_setting (p.setting_answerCall id answer)).quiet
  | handOver id reply => exact (SameCounts.of_setting (p.setting_answerHook id reply)).quiet
  | far id action => exact ⟨rfl, rfl⟩
  | reconnect network => exact ⟨rfl, rfl⟩
  | pass duration wallDuration => exact ⟨rfl, rfl⟩

/-- Whatever the event is, what is registered changes by one act or not at all. -/
theorem apply_acts {p : Proxy} (own : p.registry.current.OwnNames) {e : Event}
    (checked : e.isChecked = true) :
    (p.apply e).registry.current = p.registry.current ∨
      ∃ kind name, Admin.Act p.registry.current p.registry.counters
        (p.apply e).registry.counters kind name (p.apply e).registry.current := by
  by_cases hoperation : ∃ op, e = .operation op
  · obtain ⟨op, rfl⟩ := hoperation
    exact (carryOut_acts own op).2
  · exact .inl (p.apply_quiet checked fun op hop => hoperation ⟨op, hop⟩).current

end Proxy

end Switchboard

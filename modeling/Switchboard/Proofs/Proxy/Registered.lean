/-
How events change what is registered.

Sessions use up names, counts and clusters, and calls change the state of clusters, but the snapshot
changes by administrative operations alone, and by one `Admin.Change` at a time.

* `Registry.Moves`: one change, or none, while the pool of clusters grows;
* `apply_moves`: every checked event is such a move;
* `run_snapshot`: what changes keep and clusters that are added do not harm, checked runs keep.
-/
import Switchboard.Proofs.Admin.Change
import Switchboard.Proofs.Proxy.Frame

namespace Switchboard

namespace Registry

/-- The snapshot changes by one edit or not at all, and no cluster is lost. -/
def Moves (strict : Bool) (r later : Registry) : Prop :=
  r.clusters.Grows later.clusters ∧
    (later.current = r.current ∨ Admin.Change strict later.clusters r.current later.current)

theorem Moves.refl (strict : Bool) (r : Registry) : r.Moves strict r :=
  ⟨.refl _, .inl rfl⟩

theorem update_moves {α : Type} {strict : Bool} {edit : Admin.Edit α}
    (h : Admin.Lawful strict edit) (r : Registry) : r.Moves strict (r.update edit).2 := by
  have hedited := h r.current r.resources
  unfold update
  split
  · next heq =>
    rw [heq] at hedited
    cases hedited with
    | done _ _ _ grows change => exact ⟨grows, .inr change⟩
  · next heq =>
    rw [heq] at hedited
    cases hedited with
    | refused _ _ grows => exact ⟨grows, .inl rfl⟩

theorem routeFor_grows (s : Snapshot) (d : Snapshot.Decision) (res : Resources) :
    res.clusters.Grows (s.routeFor d res).2.clusters := by
  unfold Snapshot.routeFor
  split
  · exact .refl _
  · exact .refl _
  · split <;> exact .refl _
  · exact res.buildNamedRoute_grows _

/-- Finding a way for a session leaves the snapshot alone. -/
theorem find_moves {strict : Bool} (r : Registry) (ruleList : String) (metadata : Json) :
    r.Moves strict (Binding.find r ruleList metadata).2 := by
  unfold Binding.find
  dsimp only
  split
  · exact .refl strict _
  · exact .refl strict _
  · next decision _ =>
    -- a route that is written inside the action may be built only now, with its cluster
    have hgrows := routeFor_grows r.current decision (r.setCounters (r.current.lookup ruleList
      metadata r.counters).counters).resources
    split
    · exact ⟨hgrows, .inl rfl⟩
    · exact ⟨hgrows, .inl rfl⟩
    · split
      · exact ⟨hgrows, .inl rfl⟩
      · split <;> exact ⟨hgrows, .inl rfl⟩

end Registry

namespace Proxy

/-- What is registered moves, and is checked as strictly as before. -/
def Moves (p q : Proxy) : Prop := p.registry.Moves p.strict q.registry ∧ q.strict = p.strict

theorem Moves.of_setting {p q : Proxy} (h : q.setting = p.setting) : p.Moves q := by
  have hregistry : q.registry = p.registry := congrArg Prod.fst h
  exact ⟨hregistry ▸ .refl _ _, congrArg Prod.snd h⟩

/-- What is done after a move with the setting left alone is a part of it. -/
theorem Moves.then {p q later : Proxy} (h : p.Moves q) (hset : later.setting = q.setting) :
    p.Moves later := by
  have hregistry : later.registry = q.registry := congrArg Prod.fst hset
  have hstrict : later.strict = q.strict := congrArg Prod.snd hset
  exact ⟨hregistry ▸ h.1, hstrict.trans h.2⟩

theorem update_moves {α : Type} {p : Proxy} {edit : Admin.Edit α}
    (h : Admin.Lawful p.strict edit) : p.Moves (p.update edit).2 :=
  ⟨Registry.update_moves h p.registry, rfl⟩

theorem callCluster_moves (p : Proxy) (id : ClusterId) (metadata : Json) :
    p.Moves (p.callCluster id metadata).2 := by
  refine ⟨?_, p.strict_callCluster id metadata⟩
  rcases p.callCluster_registry id metadata with heq | ⟨cluster, after, hthere, hname, heq⟩
  · rw [heq]
    exact .refl _ _
  · rw [heq]
    exact ⟨ClusterPool.grows_set hthere hname, .inl rfl⟩

theorem stepActor_moves {p next : Proxy} {id : ActorId} (h : p.stepActor id = some next) :
    p.Moves next := by
  obtain ⟨a, -, hstep⟩ := stepActor_inv h
  cases hstep with
  | begin task => exact ⟨p.registry.find_moves _ _, rfl⟩
  | call c task => exact (p.callCluster_moves c.cluster a.session.metadata).then (by simp)
  | pipe c since task next piped => exact .of_setting (setting_stepPiping piped)
  | wake c delay next task => exact .of_setting rfl
  | wait delay => exact .of_setting rfl
  | callHook c task reply hook => exact .of_setting (by simp)
  | finish outcome task => exact .of_setting (by simp)
  | leave task => exact .of_setting (by simp)

theorem dispatch_moves (p : Proxy) (metadata : Json) (ruleList : String) (source : StreamId)
    (hook : Option Hook) : p.Moves (p.dispatch metadata ruleList source hook).2 := by
  have hwished : p.Moves (p.wishedName metadata).2 := by
    unfold wishedName
    split
    · exact .of_setting rfl
    · exact ⟨⟨.refl _, .inl rfl⟩, rfl⟩
  unfold dispatch
  dsimp only
  split
  · exact hwished
  · exact hwished.then rfl

theorem accept_moves (p : Proxy) (metadata : Json) (ruleList : String) (hook : Option Hook) :
    p.Moves (p.accept metadata ruleList hook) := by
  have hmoves := (p.openStream .fresh).2.dispatch_moves metadata ruleList
    (p.openStream .fresh).1 hook
  unfold accept
  dsimp only
  split
  · next heq =>
    rw [heq] at hmoves
    exact hmoves
  · next heq =>
    rw [heq] at hmoves
    exact Moves.then (p := p) hmoves (by simp)

theorem editPath_moves (p : Proxy) (kind : EntityKind) (name path : String)
    (change : Admin.PathEdit) : p.Moves (Admin.editPath p kind name path change).2 := by
  unfold Admin.editPath
  split
  · exact .of_setting rfl
  · split
    · exact .of_setting rfl
    · exact .of_setting (p.setting_editSession name path change)
    · exact update_moves (Admin.editDefinition_lawful _ _ _ _ _ _)

theorem carryOut_moves (p : Proxy) (op : Admin.Operation) : p.Moves (op.carryOut p).2 := by
  cases op with
  | addRule v => exact update_moves (Admin.addRule_lawful _ v)
  | updateRule name v => exact update_moves (Admin.updateRule_lawful _ name v)
  | deleteRule name => exact update_moves (Admin.deleteRule_lawful _ name)
  | addRuleList v => exact update_moves (Admin.addRuleList_lawful _ v)
  | updateRuleList name v => exact update_moves (Admin.updateRuleList_lawful _ name v)
  | deleteRuleList name => exact update_moves (Admin.deleteRuleList_lawful _ name)
  | insertEntry list position v => exact update_moves (Admin.insertEntry_lawful _ list position v)
  | deleteEntry list position => exact update_moves (Admin.deleteEntry_lawful _ list position)
  | addRoute v => exact update_moves (Admin.addRoute_lawful _ v)
  | updateRoute name v => exact update_moves (Admin.updateRoute_lawful _ name v)
  | deleteRoute name => exact update_moves (Admin.deleteRoute_lawful _ name)
  | addCluster v => exact update_moves (Admin.addCluster_lawful _ _ v)
  | deleteCluster name => exact update_moves (Admin.deleteCluster_lawful _ _ name)
  | addStage stage => exact update_moves (Admin.addStage_lawful _ stage)
  | deleteStage name => exact update_moves (Admin.deleteStage_lawful _ name)
  | deleteSession name =>
    refine .of_setting ?_
    unfold Admin.Operation.carryOut Admin.deleteSession
    dsimp only
    split
    · rfl
    · exact p.setting_destroy name
  | setPath kind name path value => exact p.editPath_moves kind name path _
  | deletePath kind name path => exact p.editPath_moves kind name path _

/-- Every checked event changes the snapshot by one edit or not at all. -/
theorem apply_moves (p : Proxy) {e : Event} (h : e.isChecked = true) : p.Moves (p.apply e) := by
  cases e with
  | operation op => exact p.carryOut_moves op
  | handIn change => simp [Event.isChecked] at h
  | dispatch metadata ruleList hook => exact p.accept_moves metadata ruleList hook
  | destroy name => exact .of_setting (p.setting_destroy name)
  | shutdown => exact .of_setting p.setting_shutdown
  | step id =>
    cases hstep : p.stepActor id with
    | none => exact .of_setting (by rw [apply, hstep]; rfl)
    | some next =>
      rw [apply, hstep]
      exact stepActor_moves hstep
  | timer id => exact .of_setting (p.setting_endTimer id)
  | answer id answer => exact .of_setting (p.setting_answerCall id answer)
  | handOver id reply => exact .of_setting (p.setting_answerHook id reply)
  | far id action => exact .of_setting rfl
  | reconnect network => exact .of_setting rfl
  | pass duration wallDuration => exact .of_setting rfl

/-- What every change keeps, and clusters that are added do not harm, holds after every run. -/
theorem run_snapshot {strict : Bool} (inv : Snapshot → ClusterPool → Prop)
    (grows : ∀ s pool later, pool.Grows later → inv s pool → inv s later)
    (keep : ∀ s next pool, Admin.Change strict pool s next → inv s pool → inv next pool)
    (start : inv .empty .empty) {events : List Event}
    (checked : ∀ e ∈ events, e.isChecked = true) :
    inv (run events (fresh strict)).registry.current
      (run events (fresh strict)).registry.clusters := by
  -- how strict the checks are has to be carried along, for no event may relax them
  refine (run_invariant _ (fun p => p.strict = strict ∧
    inv p.registry.current p.registry.clusters) (fun p e he hp => ?_) checked ⟨rfl, start⟩).2
  obtain ⟨hstrict, hinv⟩ := hp
  obtain ⟨⟨hgrows, hcurrent⟩, hsame⟩ := p.apply_moves he
  refine ⟨hsame.trans hstrict, ?_⟩
  have hlater := grows _ _ _ hgrows hinv
  rcases hcurrent with hsame | hchange
  · exact hsame ▸ hlater
  · exact keep _ _ _ (hstrict ▸ hchange) hlater

/-- Every rule that is there has been built from a definition. -/
theorem run_built {strict : Bool} {events : List Event}
    (checked : ∀ e ∈ events, e.isChecked = true) {rule : Rule}
    (there : rule ∈ (run events (fresh strict)).registry.current.allRules) : rule.Built := by
  refine run_snapshot (fun s _ => ∀ rule ∈ s.allRules, rule.Built) (fun _ _ _ _ hs => hs)
    (fun s next pool hchange hs rule hrule => ?_) (fun rule hrule => ?_) checked rule there
  · rcases hchange.rule_origin hrule with hold | ⟨hbuilt, -⟩
    · exact hs rule hold
    · exact hbuilt
  · cases hrule

end Proxy

end Switchboard

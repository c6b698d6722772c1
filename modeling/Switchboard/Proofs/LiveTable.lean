/-
The table of live sessions.

A session is in the table from its start to its end. It is taken out by its own task, or by whoever
terminated it, or by both in either order, while another session may have got its name.

* `Scene.Listed`: what the table says at any time;
* `apply_listed`: every step keeps it;
* `Scene.starts`: the sessions that start in a run;
* `run_liveTable`: the table is exact when everything is quiet.
-/
import Mathlib.Algebra.Group.Nat.Defs
import Switchboard.Proofs.Lifecycle
import Switchboard.Proofs.Proxy.Course
import Switchboard.Proofs.Proxy.Roster
import Switchboard.Proofs.Table

namespace Switchboard

/-- No entry of the table is the session `id`. -/
def Proxy.Unlisted (p : Proxy) (id : ActorId) : Prop := ∀ name, Table.find? p.live name ≠ some id

/-- What the table of live sessions says while sessions are being ended. -/
structure Scene.Listed (s : Scene) : Prop where
  ordered : Table.Ordered s.proxy.live
  numbered : ∀ id a, s.proxy.actor? id = some a → a.session.id = ⟨BitVec.ofNat 128 id⟩
  own : ∀ name id, Table.find? s.proxy.live name = some id →
    ∃ a, s.proxy.actor? id = some a ∧ a.session.name = name
  there : ∀ id a, s.proxy.actor? id = some a → a.session.isTerminated = false →
    Table.find? s.proxy.live a.session.name = some id
  sound : ∀ id a, s.proxy.actor? id = some a → a.session.isTerminated = false → a.running.Sound
  /-- Only terminated sessions are to be taken out. -/
  owed : ∀ id ∈ s.owed, ∃ a, s.proxy.actor? id = some a ∧ a.session.isTerminated = true
  /-- A session without a task is to be taken out, or is out already. -/
  gone : ∀ id a, s.proxy.actor? id = some a → a.running.task = .gone →
    id ∈ s.owed ∨ s.proxy.Unlisted id
  /-- So is a session whose task may be broken off. -/
  condemned : ∀ id ∈ s.condemned, (∃ a, s.proxy.actor? id = some a) ∧
    (id ∈ s.owed ∨ s.proxy.Unlisted id)

namespace Scene.Listed

variable {s : Scene} {p q : Proxy} {owed condemned : List ActorId} {id : ActorId} {a : Actor}

theorem ofProxy_fresh (strict : Bool) : (Scene.ofProxy (.fresh strict)).Listed where
  ordered := .nil
  numbered := by simp [ofProxy, Proxy.fresh, Proxy.actor?]
  own := by simp [ofProxy, Proxy.fresh]
  there := by simp [ofProxy, Proxy.fresh, Proxy.actor?]
  sound := by simp [ofProxy, Proxy.fresh, Proxy.actor?]
  owed := by simp [ofProxy]
  gone := by simp [ofProxy, Proxy.fresh, Proxy.actor?]
  condemned := by simp [ofProxy]

/-- Sessions go on, none starts, and the table is left alone. A task may come to its end if its
session is out of the table or will be. -/
theorem goOn {R : Duplex → Duplex → Prop} {may : Deed → Prop} {handed : ActorId → Option StreamId}
    (h : Listed ⟨p, owed, condemned⟩) (turns : p.Turns R may handed q)
    (roster : q.roster = p.roster)
    (ends : ∀ id a b, p.actor? id = some a → q.actor? id = some b → b.running.task = .gone →
      a.running.task = .gone ∨ id ∈ owed ∨ p.Unlisted id) : Listed ⟨q, owed, condemned⟩ := by
  have hlive : q.live = p.live := congrArg Prod.fst roster
  have hsize : q.actors.size = p.actors.size := congrArg Prod.snd roster
  have hbefore (id : ActorId) (b : Actor) (hb : q.actor? id = some b) :
      ∃ a, p.actor? id = some a ∧ Goes may p q a b (handed id) := by
    have hid : id < p.actors.size := hsize ▸ (Array.getElem?_eq_some_iff.mp hb).1
    obtain ⟨b', hb', hgoes⟩ := turns.old id _ (Array.getElem?_eq_getElem hid)
    rw [hb, Option.some_inj] at hb'
    exact ⟨_, Array.getElem?_eq_getElem hid, hb' ▸ hgoes⟩
  have hunlisted (id : ActorId) : q.Unlisted id ↔ p.Unlisted id := by
    rw [Proxy.Unlisted, Proxy.Unlisted, hlive]
  have hname {a b : Actor} {id : ActorId} (goes : Goes may p q a b (handed id)) :
      b.session.name = a.session.name := congrArg Prod.snd goes.identity
  have hlivesOn {a b : Actor} {id : ActorId} (goes : Goes may p q a b (handed id))
      (live : b.session.isTerminated = false) : a.session.isTerminated = false := by
    cases hterminated : a.session.isTerminated with
    | false => rfl
    | true =>
      rw [goes.isTerminated hterminated] at live
      cases live
  refine ⟨hlive ▸ h.ordered, fun id b hb => ?_, fun name id hid => ?_, fun id b hb live => ?_,
    fun id b hb live => ?_, fun id hid => ?_, fun id b hb hgone => ?_, fun id hid => ?_⟩
  · obtain ⟨a, ha, hgoes⟩ := hbefore id b hb
    exact (congrArg Prod.fst hgoes.identity).trans (h.numbered id a ha)
  · obtain ⟨a, ha, hown⟩ := h.own name id (hlive ▸ hid)
    obtain ⟨b, hb, hgoes⟩ := turns.old id a ha
    exact ⟨b, hb, (hname hgoes).trans hown⟩
  · obtain ⟨a, ha, hgoes⟩ := hbefore id b hb
    rw [hname hgoes]
    exact hlive ▸ h.there id a ha (hlivesOn hgoes live)
  · obtain ⟨a, ha, hgoes⟩ := hbefore id b hb
    exact hgoes.sound (h.sound id a ha) live
  · obtain ⟨a, ha, hterminated⟩ := h.owed id hid
    obtain ⟨b, hb, hgoes⟩ := turns.old id a ha
    exact ⟨b, hb, hgoes.isTerminated hterminated⟩
  · obtain ⟨a, ha, hgoes⟩ := hbefore id b hb
    rw [hunlisted]
    rcases ends id a b ha hb hgone with hgone | hout
    · exact h.gone id a ha hgone
    · exact hout
  · obtain ⟨⟨a, ha⟩, hout⟩ := h.condemned id hid
    obtain ⟨b, hb, -⟩ := turns.old id a ha
    rw [hunlisted]
    exact ⟨⟨b, hb⟩, hout⟩

/-- Sessions go on, and no task comes to its end. -/
theorem goOn_of_calm {R : Duplex → Duplex → Prop} {may : Deed → Prop}
    {handed : ActorId → Option StreamId} (h : Listed ⟨p, owed, condemned⟩)
    (turns : p.Turns R may handed q) (calm : ¬may .goAway) (roster : q.roster = p.roster) :
    Listed ⟨q, owed, condemned⟩ := by
  refine h.goOn turns roster fun id a b ha hb hgone => .inl ?_
  obtain ⟨b', hb', hgoes⟩ := turns.old id a ha
  rw [hb, Option.some_inj] at hb'
  exact hgoes.task_of_gone calm (hb' ▸ hgone)

/-! ### Starting -/

/-- A session that starts is in the table, under a name that was free. -/
theorem start (h : Listed ⟨p, owed, condemned⟩) {b : Actor} {name ruleList : String}
    {metadata : Json} (free : Table.find? p.live name = none)
    (live : q.live = Table.insert p.live name p.actors.size) (actors : q.actors = p.actors.push b)
    (running : b.running =
      .ofSession (.create ⟨BitVec.ofNat 128 p.actors.size⟩ name ruleList metadata)) :
    Listed ⟨q, owed, condemned⟩ := by
  have hsession : b.session =
      .create ⟨BitVec.ofNat 128 p.actors.size⟩ name ruleList metadata := by
    rw [Actor.session, running]
    rfl
  have hnew : q.actor? p.actors.size = some b := by
    rw [Proxy.actor?_of_push actors, if_pos rfl]
  have hself : Table.find? q.live name = some p.actors.size := by
    rw [live, Table.find?_insert_self]
  have hfind {n : String} {j : ActorId} (hn : n ≠ name) :
      Table.find? q.live n = some j ↔ Table.find? p.live n = some j := by
    rw [live, Table.find?_insert_of_ne hn]
  -- the sessions that there were have not changed, and what is out of the table stays out
  have hold {j : ActorId} {a : Actor} (ha : p.actor? j = some a) : q.actor? j = some a := by
    rw [Proxy.actor?_of_push actors, if_neg (Proxy.ne_size_of_actor? ha), ha]
  have hout {j : ActorId} {a : Actor} (ha : p.actor? j = some a) (h : j ∈ owed ∨ p.Unlisted j) :
      j ∈ owed ∨ q.Unlisted j := by
    refine h.imp_right fun hout n hn => ?_
    by_cases hname : n = name
    · rw [hname, hself, Option.some_inj] at hn
      exact Proxy.ne_size_of_actor? ha hn.symm
    · exact hout n ((hfind hname).mp hn)
  have hcases {j : ActorId} {a : Actor} (ha : q.actor? j = some a) :
      (j = p.actors.size ∧ a = b) ∨ p.actor? j = some a := by
    rw [Proxy.actor?_of_push actors] at ha
    split at ha
    · next hj => exact .inl ⟨hj, (Option.some.inj ha).symm⟩
    · exact .inr ha
  refine ⟨?_, fun j a ha => ?_, fun n j hj => ?_, fun j a ha hlive => ?_, fun j a ha hlive => ?_,
    fun j hj => ?_, fun j a ha hgone => ?_, fun j hj => ?_⟩
  · show Table.Ordered q.live
    rw [live]
    exact h.ordered.insert name _
  · rcases hcases ha with ⟨rfl, rfl⟩ | ha
    · rw [hsession]
      rfl
    · exact h.numbered j a ha
  · by_cases hname : n = name
    · rw [hname, hself, Option.some_inj] at hj
      refine ⟨b, hj ▸ hnew, ?_⟩
      rw [hsession, hname]
      rfl
    · obtain ⟨a, ha, hown⟩ := h.own n j ((hfind hname).mp hj)
      exact ⟨a, hold ha, hown⟩
  · rcases hcases ha with ⟨rfl, rfl⟩ | ha
    · rw [hsession]
      exact hself
    · have hthere := h.there j a ha hlive
      refine (hfind ?_).mpr hthere
      rintro hname
      rw [hname, free] at hthere
      cases hthere
  · rcases hcases ha with ⟨rfl, rfl⟩ | ha
    · rw [running]
      exact Running.sound_ofSession _ name ruleList metadata
    · exact h.sound j a ha hlive
  · obtain ⟨a, ha, hterminated⟩ := h.owed j hj
    exact ⟨a, hold ha, hterminated⟩
  · rcases hcases ha with ⟨rfl, rfl⟩ | ha
    · rw [running] at hgone
      cases hgone
    · exact hout ha (h.gone j a ha hgone)
  · obtain ⟨⟨a, ha⟩, hcondemned⟩ := h.condemned j hj
    exact ⟨⟨a, hold ha⟩, hout ha hcondemned⟩

/-! ### Leaving -/

/-- Two sessions have different numbers as long as there are few enough of them. -/
theorem number_inj (few : p.actors.size ≤ 2 ^ 128) {i j : ActorId} {a b : Actor}
    (ha : p.actor? i = some a) (hb : p.actor? j = some b)
    (h : (⟨BitVec.ofNat 128 i⟩ : SessionId) = ⟨BitVec.ofNat 128 j⟩) : i = j := by
  have hi : i < 2 ^ 128 := Nat.lt_of_lt_of_le (Array.getElem?_eq_some_iff.mp ha).1 few
  have hj : j < 2 ^ 128 := Nat.lt_of_lt_of_le (Array.getElem?_eq_some_iff.mp hb).1 few
  have hvalue := congrArg BitVec.toNat (SessionId.mk.inj h)
  rwa [BitVec.toNat_ofNat, BitVec.toNat_ofNat, Nat.mod_eq_of_lt hi, Nat.mod_eq_of_lt hj] at hvalue

/-- A session that leaves takes its own entry with it and no other. -/
theorem live_leave (h : Listed ⟨p, owed, condemned⟩) (few : p.actors.size ≤ 2 ^ 128)
    (ha : p.actor? id = some a) :
    (p.leave id).live = if Table.find? p.live a.session.name = some id then
      Table.erase p.live a.session.name else p.live := by
  rw [Proxy.leave, ha]
  dsimp only
  cases hfound : Table.find? p.live a.session.name with
  | none =>
    have hnobody : p.liveActor? a.session.name = none := by
      rw [Proxy.liveActor?, hfound, Option.bind_none]
    rw [hnobody, if_neg (Option.some_ne_none id).symm]
  | some current =>
    obtain ⟨b, hb, -⟩ := h.own _ current hfound
    have hsomebody : p.liveActor? a.session.name = some (current, b) := by
      rw [Proxy.liveActor?, hfound, Option.bind_some, hb, Option.map_some]
    rw [hsomebody]
    dsimp only
    rw [h.numbered current b hb, h.numbered id a ha]
    by_cases hcurrent : current = id
    · rw [if_pos (by rw [hcurrent]), if_pos (by rw [hcurrent])]
    · rw [if_neg fun heq => hcurrent (number_inj few hb ha heq),
        if_neg fun heq => hcurrent (Option.some.inj heq)]

/-- What is in the table after a session has left was in there before, and is another session. -/
theorem find?_leave (h : Listed ⟨p, owed, condemned⟩) (few : p.actors.size ≤ 2 ^ 128)
    (ha : p.actor? id = some a) {name : String} {j : ActorId} :
    Table.find? (p.leave id).live name = some j ↔ Table.find? p.live name = some j ∧ j ≠ id := by
  have hname (hj : Table.find? p.live name = some id) : name = a.session.name := by
    obtain ⟨b, hb, hown⟩ := h.own name id hj
    rw [ha, Option.some_inj] at hb
    rw [← hown, hb]
  rw [h.live_leave few ha]
  split
  · next hfound =>
    by_cases hsame : name = a.session.name
    · rw [hsame, Table.find?_erase_self, hfound]
      refine iff_of_false nofun ?_
      rintro ⟨heq, hne⟩
      exact hne (Option.some.inj heq).symm
    · rw [Table.find?_erase_of_ne hsame]
      refine ⟨fun hj => ⟨hj, ?_⟩, And.left⟩
      rintro rfl
      exact hsame (hname hj)
  · next hother =>
    refine ⟨fun hj => ⟨hj, ?_⟩, And.left⟩
    rintro rfl
    exact hother (hname hj ▸ hj)

/-- A terminated session leaves the table. Whoever had to take it out need not any more. -/
theorem leave (h : Listed ⟨p, owed, condemned⟩) (few : p.actors.size ≤ 2 ^ 128)
    (ha : p.actor? id = some a) (terminated : a.session.isTerminated = true)
    {owed' : List ActorId} (less : ∀ j ∈ owed', j ∈ owed)
    (rest : ∀ j ∈ owed, j ≠ id → j ∈ owed') : Listed ⟨p.leave id, owed', condemned⟩ := by
  have hactor (j : ActorId) : (p.leave id).actor? j = p.actor? j := by
    rw [Proxy.actor?, Proxy.actors_leave, ← Proxy.actor?]
  have hfind {name : String} {j : ActorId} : Table.find? (p.leave id).live name = some j ↔
      Table.find? p.live name = some j ∧ j ≠ id := h.find?_leave few ha
  have hout {j : ActorId} (hj : j ∈ owed ∨ p.Unlisted j) :
      j ∈ owed' ∨ (p.leave id).Unlisted j := by
    by_cases hsame : j = id
    · exact .inr fun name hname => (hfind.mp hname).2 hsame
    · rcases hj with hj | hj
      · exact .inl (rest j hj hsame)
      · exact .inr fun name hname => hj name (hfind.mp hname).1
  refine ⟨?_, fun j b hb => ?_, fun name j hj => ?_, fun j b hb live => ?_, fun j b hb live => ?_,
    fun j hj => ?_, fun j b hb hgone => ?_, fun j hj => ?_⟩
  · show Table.Ordered (p.leave id).live
    rw [h.live_leave few ha]
    split
    · exact h.ordered.erase _
    · exact h.ordered
  · exact h.numbered j b (by rwa [← hactor])
  · obtain ⟨b, hb, hown⟩ := h.own name j (hfind.mp hj).1
    exact ⟨b, (hactor j).trans hb, hown⟩
  · have hb' : p.actor? j = some b := by rwa [← hactor]
    refine hfind.mpr ⟨h.there j b hb' live, ?_⟩
    rintro rfl
    rw [ha, Option.some_inj] at hb'
    rw [← hb', terminated] at live
    cases live
  · exact h.sound j b (by rwa [← hactor]) live
  · obtain ⟨b, hb, hterminated⟩ := h.owed j (less j hj)
    exact ⟨b, (hactor j).trans hb, hterminated⟩
  · exact hout (h.gone j b (by rwa [← hactor]) hgone)
  · obtain ⟨⟨b, hb⟩, hcondemned⟩ := h.condemned j hj
    exact ⟨⟨b, (hactor j).trans hb⟩, hout hcondemned⟩

/-- A task that leaves by itself. -/
theorem stepLeaving (h : Listed ⟨p, owed, condemned⟩) (few : p.actors.size ≤ 2 ^ 128)
    (ha : p.actor? id = some a) (task : a.running.task = .leaving) :
    Listed ⟨(p.leave id).changeActor id fun a => a.become ⟨a.session, .gone⟩, owed, condemned⟩ := by
  have hterminated : a.session.isTerminated = true := by
    cases hlive : a.session.isTerminated with
    | true => rfl
    | false =>
      have hfits := (h.sound id a ha hlive).fits
      rw [task] at hfits
      simp [Session.isTerminated] at hlive
      exact absurd hfits hlive
  have hleft : Listed ⟨p.leave id, owed, condemned⟩ :=
    h.leave few ha hterminated (fun _ h => h) fun _ h _ => h
  have hactor (j : ActorId) : (p.leave id).actor? j = p.actor? j := by
    rw [Proxy.actor?, Proxy.actors_leave, ← Proxy.actor?]
  have hturns : (p.leave id).Turns Duplex.Stays (fun _ => True) (fun _ => none)
      ((p.leave id).changeActor id fun a => a.become ⟨a.session, .gone⟩) := by
    refine .of_one (a := a) (b := a.become ⟨a.session, .gone⟩) (.of_eq rfl .refl) ?_ ?_
      (fun j hj => Proxy.actor?_changeActor_of_ne hj _) (.left trivial task rfl rfl)
      rfl fun _ _ => rfl
    · rw [hactor, ha]
    · rw [Proxy.actor?_changeActor, if_pos rfl, hactor, ha]
      rfl
  refine hleft.goOn hturns (Proxy.roster_changeActor _ id _) fun j b c hb hc hgone => ?_
  by_cases hj : j = id
  · subst hj
    exact .inr (.inr fun name hname => ((h.find?_leave few ha).mp hname).2 rfl)
  · rw [Proxy.actor?_changeActor_of_ne hj, hb, Option.some_inj] at hc
    exact .inl (hc ▸ hgone)

end Scene.Listed

/-! ### Steps -/

namespace Scene

variable {s : Scene}

theorem listed_condemn (h : s.Listed) (id : ActorId) : (s.apply (.condemn id)).Listed := by
  rw [apply]
  split
  · next hthere =>
    obtain ⟨a, ha⟩ := Option.isSome_iff_exists.mp hthere
    have hturns : s.proxy.Turns Duplex.Stays (fun _ => False) (fun _ => none)
        (s.proxy.condemn id) := s.proxy.condemn_turns id
    have hwent : Listed ⟨s.proxy.condemn id, s.owed, s.condemned⟩ :=
      h.goOn_of_calm hturns (fun h => h) (Proxy.roster_changeActor _ id _)
    have hcondemned : (s.proxy.condemn id).actor? id =
        some { a with running := ⟨a.session.terminate .destroyed, a.running.task⟩ } := by
      rw [Proxy.condemn, Proxy.actor?_changeActor, if_pos rfl, ha]
      rfl
    refine { hwent with owed := fun j hj => ?_, gone := fun j b hb hgone => ?_,
                        condemned := fun j hj => ?_ }
    · rcases List.mem_cons.mp hj with rfl | hj
      · exact ⟨_, hcondemned, a.session.isTerminated_terminate .destroyed⟩
      · exact hwent.owed j hj
    · exact (hwent.gone j b hb hgone).imp_left (List.mem_cons_of_mem id)
    · rcases List.mem_cons.mp hj with rfl | hj
      · exact ⟨⟨_, hcondemned⟩, .inl List.mem_cons_self⟩
      · obtain ⟨hthere, hout⟩ := hwent.condemned j hj
        exact ⟨hthere, hout.imp_left (List.mem_cons_of_mem id)⟩
  · exact h

theorem listed_breakOff (h : s.Listed) (id : ActorId) : (s.apply (.breakOff id)).Listed := by
  rw [apply]
  split
  · next hid =>
    have hturns : s.proxy.Turns Duplex.Stays (fun _ => True) (fun _ => none)
        (s.proxy.abort id) := (s.proxy.abort_aborts id).turns trivial
    refine h.goOn hturns (s.proxy.roster_abort id) fun j a b ha hb hgone => ?_
    by_cases hj : j = id
    · exact .inr (hj ▸ (h.condemned id hid).2)
    · rw [Proxy.actor?_abort_of_ne hj, ha, Option.some_inj] at hb
      exact .inl (hb ▸ hgone)
  · exact h

theorem listed_notice (h : s.Listed) (id : ActorId) : (s.apply (.notice id)).Listed := by
  have hturns : s.proxy.Turns Duplex.Stays (fun _ => False) (fun _ => none)
      (s.proxy.notice id) := s.proxy.notice_turns id
  exact h.goOn_of_calm hturns (fun h => h) (Proxy.roster_changeActor _ id _)

theorem listed_remove (h : s.Listed) (few : s.proxy.actors.size ≤ 2 ^ 128) (id : ActorId) :
    (s.apply (.remove id)).Listed := by
  rw [apply]
  split
  · next hid =>
    obtain ⟨a, ha, hterminated⟩ := h.owed id hid
    exact h.leave few ha hterminated (fun j hj => List.mem_of_mem_erase hj)
      fun j hj hne => (List.mem_erase_of_ne hne).mpr hj
  · exact h

/-- A session that is ended at once is terminated, broken off and taken out, one after the other. -/
theorem listed_end (h : s.Listed) (few : s.proxy.actors.size ≤ 2 ^ 128) (id : ActorId) :
    Listed { s with proxy := (s.proxy.abort id).leave id } := by
  cases ha : s.proxy.actor? id with
  | none =>
    have hleave : s.proxy.leave id = s.proxy := by rw [Proxy.leave, ha]
    rw [Proxy.abort_of_absent ha, hleave]
    exact h
  | some a =>
    have hthere : (s.proxy.actor? id).isSome := by rw [ha]; rfl
    have hcondemned := listed_condemn h id
    have hbroken := listed_breakOff hcondemned id
    have hscene : (s.apply (.condemn id)).apply (.breakOff id) =
        ⟨s.proxy.abort id, id :: s.owed, id :: s.condemned⟩ := by
      simp [apply, hthere, abort_condemn]
    rw [hscene] at hbroken
    have hsize : (s.proxy.abort id).actors.size = s.proxy.actors.size :=
      congrArg Prod.snd (s.proxy.roster_abort id)
    have hremoved := listed_remove hbroken (hsize ▸ few) id
    simp only [apply, List.mem_cons_self, if_true, List.erase_cons_head] at hremoved
    exact { hremoved with
      condemned := fun j hj => hremoved.condemned j (List.mem_cons_of_mem id hj) }

theorem listed_endAll (entries : Table ActorId) {s : Scene} (h : s.Listed)
    (few : s.proxy.actors.size ≤ 2 ^ 128) :
    Listed { s with proxy := entries.foldl (fun p e => (p.abort e.2).leave e.2) s.proxy } := by
  induction entries generalizing s with
  | nil => exact h
  | cons e rest ih =>
    have hsize : ((s.proxy.abort e.2).leave e.2).actors.size = s.proxy.actors.size := by
      rw [Proxy.actors_leave]
      exact congrArg Prod.snd (s.proxy.roster_abort e.2)
    exact ih (listed_end h few e.2) (hsize ▸ few)

theorem listed_accept (h : s.Listed) (metadata : Json) (ruleList : String) (hook : Option Hook) :
    Listed { s with proxy := s.proxy.accept metadata ruleList hook } := by
  rcases s.proxy.accept_cases metadata ruleList hook with
    ⟨name, metadata', b, hfree, -, hlive, hactors, hrunning⟩ | ⟨-, hroster⟩
  · exact h.start hfree hlive hactors hrunning
  · have hturns : s.proxy.Turns Duplex.Stays (fun _ => False) (fun _ => none)
        (s.proxy.accept metadata ruleList hook) := s.proxy.accept_turns metadata ruleList hook
    exact h.goOn_of_calm hturns (fun h => h) hroster

theorem listed_destroy (h : s.Listed) (few : s.proxy.actors.size ≤ 2 ^ 128) (name : String) :
    Listed { s with proxy := (s.proxy.destroy name).2 } := by
  rw [Proxy.destroy]
  split
  · exact h
  · exact listed_end h few _

theorem listed_event (h : s.Listed) (few : s.proxy.actors.size ≤ 2 ^ 128) (e : Event) :
    (s.apply (.event e)).Listed := by
  cases hconcerns : s.proxy.concernsTable e with
  | false =>
    refine h.goOn_of_calm (s.proxy.apply_turns e) (fun hends => ?_) (Proxy.roster_apply hconcerns)
    have hends : s.proxy.isEnding e = true := hends
    cases e <;> simp_all [Proxy.concernsTable]
  | true =>
    cases e with
    | dispatch metadata ruleList hook => exact listed_accept h metadata ruleList hook
    | destroy name => exact listed_destroy h few name
    | shutdown => exact listed_endAll s.proxy.live h few
    | operation op =>
      cases op with
      | deleteSession name =>
        show Listed { s with proxy := (Admin.deleteSession s.proxy name).2 }
        rcases s.proxy.deleteSession_cases name with hnone | hdestroyed
        · exact hnone.symm ▸ h
        · exact hdestroyed.symm ▸ listed_destroy h few name
      | _ => cases hconcerns
    | step id =>
      obtain ⟨a, ha, htask, hstep⟩ := Proxy.exists_leaving hconcerns
      rw [apply, hstep]
      exact h.stepLeaving few ha htask
    | _ => cases hconcerns

theorem apply_listed (h : s.Listed) (few : s.proxy.actors.size ≤ 2 ^ 128) (x : Act) :
    (s.apply x).Listed := by
  cases x with
  | event e => exact listed_event h few e
  | condemn id => exact listed_condemn h id
  | breakOff id => exact listed_breakOff h id
  | notice id => exact listed_notice h id
  | remove id => exact listed_remove h few id

/-! ### Starts -/

/-- The session that starts in a step. -/
def started? (s : Scene) : Act → Option ActorId
  | .event e => s.proxy.started? e
  | _ => none

/-- The sessions that start in a run, the latest last. -/
def starts : List Act → Scene → List ActorId
  | [], _ => []
  | x :: rest, s => (s.started? x).toList ++ starts rest (s.apply x)

theorem size_endAll (entries : Table ActorId) (p : Proxy) :
    (entries.foldl (fun p e => (p.abort e.2).leave e.2) p).actors.size = p.actors.size := by
  induction entries generalizing p with
  | nil => rfl
  | cons e rest ih =>
    rw [List.foldl_cons, ih, Proxy.actors_leave]
    exact congrArg Prod.snd (p.roster_abort e.2)

theorem size_destroy (p : Proxy) (name : String) :
    (p.destroy name).2.actors.size = p.actors.size := by
  rw [Proxy.destroy]
  split
  · rfl
  · next id _ =>
    dsimp only
    rw [Proxy.actors_leave]
    exact congrArg Prod.snd (p.roster_abort id)

/-- Only starts add sessions, one each. -/
theorem started_cases (s : Scene) (x : Act) :
    (s.started? x = none ∧ (s.apply x).proxy.actors.size = s.proxy.actors.size) ∨
      s.started? x = some s.proxy.actors.size ∧
        (s.apply x).proxy.actors.size = s.proxy.actors.size + 1 := by
  cases x with
  | event e =>
    cases hconcerns : s.proxy.concernsTable e with
    | false =>
      refine .inl ⟨?_, congrArg Prod.snd (Proxy.roster_apply hconcerns)⟩
      cases e <;> first | rfl | cases hconcerns
    | true =>
      cases e with
      | dispatch metadata ruleList hook =>
        rcases s.proxy.accept_cases metadata ruleList hook with
          ⟨name, metadata', b, -, hstarted, -, hactors, -⟩ | ⟨hstarted, hroster⟩
        · refine .inr ⟨hstarted, ?_⟩
          show (s.proxy.accept metadata ruleList hook).actors.size = _
          rw [hactors, Array.size_push]
        · exact .inl ⟨hstarted, congrArg Prod.snd hroster⟩
      | destroy name => exact .inl ⟨rfl, size_destroy s.proxy name⟩
      | shutdown => exact .inl ⟨rfl, size_endAll s.proxy.live s.proxy⟩
      | operation op =>
        cases op with
        | deleteSession name =>
          refine .inl ⟨rfl, ?_⟩
          show (Admin.deleteSession s.proxy name).2.actors.size = _
          rcases s.proxy.deleteSession_cases name with hnone | hdestroyed
          · rw [hnone]
          · rw [hdestroyed, size_destroy]
        | _ => cases hconcerns
      | step id =>
        obtain ⟨a, -, -, hstep⟩ := Proxy.exists_leaving hconcerns
        refine .inl ⟨rfl, ?_⟩
        rw [apply, hstep]
        simp [Proxy.changeActor]
      | _ => cases hconcerns
  | condemn id =>
    refine .inl ⟨rfl, ?_⟩
    rw [apply]
    split
    · exact congrArg Prod.snd (Proxy.roster_changeActor _ id _)
    · rfl
  | breakOff id =>
    refine .inl ⟨rfl, ?_⟩
    rw [apply]
    split
    · exact congrArg Prod.snd (s.proxy.roster_abort id)
    · rfl
  | notice id => exact .inl ⟨rfl, congrArg Prod.snd (Proxy.roster_changeActor _ id _)⟩
  | remove id =>
    refine .inl ⟨rfl, ?_⟩
    rw [apply]
    split
    · simp
    · rfl

theorem size_le_run (acts : List Act) (s : Scene) :
    s.proxy.actors.size ≤ (run acts s).proxy.actors.size := by
  induction acts generalizing s with
  | nil => exact Nat.le_refl _
  | cons x rest ih =>
    have hstep : s.proxy.actors.size ≤ (s.apply x).proxy.actors.size := by
      rcases s.started_cases x with ⟨-, hsize⟩ | ⟨-, hsize⟩ <;> omega
    exact Nat.le_trans hstep (ih (s.apply x))

/-- The sessions that there are after a run are those that there were and those that started. -/
theorem mem_starts (acts : List Act) (s : Scene) (id : ActorId) :
    id ∈ starts acts s ↔
      s.proxy.actors.size ≤ id ∧ id < (run acts s).proxy.actors.size := by
  induction acts generalizing s with
  | nil =>
    simp only [starts, List.not_mem_nil, false_iff]
    rintro ⟨hle, hlt⟩
    exact Nat.not_lt_of_le hle hlt
  | cons x rest ih =>
    have hlater := size_le_run rest (s.apply x)
    rw [starts, List.mem_append, ih, run_cons]
    rcases s.started_cases x with ⟨hstarted, hsize⟩ | ⟨hstarted, hsize⟩
    · simp [hstarted, hsize]
    · rw [hsize] at hlater ⊢
      simp only [hstarted, Option.toList_some, List.mem_singleton]
      -- the session that starts has the next number
      constructor
      · rintro (hid | ⟨hle, hlt⟩)
        · exact ⟨Nat.le_of_eq hid.symm, hid ▸ hlater⟩
        · exact ⟨Nat.le_of_lt hle, hlt⟩
      · rintro ⟨hle, hlt⟩
        rcases Nat.eq_or_lt_of_le hle with heq | hlt'
        · exact .inl heq.symm
        · exact .inr ⟨hlt', hlt⟩

/-! ### Runs -/

theorem run_listed (acts : List Act) {s : Scene} (h : s.Listed)
    (few : (run acts s).proxy.actors.size ≤ 2 ^ 128) : (run acts s).Listed := by
  induction acts generalizing s with
  | nil => exact h
  | cons x rest ih =>
    have hnow : s.proxy.actors.size ≤ 2 ^ 128 := Nat.le_trans (size_le_run (x :: rest) s) few
    exact ih (apply_listed h hnow x) few

/-- What belongs to the end of one session: the steps of its task, and those of whoever ends it. -/
def Act.isOf (id : ActorId) : Act → Prop
  | .event (.step i) | .condemn i | .breakOff i | .notice i | .remove i => i = id
  | _ => False

/-- The end of one session leaves the entries of all others. -/
theorem find?_apply_of_isOf {s : Scene} (h : s.Listed) (few : s.proxy.actors.size ≤ 2 ^ 128)
    {x : Act} {old id : ActorId} {name : String} (isOf : x.isOf old) (other : old ≠ id)
    (found : Table.find? s.proxy.live name = some id) :
    Table.find? (s.apply x).proxy.live name = some id := by
  have hstay {q : Proxy} (roster : q.roster = s.proxy.roster) :
      Table.find? q.live name = some id := by
    rwa [show q.live = s.proxy.live from congrArg Prod.fst roster]
  have hleave : Table.find? (s.proxy.leave old).live name = some id := by
    cases ha : s.proxy.actor? old with
    | none =>
      have hsame : s.proxy.leave old = s.proxy := by rw [Proxy.leave, ha]
      rwa [hsame]
    | some a => exact (h.find?_leave few ha).mpr ⟨found, other.symm⟩
  cases x with
  | event e =>
    cases e with
    | step i =>
      obtain rfl : i = old := isOf
      cases hconcerns : s.proxy.concernsTable (.step i) with
      | false => exact hstay (Proxy.roster_apply hconcerns)
      | true =>
        obtain ⟨a, -, -, hstep⟩ := Proxy.exists_leaving hconcerns
        rw [apply, hstep]
        exact hleave
    | _ => cases isOf
  | condemn i =>
    rw [apply]
    split
    · exact hstay (Proxy.roster_changeActor _ i _)
    · exact found
  | breakOff i =>
    rw [apply]
    split
    · exact hstay (s.proxy.roster_abort i)
    · exact found
  | notice i => exact hstay (Proxy.roster_changeActor _ i _)
  | remove i =>
    obtain rfl : i = old := isOf
    rw [apply]
    split
    · exact hleave
    · exact found

/-- **The table of live sessions is exact.** Sessions start, end by themselves and are ended from
outside, at once or step by step, in any order. Every session in the table is there under its own
name, no name is there twice, and when everything is quiet, the sessions in the table are those that
have started and are not terminated. A session is taken out only if it is terminated itself: what
belongs to the end of another session leaves it in there, whatever name that one had. The sessions
are told apart by their numbers, so there have to be enough of these. -/
theorem run_liveTable (strict : Bool) (acts : List Act)
    (few : (run acts (.ofProxy (.fresh strict))).proxy.actors.size ≤ 2 ^ 128) :
    let s := run acts (.ofProxy (.fresh strict))
    (∀ name id, Table.find? s.proxy.live name = some id →
      ∃ a, s.proxy.actor? id = some a ∧ a.session.name = name) ∧
    (Table.names s.proxy.live).Nodup ∧
    (s.isQuiet = true → ∀ id, (∃ name, Table.find? s.proxy.live name = some id) ↔
      id ∈ starts acts (.ofProxy (.fresh strict)) ∧
        ∀ a, s.proxy.actor? id = some a → a.session.state ≠ .terminated) ∧
    (∀ x name id, Table.find? s.proxy.live name = some id →
      Table.find? (s.apply x).proxy.live name = some id ∨
        ∃ a, (s.apply x).proxy.actor? id = some a ∧ a.session.state = .terminated) ∧
    ∀ x old name id, x.isOf old → old ≠ id → Table.find? s.proxy.live name = some id →
      Table.find? (s.apply x).proxy.live name = some id := by
  intro s
  have hlisted : s.Listed := run_listed acts (.ofProxy_fresh strict) few
  have hstarts (id : ActorId) : id ∈ starts acts (.ofProxy (.fresh strict)) ↔
      ∃ a, s.proxy.actor? id = some a := by
    have hnone : (Scene.ofProxy (.fresh strict)).proxy.actors.size = 0 := rfl
    rw [mem_starts, hnone, ← Option.isSome_iff_exists, Proxy.actor?, isSome_getElem?]
    exact and_iff_right (Nat.zero_le id)
  have hstate {a : Actor} : a.session.isTerminated = true ↔ a.session.state = .terminated := by
    simp [Session.isTerminated]
  refine ⟨hlisted.own, ?_, fun quiet id => ⟨?_, ?_⟩, fun x name id found => ?_,
    fun x old name id isOf other found => find?_apply_of_isOf hlisted few isOf other found⟩
  · refine List.pairwise_map.mpr (hlisted.ordered.imp fun hlt heq => ?_)
    rw [heq] at hlt
    exact String.lt_irrefl _ hlt
  · rintro ⟨name, found⟩
    obtain ⟨a, ha, -⟩ := hlisted.own name id found
    refine ⟨(hstarts id).mpr ⟨a, ha⟩, fun b hb hterminated => ?_⟩
    -- its task would be gone, and nobody would be left to take it out
    have htask := task_of_isQuiet quiet hb (hstate.mpr hterminated)
    rcases hlisted.gone id b hb htask with howed | hout
    · rw [owed_of_isQuiet quiet] at howed
      cases howed
    · exact hout name found
  · rintro ⟨hstarted, hlive⟩
    obtain ⟨a, ha⟩ := (hstarts id).mp hstarted
    refine ⟨a.session.name, hlisted.there id a ha ?_⟩
    exact Running.isTerminated_eq_false (hlive a ha)
  · obtain ⟨a, ha, hown⟩ := hlisted.own name id found
    obtain ⟨b, hb, hgoes⟩ := (s.apply_turns x).old id a ha
    have hname : b.session.name = name := (congrArg Prod.snd hgoes.identity).trans hown
    cases hterminated : b.session.isTerminated with
    | true => exact .inr ⟨b, hb, hstate.mp hterminated⟩
    | false =>
      have hthere := (apply_listed hlisted few x).there id b hb hterminated
      exact .inl (hname ▸ hthere)

/-- A session is terminated and taken out, another one gets its name, and only then the task of the
first one ends. -/
def reused : List Act :=
  [.event (.operation (.addCluster
      (.ofFields [("name", "c"), ("spec", .ofFields [("protocol", "echo")])]))),
    .event (.operation (.addRule (.ofFields [("name", "r"), ("match", "*"),
      ("action", .ofFields [("route", .ofFields [("destination", "c")])])]))),
    .event (.operation (.addRuleList (.ofFields [("name", "main"), ("rules", .array ["r"])]))),
    .event (.dispatch (.ofFields [("name", "s")]) "main" none), .event (.step 0), .event (.step 0),
    .condemn 0, .remove 0,
    .event (.dispatch (.ofFields [("name", "s")]) "main" none), .event (.step 1), .event (.step 1),
    .notice 0, .event (.step 0), .event (.step 0)]

theorem run_liveTable_reused :
    (∃ name, Table.find? (run reused (.ofProxy (.fresh false))).proxy.live name = some 1) ∧
      ¬∃ name, Table.find? (run reused (.ofProxy (.fresh false))).proxy.live name = some 0 := by
  have hfew : (run reused (.ofProxy (.fresh false))).proxy.actors.size ≤ 2 ^ 128 := by
    decide +kernel
  have hquiet : (run reused (.ofProxy (.fresh false))).isQuiet = true := by decide +kernel
  have hstarts : starts reused (.ofProxy (.fresh false)) = [0, 1] := by decide +kernel
  have hstates : (run reused (.ofProxy (.fresh false))).proxy.actors.map (·.session.state) =
      #[.terminated, .connected] := by
    decide +kernel
  have hstate (id : ActorId) :
      ((run reused (.ofProxy (.fresh false))).proxy.actor? id).map (·.session.state) =
        #[SessionState.terminated, .connected][id]? := by
    rw [← hstates, Array.getElem?_map]
    rfl
  have hexact := (run_liveTable false reused hfew).2.2.1 hquiet
  refine ⟨(hexact 1).mpr ⟨by rw [hstarts]; decide, fun a ha => ?_⟩, fun hlisted => ?_⟩
  · have hone := hstate 1
    rw [ha] at hone
    simp at hone
    simp [hone]
  · obtain ⟨-, hlive⟩ := (hexact 0).mp hlisted
    obtain ⟨a, ha, hterminated⟩ := Option.map_eq_some_iff.mp (hstate 0)
    exact hlive a ha hterminated

end Scene

end Switchboard

/-
Names of sessions.

A session is stored under the first free one of a wished name and its numbered variants, and this
name is written into its metadata. What is wished for is the name in the metadata, or else the next
default name. If none is free, there is no session.

* `Proxy.wished`: the name that a session asks for;
* `Proxy.Joins`: a session that comes to those that there are, which stay as they are;
* `dispatch_names`: **a session gets the first free name, unless none is left for it**.
-/
import Switchboard.Proofs.Names
import Switchboard.Proofs.Proxy.Frame

namespace Switchboard

namespace Proxy

/-- The name in the metadata, if there is one and it is a text. -/
def ownName? (metadata : Json) : Option String := (metadata.field? "name").bind Json.string?

/-- The name that a session asks for: its own one, or else the next default name. -/
def wished (p : Proxy) (metadata : Json) : String :=
  (ownName? metadata).getD (numbered "Session" (p.registry.resources.names.counter .session))

/-- No live session has the name. -/
def IsFree (p : Proxy) (name : String) : Prop := Table.find? p.live name = none

instance (p : Proxy) : DecidablePred p.IsFree := fun _ => inferInstanceAs (Decidable (_ = none))

/-- The first free one of a name and its numbered variants. -/
def IsFirstFree (p : Proxy) (base name : String) : Prop :=
  ∃ k ≤ 20, name = variant base k ∧ p.IsFree name ∧ ∀ j < k, ¬ p.IsFree (variant base j)

/-- A session comes to those that there are and is live under its own name. All other sessions, all
streams and all other entries of the table stay as they are. -/
structure Joins (p q : Proxy) (id : ActorId) (session : Session) : Prop where
  absent : p.actor? id = none
  there : (q.actor? id).map Actor.session = some session
  listed : Table.find? q.live session.name = some id
  others : ∀ other, other ≠ id → q.actor? other = p.actor? other
  entries : ∀ name, name ≠ session.name → Table.find? q.live name = Table.find? p.live name
  streams : q.streams = p.streams

section

variable {p : Proxy} {metadata : Json} {base name : String}

theorem wishedName_eq (p : Proxy) (metadata : Json) :
    (p.wishedName metadata).1 = p.wished metadata := by
  rw [wishedName, wished, ownName?]
  cases (metadata.field? "name").bind Json.string? <;> rfl

/-- A default name is used up, whether there will be a session or not. -/
theorem counter_wishedName (p : Proxy) (metadata : Json) :
    (p.wishedName metadata).2.registry.resources.names.counter .session =
      p.registry.resources.names.counter .session +
        if (ownName? metadata).isSome then 0 else 1 := by
  rw [wishedName, ownName?]
  cases (metadata.field? "name").bind Json.string? <;> rfl

theorem has_eq_false_iff : Table.has p.live name = false ↔ p.IsFree name := by
  rw [Table.has, Option.isSome_eq_false_iff, Option.isNone_iff_eq_none]
  rfl

theorem has_eq_true_iff : Table.has p.live name = true ↔ ¬ p.IsFree name := by
  rw [← has_eq_false_iff, Bool.not_eq_false]

theorem uniqueName_live_eq_some_iff :
    uniqueName base (fun name => Table.has p.live name) = some name ↔ p.IsFirstFree base name := by
  rw [uniqueName_eq_some_iff]
  simp only [has_eq_false_iff, has_eq_true_iff]
  refine exists_congr fun k => and_congr_right fun _ => ?_
  rw [eq_comm]

theorem IsFirstFree.unique {other : String} (h : p.IsFirstFree base name)
    (h' : p.IsFirstFree base other) : name = other :=
  Option.some.inj
    ((uniqueName_live_eq_some_iff.mpr h).symm.trans (uniqueName_live_eq_some_iff.mpr h'))

theorem uniqueName_live_eq_none_iff :
    uniqueName base (fun name => Table.has p.live name) = none ↔
      ∀ k ≤ 20, ¬ p.IsFree (variant base k) := by
  rw [uniqueName_eq_none_iff]
  simp only [has_eq_true_iff]
  rfl

end

variable (p : Proxy) (metadata : Json) (ruleList : String) (source : StreamId) (hook : Option Hook)

/-- Without a free name nothing happens to the sessions. -/
theorem dispatch_of_exhausted (h : ∀ k ≤ 20, ¬ p.IsFree (variant (p.wished metadata) k)) :
    p.dispatch metadata ruleList source hook =
      (.error (.sessionNameExhausted (p.wished metadata)), (p.wishedName metadata).2) := by
  unfold dispatch
  simp only [live_wishedName, wishedName_eq, uniqueName_live_eq_none_iff.mpr h]

/-- With a free name there is a new session. -/
theorem dispatch_of_free {name : String} (h : p.IsFirstFree (p.wished metadata) name) :
    ∃ q, p.dispatch metadata ruleList source hook = (.ok p.actors.size, q) ∧
      q.registry = (p.wishedName metadata).2.registry ∧
      p.Joins q p.actors.size (.create ⟨BitVec.ofNat 128 p.actors.size⟩ name ruleList
        (Path.set metadata "/name" (.string name))) := by
  unfold dispatch
  simp only [live_wishedName, wishedName_eq, uniqueName_live_eq_some_iff.mpr h, actors_wishedName]
  refine ⟨_, rfl, rfl, ?_⟩
  constructor
  · exact Array.getElem?_size
  · rw [actor?_of_push rfl, if_pos rfl]
    rfl
  · exact Table.find?_insert_self ..
  · intro other hother
    rw [actor?_of_push rfl, if_neg hother]
  · intro other hother
    exact Table.find?_insert_of_ne hother ..
  · exact streams_wishedName p metadata

/-- **A session gets the first free name, unless none is left for it.** What is tried is the wished
name and its variants up to the twentieth. If one of them is free, a session starts under the first
that is. Its metadata is what was asked with, but for this name in it, and nothing happens to the
others. If none is free, there is no session and nothing happens to the live ones. Either way a
default name is used up if one was wished for. -/
theorem dispatch_names :
    ((∃ id, (p.dispatch metadata ruleList source hook).1 = .ok id) ↔
      ∃ k ≤ 20, p.IsFree (variant (p.wished metadata) k)) ∧
    (∀ id q, p.dispatch metadata ruleList source hook = (.ok id, q) →
      ∃ name session, p.IsFirstFree (p.wished metadata) name ∧
        session.name = name ∧ session.metadata = Path.set metadata "/name" (.string name) ∧
        session.state = .created ∧ session.outcome = none ∧
        session = .create ⟨BitVec.ofNat 128 id⟩ name ruleList
          (Path.set metadata "/name" (.string name)) ∧
        p.Joins q id session) ∧
    (∀ fault q, p.dispatch metadata ruleList source hook = (.error fault, q) →
      fault = .sessionNameExhausted (p.wished metadata) ∧ q.live = p.live ∧
        q.actors = p.actors ∧ q.streams = p.streams) ∧
    (p.dispatch metadata ruleList source hook).2.registry.resources.names.counter .session =
      p.registry.resources.names.counter .session +
        if (ownName? metadata).isSome then 0 else 1 := by
  cases hname : uniqueName (p.wished metadata) fun name => Table.has p.live name with
  | none =>
    have hnone := uniqueName_live_eq_none_iff.mp hname
    rw [dispatch_of_exhausted p metadata ruleList source hook hnone]
    refine ⟨⟨nofun, ?_⟩, nofun, ?_, counter_wishedName p metadata⟩
    · rintro ⟨k, hk, hfree⟩
      exact absurd hfree (hnone k hk)
    · rintro fault q ⟨⟩
      exact ⟨rfl, live_wishedName p metadata, actors_wishedName p metadata,
        streams_wishedName p metadata⟩
  | some name =>
    have hfirst := uniqueName_live_eq_some_iff.mp hname
    obtain ⟨q, hdispatch, hregistry, hjoins⟩ :=
      dispatch_of_free p metadata ruleList source hook hfirst
    rw [hdispatch]
    refine ⟨⟨fun _ => ?_, fun _ => ⟨_, rfl⟩⟩, ?_, nofun, ?_⟩
    · obtain ⟨k, hk, rfl, hfree, -⟩ := hfirst
      exact ⟨k, hk, hfree⟩
    · rintro id q' ⟨⟩
      exact ⟨name, _, hfirst, rfl, rfl, rfl, rfl, rfl, hjoins⟩
    · show q.registry.resources.names.counter .session = _
      rw [hregistry, counter_wishedName]

/-- The metadata of a session with a name. -/
def named (name : String) : Json := .ofFields [("name", name)]

/-- A proxy on which one name and all its variants are taken. -/
def crowded : Proxy := run (List.replicate 21 (.dispatch (named "s") "main" none)) (.fresh false)

/-- No name is left for one more session of the same name. A session that asks for one of the
variants gets a variant of that, and has it in its metadata. -/
theorem dispatch_names_crowded :
    (∃ q, crowded.dispatch (named "s") "main" 0 none = (.error (.sessionNameExhausted "s"), q) ∧
      q.live = crowded.live) ∧
    ∃ id q session, crowded.dispatch (named "s_20") "main" 0 none = (.ok id, q) ∧
      Table.find? q.live "s_20_1" = some id ∧
      (q.actor? id).map Actor.session = some session ∧
      session.name = "s_20_1" ∧ session.metadata = named "s_20_1" := by
  constructor
  · obtain ⟨hok, -, herror, -⟩ := dispatch_names crowded (named "s") "main" 0 none
    have htaken : ∀ k ≤ 20, ¬ crowded.IsFree (variant (crowded.wished (named "s")) k) := by
      decide +kernel
    rcases hdispatch : crowded.dispatch (named "s") "main" 0 none with ⟨fault | id, q⟩
    · obtain ⟨rfl, hlive, -⟩ := herror fault q hdispatch
      exact ⟨q, rfl, hlive⟩
    · obtain ⟨k, hk, hfree⟩ := hok.mp ⟨id, congrArg Prod.fst hdispatch⟩
      exact absurd hfree (htaken k hk)
  · obtain ⟨hok, hnew, -⟩ := dispatch_names crowded (named "s_20") "main" 0 none
    have hwished : crowded.wished (named "s_20") = "s_20" := by decide +kernel
    have htaken : ¬ crowded.IsFree "s_20" := by decide +kernel
    have hfree : crowded.IsFree "s_20_1" := by decide +kernel
    -- the wished name is taken, and its first variant is not
    have hfirst : crowded.IsFirstFree "s_20" "s_20_1" := by
      refine ⟨1, by decide, rfl, hfree, fun j hj => ?_⟩
      obtain rfl : j = 0 := by omega
      exact htaken
    rw [hwished] at hok hnew
    generalize crowded.dispatch (named "s_20") "main" 0 none = answer at hok hnew ⊢
    obtain ⟨result, q⟩ := answer
    obtain ⟨id, rfl⟩ := hok.mpr ⟨1, by decide, hfree⟩
    obtain ⟨name, session, hname, hown, hmetadata, -, -, -, hjoins⟩ := hnew id q rfl
    obtain rfl := hname.unique hfirst
    have hlisted := hjoins.listed
    rw [hown] at hlisted
    exact ⟨id, q, session, rfl, hlisted, hjoins.there, hown, hmetadata⟩

end Proxy

end Switchboard

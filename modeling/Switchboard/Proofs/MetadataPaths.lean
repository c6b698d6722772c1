/-
Edits at paths inside the metadata of a session.

Reading goes along the path as it is given. Writing cuts the first segment off, puts the others
together to a path again and follows that one. The two agree exactly on the paths that do not end in
an empty segment, for an empty segment at the end is lost on the way.

* `metadataPath?_of_segments`: the path that is followed inside the metadata;
* `setPath_session`, `getPath_session`: what writing and reading do to a live session;
* `setPath_metadata`: which writes change what reading shows at the same path.
-/
import Switchboard.Admin.Paths
import Switchboard.Proofs.Json.Path
import Switchboard.Proofs.Proxy.Event
import Switchboard.Proofs.Table

namespace Switchboard

theorem Session.find?_view_metadata (s : Session) (recursive : Bool) :
    (s.view recursive).field? "metadata" = some s.metadata := by
  rw [view, Json.ofFields, Json.field?, Table.find?_ofList]
  simp [Table.find?]

/-- A key of an object leads to its own value. -/
theorem Path.child?_of_field? {doc v : Json} {key : String} (h : doc.field? key = some v) :
    child? doc key = some v := by
  cases doc with
  | object fields =>
    rw [child?, objectKey_of_find? h]
    exact h
  | _ => cases h

/-- Writing below a key of an object with no other key. -/
theorem Path.set_singleton {path key : String} {segs : List String}
    (h : segments path = key :: segs) (doc v : Json) :
    (set (.ofFields [(key, doc)]) path v).field? key = some (setAt doc segs v) := by
  have hdoc : Table.find? (Table.ofList [(key, doc)]) key = some doc := by
    rw [Table.find?_ofList]
    simp [Table.find?]
  rw [set, h, Json.ofFields, setAt_field hdoc]
  exact Table.find?_insert_self ..

namespace Proxy

variable {p : Proxy} {name : String} {id : ActorId} {a : Actor}

theorem liveActor?_setMetadata (live : p.liveActor? name = some (id, a)) (metadata : Json) :
    (p.setMetadata id metadata).liveActor? name = some (id,
      { a with running := { a.running with session := { a.session with metadata } } }) := by
  obtain ⟨id', hid, hactor⟩ := Option.bind_eq_some_iff.mp live
  obtain ⟨a', ha, heq⟩ := Option.map_eq_some_iff.mp hactor
  cases heq
  have hthere : p.actors[id]? = some a := ha
  simp [liveActor?, setMetadata, changeActor, actor?, hid, Array.getElem?_modify, hthere]

end Proxy

namespace Admin

variable {p : Proxy} {name path : String} {id : ActorId} {a : Actor} {s : String}
  {rest : List String}

/-- The path that is followed inside the metadata loses an empty segment at its end. -/
theorem metadataPath?_of_segments (inside : Path.segments path = "metadata" :: s :: rest) :
    ∃ inner, metadataPath? path = some inner ∧ Path.segments inner = Path.reread (s :: rest) := by
  refine ⟨_, by simp only [metadataPath?, inside], Path.segments_join (by simp) fun t ht => ?_⟩
  exact Path.not_mem_segments (inside ▸ List.mem_cons_of_mem _ ht)

theorem sessionOf_of_live (live : p.liveActor? name = some (id, a)) :
    sessionOf p name = .ok (id, a.session) := by
  rw [sessionOf, live]

/-- Writing into a live session always succeeds. -/
theorem setPath_session (live : p.liveActor? name = some (id, a))
    (inside : Path.segments path = "metadata" :: s :: rest) (v : Json) :
    ∃ view, setPath p .session name path v =
      (.ok view, p.setMetadata id (Path.setAt a.session.metadata (Path.reread (s :: rest)) v)) := by
  obtain ⟨inner, hinner, hsegs⟩ := metadataPath?_of_segments inside
  have hroot : Path.isRoot path = false := by rw [Path.isRoot, inside]; rfl
  rw [setPath, editPath, hroot, editSession, hinner, sessionOf_of_live live]
  simp only [writing, Path.set, hsegs]
  exact ⟨_, rfl⟩

/-- Reading goes along the path as it is given. -/
theorem getPath_session (live : p.liveActor? name = some (id, a))
    (inside : Path.segments path = "metadata" :: s :: rest) (v : Json) :
    getPath p .session name path = .ok v ↔ Path.getAt a.session.metadata (s :: rest) = some v := by
  have hget : Path.get (a.session.view false) path = Path.getAt a.session.metadata (s :: rest) := by
    rw [Path.get, inside, Path.getAt,
      Path.child?_of_field? (a.session.find?_view_metadata false), Option.bind_some]
  rw [getPath, get, getSession, sessionOf_of_live live]
  simp only [Except.map, hget]
  cases Path.getAt a.session.metadata (s :: rest) with
  | some w => simp
  | none => simp

/-- What is written where an empty segment got lost is not found behind the empty segment: it would
be a part of itself. -/
theorem getAt_setAt_reread {segs : List String} (h : segs.getLast? = some "") (doc v : Json) :
    Path.getAt (Path.setAt doc (Path.reread segs) v) segs ≠ some v := by
  obtain ⟨t, more, hsegs⟩ := Path.exists_append_of_getLast?_eq h
  intro hget
  conv at hget => lhs; arg 2; rw [hsegs]
  rw [Path.getAt_append, Path.getAt_setAt, Option.bind_some] at hget
  exact Nat.lt_irrefl _ (Path.sizeOf_lt_of_getAt hget)

/-- **A write shows at its path exactly if the path does not end in an empty segment.** Every write
inside the metadata of a live session succeeds and changes nothing but that session's metadata. It
writes what the same write does to the metadata in a document, and is read back at the same path,
for the paths whose last segment is not empty, and for no others. -/
theorem setPath_metadata (live : p.liveActor? name = some (id, a))
    (inside : Path.segments path = "metadata" :: s :: rest) (v : Json) :
    ∃ view metadata,
      setPath p .session name path v = (.ok view, p.setMetadata id metadata) ∧
      ((p.setMetadata id metadata).liveActor? name).map (·.2.session.metadata) = some metadata ∧
      ((Path.set (.ofFields [("metadata", a.session.metadata)]) path v).field? "metadata" =
          some metadata ↔ (Path.segments path).getLast? ≠ some "") ∧
      (getPath (p.setMetadata id metadata) .session name path = .ok v ↔
        (Path.segments path).getLast? ≠ some "") := by
  obtain ⟨view, hset⟩ := setPath_session live inside v
  have hlast : (Path.segments path).getLast? = (s :: rest).getLast? := by
    rw [inside, List.getLast?_cons_cons]
  have hlive := Proxy.liveActor?_setMetadata live
    (Path.setAt a.session.metadata (Path.reread (s :: rest)) v)
  refine ⟨view, _, hset, by rw [hlive]; rfl, ?_, ?_⟩
  · rw [Path.set_singleton inside, hlast, Option.some_inj]
    constructor
    · intro heq hempty
      refine getAt_setAt_reread hempty a.session.metadata v ?_
      rw [← heq, Path.getAt_setAt]
    · intro h
      rw [Path.reread_of_getLast?_ne h]
  · rw [getPath_session hlive inside, hlast]
    constructor
    · intro hget hempty
      exact getAt_setAt_reread hempty a.session.metadata v hget
    · intro h
      show Path.getAt (Path.setAt _ _ v) _ = _
      rw [Path.reread_of_getLast?_ne h, Path.getAt_setAt]

/-- A proxy with one live session, which has not been routed yet. -/
def caller : Proxy :=
  Proxy.run [.dispatch (.ofFields [("name", .string "caller")]) "main" none] (.fresh false)

/-- Empty segments elsewhere do no harm, and neither does one trailing slash. -/
theorem setPath_metadata_emptySegment :
    ∃ id a, caller.liveActor? "caller" = some (id, a) ∧
      Path.segments "/metadata//tags/007/" = ["metadata", "", "tags", "007"] ∧
      ∃ view metadata,
        setPath caller .session "caller" "/metadata//tags/007/" (.string "gold") =
          (.ok view, caller.setMetadata id metadata) ∧
        getPath (caller.setMetadata id metadata) .session "caller" "/metadata//tags/007/" =
          .ok (.string "gold") := by
  have hlive : (caller.liveActor? "caller").isSome = true := by decide +kernel
  have hsegs : Path.segments "/metadata//tags/007/" = ["metadata", "", "tags", "007"] := by
    decide +kernel
  obtain ⟨⟨id, a⟩, live⟩ := Option.isSome_iff_exists.mp hlive
  obtain ⟨view, metadata, hset, -, -, hget⟩ := setPath_metadata live hsegs (.string "gold")
  refine ⟨id, a, live, hsegs, view, metadata, hset, hget.mpr ?_⟩
  rw [hsegs]
  decide

/-- Not every write inside the metadata is read back at its path: with an empty segment at the end
the field in front of it is written. -/
theorem not_setPath_metadata_read :
    ¬ ∀ (p : Proxy) (name path : String) (id : ActorId) (a : Actor) (s : String)
        (rest : List String) (v : Json), p.liveActor? name = some (id, a) →
        Path.segments path = "metadata" :: s :: rest →
        ∃ view metadata,
          setPath p .session name path v = (.ok view, p.setMetadata id metadata) ∧
          (Path.set (.ofFields [("metadata", a.session.metadata)]) path v).field? "metadata" =
            some metadata ∧
          getPath (p.setMetadata id metadata) .session name path = .ok v := by
  intro h
  have hlive : (caller.liveActor? "caller").isSome = true := by decide +kernel
  have hlost : (getPath (setPath caller .session "caller" "/metadata/tags//" (.bool true)).2
      .session "caller" "/metadata/tags//").isOk = false := by
    decide +kernel
  obtain ⟨⟨id, a⟩, live⟩ := Option.isSome_iff_exists.mp hlive
  obtain ⟨view, metadata, hset, -, hget⟩ :=
    h caller "caller" "/metadata/tags//" id a "tags" [""] (.bool true) live (by decide +kernel)
  rw [hset, hget] at hlost
  cases hlost

end Admin

end Switchboard

/-
Where the leaves of a predicate look.

The path of a compound operation stands in front of the paths of its parts. Evaluation joins the
paths as texts and splits the text at a leaf. What it reads there is what one gets by going into the
document path by path: slashes at the ends of a path neither add a segment nor lose one, and empty
segments inside stay.

* `Path.segments_spelled_append`: what follows segments behind a slash adds its own segments;
* `Path.Spells`: a text that spells some segments, each behind a slash;
* `Path.Spells.join`: joining a path to it adds the segments of the path;
* `get_joinPaths`: reading at joined paths is reading one path after the other;
* `evaluate_reads_inside`: **every leaf looks inside the places of the operations around it**.
-/
import Mathlib.Data.List.DropRight
import Switchboard.Proofs.Predicate.Expression

namespace Switchboard

namespace Path

/-! ### Segments behind slashes -/

/-- The text with a slash in front of each segment. -/
def spelled (segs : List String) : List Char := segs.flatMap fun s => '/' :: s.toList

theorem spelled_append (segs more : List String) :
    spelled (segs ++ more) = spelled segs ++ spelled more :=
  List.flatMap_append

theorem spelled_splitSlash (cs : List Char) :
    spelled ((splitSlash cs).map String.ofList) = '/' :: cs := by
  induction cs with
  | nil => rfl
  | cons c rest ih =>
    rw [splitSlash]
    by_cases hc : c = '/'
    · rw [if_pos hc, List.map_cons, hc]
      exact congrArg ('/' :: ·) ih
    · rw [if_neg hc]
      cases hrest : splitSlash rest with
      | nil => exact absurd hrest (splitSlash_ne_nil rest)
      | cons part parts =>
        rw [hrest] at ih
        simp [spelled] at ih ⊢
        exact ih

/-- Splitting gives back the segments behind the first one. -/
theorem splitSlash_spelled {s : String} {segs : List String} (hs : '/' ∉ s.toList)
    (h : ∀ t ∈ segs, '/' ∉ t.toList) :
    splitSlash (s.toList ++ spelled segs) = (s :: segs).map String.toList := by
  induction segs generalizing s with
  | nil => simpa [spelled] using splitSlash_eq_singleton hs
  | cons t rest ih =>
    obtain ⟨ht, hrest⟩ := List.forall_mem_cons.mp h
    show splitSlash (s.toList ++ '/' :: (t.toList ++ spelled rest)) = _
    rw [splitSlash_append hs, ih ht hrest]
    rfl

theorem dropTrailing_append {ys : List Char} (h : ys ≠ []) (xs : List Char) :
    dropTrailing (xs ++ ys) = xs ++ dropTrailing ys := by
  obtain ⟨init, c, rfl⟩ : ∃ init c, ys = init ++ [c] :=
    ⟨_, _, (List.dropLast_concat_getLast h).symm⟩
  rw [← List.append_assoc]
  by_cases hc : c = '/'
  · rw [hc, dropTrailing_slash, dropTrailing_slash]
  · rw [dropTrailing_of_ne hc, dropTrailing_of_ne hc, List.append_assoc]

theorem segments_of_ne_nil {path : String} {cs : List Char} (h : cs ≠ [])
    (hpath : dropTrailing (dropLeading path.toList) = cs) :
    segments path = (splitSlash cs).map String.ofList := by
  rw [segments, hpath]
  split
  · exact absurd rfl h
  · rfl

theorem dropLeading_of_ne {cs : List Char} (h : cs.head? ≠ some '/') : dropLeading cs = cs := by
  cases cs with
  | nil => rfl
  | cons c rest =>
    rw [List.head?_cons, ne_eq, Option.some_inj] at h
    unfold dropLeading
    split
    · next heq => exact absurd (List.cons.inj heq).1 h
    · rfl

theorem dropTrailing_of_getLast?_ne {cs : List Char} (h : cs.getLast? ≠ some '/') :
    dropTrailing cs = cs := by
  rw [dropTrailing, dropLeading_of_ne (by rwa [List.head?_reverse]), List.reverse_reverse]

theorem dropTrailing_ne_nil {cs : List Char} (h : cs ≠ []) (hcs : cs.head? ≠ some '/') :
    dropTrailing cs ≠ [] := by
  obtain ⟨init, c, rfl⟩ : ∃ init c, cs = init ++ [c] :=
    ⟨_, _, (List.dropLast_concat_getLast h).symm⟩
  by_cases hc : c = '/'
  · rw [hc, dropTrailing_slash]
    rintro rfl
    exact hcs (by rw [hc]; rfl)
  · rw [dropTrailing_of_ne hc]
    exact h

/-- What follows segments behind a slash adds its own segments. -/
theorem segments_spelled_append {segs : List String} (h : ∀ s ∈ segs, '/' ∉ s.toList)
    (hlast : segs.getLast? ≠ some "") {cs : List Char} (hcs : cs.head? ≠ some '/') :
    segments (String.ofList (spelled segs ++ '/' :: cs)) =
      segs ++ segments (String.ofList cs) := by
  cases segs with
  | nil =>
    simp only [segments, spelled, List.flatMap_nil, List.nil_append, String.toList_ofList,
      dropLeading_of_ne hcs]
    rfl
  | cons s more =>
    obtain ⟨hs, hmore⟩ := List.forall_mem_cons.mp h
    have hlead : dropLeading (String.ofList (spelled (s :: more) ++ '/' :: cs)).toList =
        (s.toList ++ spelled more) ++ '/' :: cs := by
      simp [spelled, dropLeading]
    by_cases hnil : cs = []
    · -- the slash behind the segments is a trailing one
      have hne : s.toList ++ spelled more ≠ [] := by
        intro heq
        obtain ⟨hfirst, hrest⟩ := List.append_eq_nil_iff.mp heq
        cases more with
        | nil => exact hlast (by rw [String.toList_eq_nil_iff.mp hfirst]; rfl)
        | cons t more => cases hrest
      rw [segments_of_ne_nil hne (by rw [hlead, hnil, dropTrailing_slash]),
        splitSlash_spelled hs hmore, hnil]
      simp [segments, dropLeading, dropTrailing]
    · have hrest : dropTrailing cs ≠ [] := dropTrailing_ne_nil hnil hcs
      have hsegs : segments (String.ofList cs) =
          (splitSlash (dropTrailing cs)).map String.ofList :=
        segments_of_ne_nil hrest (by rw [String.toList_ofList, dropLeading_of_ne hcs])
      have htext : dropTrailing (s.toList ++ spelled more ++ '/' :: cs) =
          s.toList ++ spelled (more ++ segments (String.ofList cs)) := by
        rw [spelled_append, hsegs, spelled_splitSlash, ← List.append_assoc,
          dropTrailing_append (List.cons_ne_nil _ _)]
        exact congrArg _ (dropTrailing_append hnil ['/'])
      have hslash : ∀ t ∈ more ++ segments (String.ofList cs), '/' ∉ t.toList := by
        intro t ht
        rcases List.mem_append.mp ht with ht | ht
        · exact hmore t ht
        · exact not_mem_segments ht
      have hne : s.toList ++ spelled (more ++ segments (String.ofList cs)) ≠ [] := by
        rw [spelled_append, hsegs, spelled_splitSlash]
        simp
      rw [segments_of_ne_nil hne (by rw [hlead, htext]), splitSlash_spelled hs hslash, List.map_map]
      simp [Function.comp_def]

/-! ### Slashes at the ends of paths -/

/-- The path without the slashes in front of it. -/
def trimFront (path : String) : String := String.ofList (path.toList.dropWhile (· = '/'))

/-- The path without the slashes at its ends. -/
def trimEnds (path : String) : String :=
  String.ofList ((path.toList.dropWhile (· = '/')).rdropWhile (· = '/'))

theorem head?_dropWhile_ne (cs : List Char) : (cs.dropWhile (· = '/')).head? ≠ some '/' := by
  intro h
  have hhead := List.head?_dropWhile_not (fun c : Char => decide (c = '/')) cs
  rw [h] at hhead
  simp at hhead

theorem getLast?_rdropWhile_ne (cs : List Char) :
    (cs.rdropWhile (· = '/')).getLast? ≠ some '/' := by
  rw [List.rdropWhile, List.getLast?_reverse]
  exact head?_dropWhile_ne cs.reverse

theorem rdropWhile_ne_nil {cs : List Char} (h : cs ≠ []) (hcs : cs.head? ≠ some '/') :
    cs.rdropWhile (· = '/') ≠ [] := by
  intro heq
  obtain ⟨c, rest, rfl⟩ := List.exists_cons_of_ne_nil h
  have hc := List.rdropWhile_eq_nil_iff.mp heq c List.mem_cons_self
  exact hcs (by simpa using hc)

theorem rdropWhile_append {ys : List Char} (h : ys.rdropWhile (· = '/') ≠ []) (xs : List Char) :
    (xs ++ ys).rdropWhile (· = '/') = xs ++ ys.rdropWhile (· = '/') := by
  rw [List.rdropWhile, List.reverse_append, List.dropWhile_append, if_neg]
  · rw [List.reverse_append, List.reverse_reverse]
    rfl
  · simpa [List.rdropWhile] using h

/-- A path without slashes at its ends is split as it is. -/
theorem segments_trimEnds {path : String}
    (h : (path.toList.dropWhile (· = '/')).rdropWhile (· = '/') ≠ []) :
    segments (trimEnds path) =
      (splitSlash ((path.toList.dropWhile (· = '/')).rdropWhile (· = '/'))).map String.ofList := by
  refine segments_of_ne_nil h ?_
  have hfirst : (trimEnds path).toList.head? ≠ some '/' := by
    obtain ⟨slashes, hslashes⟩ :=
      List.rdropWhile_prefix (· = '/') (path.toList.dropWhile (· = '/'))
    have hhead := head?_dropWhile_ne path.toList
    rw [← hslashes, List.head?_append_of_ne_nil _ h] at hhead
    rwa [trimEnds, String.toList_ofList]
  rw [dropLeading_of_ne hfirst, trimEnds, String.toList_ofList,
    dropTrailing_of_getLast?_ne (getLast?_rdropWhile_ne _)]

/-! ### Texts that spell segments -/

/-- Up to slashes at its end, the text is the given segments, each behind a slash. -/
structure Spells (base : String) (segs : List String) : Prop where
  text : base.toList.rdropWhile (· = '/') = spelled segs
  slashFree : ∀ s ∈ segs, '/' ∉ s.toList

theorem Spells.nil : Spells "" [] := ⟨rfl, nofun⟩

section

variable {base : String} {segs : List String}

/-- Slashes at the end of a text do not add a segment to it. -/
theorem Spells.getLast?_ne (h : Spells base segs) : segs.getLast? ≠ some "" := by
  intro hlast
  obtain ⟨init, rfl⟩ := List.getLast?_eq_some_iff.mp hlast
  refine getLast?_rdropWhile_ne base.toList ?_
  rw [h.text, spelled_append]
  simp [spelled]

theorem Spells.toList_joinPaths (h : Spells base segs) (path : String) :
    (Predicate.joinPaths base path).toList =
      spelled segs ++ '/' :: path.toList.dropWhile (· = '/') := by
  rw [← h.text, Predicate.joinPaths, String.toList_ofList]
  rfl

/-- A path read behind a text that spells segments. -/
theorem Spells.segments_joinPaths (h : Spells base segs) (path : String) :
    segments (Predicate.joinPaths base path) = segs ++ segments (trimFront path) := by
  rw [trimFront, ← segments_spelled_append h.slashFree h.getLast?_ne (head?_dropWhile_ne _),
    ← h.toList_joinPaths, String.ofList_toList]

/-- Joining a path adds its segments, whatever slashes are at its ends. -/
theorem Spells.join (h : Spells base segs) (path : String) :
    Spells (Predicate.joinPaths base path) (segs ++ segments (trimEnds path)) := by
  constructor
  · -- the slash that is put in between is the one in front of the path's first segment
    rw [h.toList_joinPaths, spelled_append]
    by_cases hnil : path.toList.dropWhile (· = '/') = []
    · -- the path consists of slashes and adds nothing
      have hempty : trimEnds path = "" := by rw [trimEnds, hnil]; rfl
      rw [hnil, hempty, List.rdropWhile_concat_pos _ _ _ (by simp), ← h.text,
        List.rdropWhile_idempotent, h.text]
      simp [segments, dropLeading, dropTrailing, spelled]
    · have hrest := rdropWhile_ne_nil hnil (head?_dropWhile_ne _)
      rw [List.append_cons, rdropWhile_append hrest, segments_trimEnds hrest, spelled_splitSlash]
      simp
  · intro s hs
    rcases List.mem_append.mp hs with hs | hs
    · exact h.slashFree s hs
    · exact not_mem_segments hs

/-- Joining paths one behind the other adds the segments of each. -/
theorem Spells.foldl_join (h : Spells base segs) (above : List String) :
    Spells (above.foldl Predicate.joinPaths base)
      (segs ++ (above.map trimEnds).flatMap segments) := by
  induction above generalizing base segs with
  | nil => simpa using h
  | cons path rest ih =>
    have hrest := ih (h.join path)
    rw [List.append_assoc] at hrest
    exact hrest

end

/-! ### Reading path by path -/

/-- Reading at paths one after the other is reading along all their segments. -/
theorem foldlM_get (doc : Json) (paths : List String) :
    paths.foldlM get doc = getAt doc (paths.flatMap segments) := by
  induction paths generalizing doc with
  | nil => rfl
  | cons path rest ih =>
    rw [List.foldlM_cons, List.flatMap_cons, getAt_append]
    exact congrArg (get doc path).bind (funext ih)

/-- A value is missing if one of the reads on the way to it finds nothing. -/
theorem foldlM_get_eq_none_iff {doc : Json} {paths : List String} :
    paths.foldlM get doc = none ↔
      ∃ done path rest, paths = done ++ path :: rest ∧
        ∃ v, done.foldlM get doc = some v ∧ get v path = none := by
  constructor
  · intro h
    induction paths generalizing doc with
    | nil => cases h
    | cons path rest ih =>
      rw [List.foldlM_cons] at h
      cases hfirst : get doc path with
      | none => exact ⟨[], path, rest, rfl, doc, rfl, hfirst⟩
      | some next =>
        rw [hfirst] at h
        obtain ⟨done, missing, later, rfl, v, hv, hnone⟩ := ih h
        refine ⟨path :: done, missing, later, rfl, v, ?_, hnone⟩
        rw [List.foldlM_cons, hfirst]
        exact hv
  · rintro ⟨done, path, rest, rfl, v, hv, hnone⟩
    rw [List.foldlM_append, hv]
    simp [hnone]

end Path

namespace Predicate

/-- What to read, one path inside of the other, to come to a path below those of compound
operations. Slashes at the ends of a path count for nothing, apart from those at the very end. -/
def inwards (above : List String) (path : String) : List String :=
  above.map Path.trimEnds ++ [Path.trimFront path]

example : inwards ["/a//", "//", "b//c"] "//d/" = ["a", "", "b//c", "d/"] := by decide +kernel

/-- Joined paths lead to where one gets by reading path by path. -/
theorem get_joinPaths (doc : Json) (above : List String) (path : String) :
    Path.get doc (joinPaths (above.foldl joinPaths "") path) =
      (inwards above path).foldlM Path.get doc := by
  have hspells := Path.Spells.nil.foldl_join above
  rw [Path.foldlM_get, Path.get, hspells.segments_joinPaths path, inwards]
  simp

/-- What an operation that is not compound comes to, given the value at its place. -/
def judge (table : PatternTable) (op : Op) (fields : List (String × Json))
    (target : Option Json) : Except Fault Bool :=
  if op.takesOperand then
    match Table.find? fields "value" with
    | none => .error (.missingField op "value")
    | some operand => satisfies table op (ignoresCase fields) operand target
  else satisfies table op false .null target

/-- A leaf that looks for its value by reading path by path. -/
def leafInside (table : PatternTable) (doc : Json) (above : List String) (op : Op)
    (fields : List (String × Json)) : Except Fault Bool :=
  match textField? fields "path" with
  | none => .error (.missingField op "path")
  | some path => judge table op fields ((inwards above path).foldlM Path.get doc)

theorem leafAt_eq_leafInside (table : PatternTable) (doc : Json) (above : List String) (op : Op)
    (fields : List (String × Json)) :
    leafAt table doc above op fields = leafInside table doc above op fields := by
  rw [leafAt, evaluateLeaf, leafInside]
  cases textField? fields "path" with
  | none => rfl
  | some path =>
    dsimp only
    rw [get_joinPaths]
    rfl

/-- **Every leaf looks inside the places of the operations around it.** Evaluation judges each leaf
by the value that one comes to by reading at the path of the outermost operation, then at the next
one inside of what was found, and so on to the path of the leaf. It is missing just if one of these
reads finds nothing. -/
theorem evaluate_reads_inside (p : Predicate) (doc : Json) :
    p.evaluate doc = evaluateAlong (leafInside p.patterns doc) p.expr [] ∧
    ∀ above op fields path, Within p.expr above op fields →
      textField? fields "path" = some path →
      leafInside p.patterns doc above op fields = judge p.patterns op fields
        (Path.get doc (joinPaths (above.foldl joinPaths "") path)) ∧
      Path.get doc (joinPaths (above.foldl joinPaths "") path) =
        (inwards above path).foldlM Path.get doc ∧
      (Path.get doc (joinPaths (above.foldl joinPaths "") path) = none ↔
        ∃ done next rest, inwards above path = done ++ next :: rest ∧
          ∃ v, done.foldlM Path.get doc = some v ∧ Path.get v next = none) := by
  constructor
  · rw [evaluate_eq_evaluateAlong]
    exact evaluateAlong_congr fun inner op fields _ => leafAt_eq_leafInside ..
  · intro above op fields path _ hpath
    rw [get_joinPaths]
    refine ⟨?_, rfl, Path.foldlM_get_eq_none_iff⟩
    rw [leafInside, hpath]

/-- A test of a member, with slashes that count for nothing. -/
def memberTest : List (String × Json) :=
  Table.ofList [("op", .string "test"), ("path", .string "//name"), ("value", .string "bob")]

/-- The test below an operation without a path. -/
def notMember : Json := .ofFields [("op", .string "not"), ("apply", .array [.object memberTest])]

/-- The test below a list as well, inside of an operation with a path. -/
def nestedTest : Json :=
  .ofFields [("op", .string "or"), ("path", .string "//users/0/"),
    ("apply", .array [.array [notMember]])]

theorem evaluate_reads_inside_nestedTest :
    Within nestedTest ["//users/0/", ""] .test memberTest ∧
    textField? memberTest "path" = some "//name" ∧
    ∀ doc, Path.get doc (joinPaths (["//users/0/", ""].foldl joinPaths "") "//name") =
      ["users/0", "", "name"].foldlM Path.get doc := by
  have hnot : Within notMember [""] .test memberTest :=
    .inside (show shape notMember = .compound .not [""] [_] from rfl) List.mem_cons_self (.here rfl)
  have hlist : Within (.array [notMember]) [""] .test memberTest :=
    .inside (show shape (.array _) = .compound .and [] _ from rfl) List.mem_cons_self hnot
  have hwithin : Within nestedTest ["//users/0/", ""] .test memberTest :=
    .inside (show shape nestedTest = .compound .or ["//users/0/"] [_] from rfl)
      List.mem_cons_self hlist
  have hpath : textField? memberTest "path" = some "//name" := rfl
  refine ⟨hwithin, hpath, fun doc => ?_⟩
  obtain ⟨-, hread, -⟩ :=
    (evaluate_reads_inside (ofJson nestedTest) doc).2 _ _ _ _ hwithin hpath
  exact hread

end Predicate

end Switchboard

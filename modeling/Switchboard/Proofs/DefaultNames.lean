/-
Default names are given once.

A counter only moves on, so it never gives a number twice, and a default name tells its kind and its
number. So no default name is given again, not even if several calls count at the same time and take
numbers in between each other's tries. The names that a call counts past are all different and all
taken, so that it counts past no more names than are taken.

* `numbered_text_inj`: a default name tells its kind and its number;
* `IsFirstFree`, `exists_isFirstFree`: the number that a call finds;
* `Counting`: calls that count at the same time, one number after another;
* `Spent`, `Sound.apply`: the counters are past all numbers that were given or passed;
* `run_answer`: without others the turns of a call come to what `nextFree` gives;
* `run_unrepeated`: **default names are free and are never given again**.
-/
import Switchboard.Proofs.Names

namespace Switchboard

theorem NameKind.text_inj {kind other : NameKind} (h : kind.text = other.text) : kind = other := by
  revert h
  cases kind <;> cases other <;> decide

/-- The first underscore of a default name is the one in front of the number. -/
theorem takeWhile_numbered (kind : NameKind) (n : Nat) :
    (numbered kind.text n).toList.takeWhile (· ≠ '_') = kind.text.toList := by
  have htext : ∀ c ∈ kind.text.toList, decide (c ≠ '_') = true :=
    List.all_eq_true.mp (by cases kind <;> rfl)
  have hname : (numbered kind.text n).toList = kind.text.toList ++ '_' :: n.repr.toList := by
    simp [numbered]
  rw [hname, List.takeWhile_append_of_pos htext, List.takeWhile_cons_of_neg (by decide),
    List.append_nil]

/-- A default name tells its kind and its number. -/
theorem numbered_text_inj {kind other : NameKind} {m n : Nat}
    (h : numbered kind.text m = numbered other.text n) : kind = other ∧ m = n := by
  have htext : kind.text.toList = other.text.toList := by
    rw [← takeWhile_numbered kind m, h, takeWhile_numbered other n]
  obtain rfl := NameKind.text_inj (String.toList_inj.mp htext)
  exact ⟨rfl, numbered_inj h⟩

namespace Names

/-! ### The number that is found -/

/-- The first number from the counter of a kind on whose name is not taken. -/
structure IsFirstFree (names : Names) (kind : NameKind) (taken : List String) (n : Nat) :
    Prop where
  counter_le : names.counter kind ≤ n
  not_mem : numbered kind.text n ∉ taken
  mem_of_lt : ∀ m, names.counter kind ≤ m → m < n → numbered kind.text m ∈ taken

section

variable {names later : Names} {kind : NameKind} {taken : List String}

theorem le_firstFree (kind : NameKind) (taken : List String) (tries start : Nat) :
    start ≤ firstFree kind taken tries start := by
  induction tries generalizing start with
  | zero => exact Nat.le_refl start
  | succ tries ih =>
    rw [firstFree]
    split
    · exact Nat.le_of_succ_le (ih (start + 1))
    · exact Nat.le_refl start

theorem mem_of_lt_firstFree {tries start m : Nat} (hstart : start ≤ m)
    (h : m < firstFree kind taken tries start) : numbered kind.text m ∈ taken := by
  induction tries generalizing start with
  | zero => exact absurd h (Nat.not_lt.mpr hstart)
  | succ tries ih =>
    rw [firstFree] at h
    split at h
    · next htaken =>
      rcases Nat.eq_or_lt_of_le hstart with rfl | hlater
      · exact htaken
      · exact ih hlater h
    · exact absurd h (Nat.not_lt.mpr hstart)

/-- There is such a number, and `nextFree` finds it. -/
theorem exists_isFirstFree (names : Names) (kind : NameKind) (taken : List String) :
    ∃ n, names.IsFirstFree kind taken n ∧
      names.nextFree kind taken = (numbered kind.text n, names.setCounter kind (n + 1)) :=
  ⟨_, ⟨le_firstFree .., names.nextFree_not_mem kind taken, fun _ => mem_of_lt_firstFree⟩, rfl⟩

theorem IsFirstFree.unique {m n : Nat} (hm : names.IsFirstFree kind taken m)
    (hn : names.IsFirstFree kind taken n) : m = n := by
  rcases Nat.lt_trichotomy m n with hlt | heq | hlt
  · exact absurd (hn.mem_of_lt m hm.counter_le hlt) hm.not_mem
  · exact heq
  · exact absurd (hm.mem_of_lt n hn.counter_le hlt) hn.not_mem

@[simp]
theorem counter_setCounter (names : Names) (kind other : NameKind) (n : Nat) :
    (names.setCounter kind n).counter other = if other = kind then n else names.counter other := rfl

@[simp]
theorem setCounter_setCounter (names : Names) (kind : NameKind) (m n : Nat) :
    (names.setCounter kind m).setCounter kind n = names.setCounter kind n := by
  simp only [setCounter]
  congr 1
  funext other
  split <;> rfl

/-- The counters only move on. -/
def MovesOn (names later : Names) : Prop := ∀ kind, names.counter kind ≤ later.counter kind

theorem movesOn_next (names : Names) (kind : NameKind) : names.MovesOn (names.next kind).2 := by
  intro other
  rw [next, counter_setCounter]
  split
  · next heq => exact heq ▸ Nat.le_succ _
  · exact Nat.le_refl _

/-! ### Names that were used -/

/-- Some names are different from each other and from all that the counters will give. -/
structure Spent (names : Names) (used : List String) : Prop where
  nodup : used.Nodup
  lt_counter : ∀ kind n, numbered kind.text n ∈ used → n < names.counter kind

theorem spent_nil (names : Names) : names.Spent [] :=
  ⟨List.nodup_nil, fun _ _ h => absurd h List.not_mem_nil⟩

theorem Spent.mono {used : List String} (h : names.Spent used) (hon : names.MovesOn later) :
    later.Spent used :=
  ⟨h.nodup, fun kind n hn => Nat.lt_of_lt_of_le (h.lt_counter kind n hn) (hon kind)⟩

/-- The next name is none of them, and it becomes one of them. -/
theorem Spent.next {used : List String} (h : names.Spent used) (kind : NameKind) :
    (names.next kind).2.Spent ((names.next kind).1 :: used) where
  nodup := List.nodup_cons.mpr
    ⟨fun hmem => Nat.lt_irrefl _ (h.lt_counter kind _ hmem), h.nodup⟩
  lt_counter other n hn := by
    rcases List.mem_cons.mp hn with hnew | hold
    · obtain ⟨rfl, rfl⟩ := numbered_text_inj hnew
      simp [Names.next]
    · exact (h.mono (names.movesOn_next kind)).lt_counter other n hold

end

/-! ### Calls -/

/-- A call for a default name. -/
inductive Call
  | next (kind : NameKind)
  | nextFree (kind : NameKind) (taken : List String)

namespace Call

def kind : Call → NameKind
  | next kind => kind
  | nextFree kind _ => kind

/-- The names that the call counts past. -/
def taken : Call → List String
  | next _ => []
  | nextFree _ taken => taken

end Call

/-- The answer to a call that nothing gets in between. -/
def answer (names : Names) : Call → String × Names
  | .next kind => names.next kind
  | .nextFree kind taken => names.nextFree kind taken

/-- The answers to calls one after another. -/
def answers : List Call → Names → List String
  | [], _ => []
  | call :: rest, names => (names.answer call).1 :: answers rest (names.answer call).2

theorem exists_answer (names : Names) (call : Call) :
    ∃ n, names.IsFirstFree call.kind call.taken n ∧
      names.answer call = (numbered call.kind.text n, names.setCounter call.kind (n + 1)) := by
  cases call with
  | next kind =>
    refine ⟨names.counter kind, ⟨Nat.le_refl _, List.not_mem_nil, fun m hle hlt => ?_⟩, rfl⟩
    exact absurd hlt (Nat.not_lt.mpr hle)
  | nextFree kind taken => exact names.exists_isFirstFree kind taken

/-- A call that has no name yet, and the names that it has counted past. -/
structure Waiting where
  call : Call
  passed : List String

/-- Calls that count at the same time. -/
structure Counting where
  names : Names
  waiting : List Waiting
  /-- The names that were given, and the calls they were given to. -/
  given : List (Call × String)

namespace Counting

/-- What can happen to the counters. -/
inductive Move
  | arrive (call : Call)
  /-- The call at a place takes the next number of its kind. -/
  | turn (place : Nat)

/-- No call has reached the counters. -/
def idle (names : Names) : Counting := ⟨names, [], []⟩

/-- The call at a place takes the next number of its kind. It waits on if the name is taken. -/
def turn (c : Counting) (place : Nat) : Counting :=
  match c.waiting[place]? with
  | none => c
  | some w =>
    let (name, names) := c.names.next w.call.kind
    if name ∈ w.call.taken then
      { c with names, waiting := c.waiting.set place { w with passed := name :: w.passed } }
    else ⟨names, c.waiting.eraseIdx place, (w.call, name) :: c.given⟩

def apply (c : Counting) : Move → Counting
  | .arrive call => { c with waiting := ⟨call, []⟩ :: c.waiting }
  | .turn place => c.turn place

def run (moves : List Move) (c : Counting) : Counting := moves.foldl apply c

/-- The counters as words of 64 bits hold them. -/
def inWords (c : Counting) : Counting :=
  { c with names := ⟨fun kind => (UInt64.ofNat (c.names.counter kind)).toNat⟩ }

/-- A run with counters of 64 bits, which go from the highest number to zero. -/
def runInWords (moves : List Move) (c : Counting) : Counting :=
  moves.foldl (fun c move => (c.apply move).inWords) c

variable {start : Names} {c : Counting}

/-! ### One move -/

/-- The name is one that a call may get: it is of its kind, it is not taken, and its number is not
below the counter at the start. -/
def Suits (start : Names) (call : Call) (name : String) : Prop :=
  ∃ n, start.counter call.kind ≤ n ∧ name = numbered call.kind.text n ∧ name ∉ call.taken

/-- No name was given twice, and no call has counted past a name twice. -/
structure Sound (start : Names) (c : Counting) : Prop where
  movesOn : start.MovesOn c.names
  given : c.names.Spent (c.given.map Prod.snd)
  suits : ∀ call name, (call, name) ∈ c.given → Suits start call name
  passed : ∀ w ∈ c.waiting, c.names.Spent w.passed ∧ w.passed ⊆ w.call.taken

theorem sound_idle (start : Names) : Sound start (idle start) where
  movesOn _ := Nat.le_refl _
  given := spent_nil start
  suits _ _ h := absurd h List.not_mem_nil
  passed _ h := absurd h List.not_mem_nil

theorem Sound.arrive (h : Sound start c) (call : Call) : Sound start (c.apply (.arrive call)) where
  movesOn := h.movesOn
  given := h.given
  suits := h.suits
  passed w hw := by
    rcases List.mem_cons.mp hw with rfl | hold
    · exact ⟨spent_nil _, List.nil_subset _⟩
    · exact h.passed w hold

/-- All that a turn can do. -/
theorem turn_cases (c : Counting) (place : Nat) :
    c.turn place = c ∨ ∃ w ∈ c.waiting,
      ((c.names.next w.call.kind).1 ∈ w.call.taken ∧
        c.turn place = ⟨(c.names.next w.call.kind).2,
          c.waiting.set place { w with passed := (c.names.next w.call.kind).1 :: w.passed },
          c.given⟩) ∨
      ((c.names.next w.call.kind).1 ∉ w.call.taken ∧
        c.turn place = ⟨(c.names.next w.call.kind).2, c.waiting.eraseIdx place,
          (w.call, (c.names.next w.call.kind).1) :: c.given⟩) := by
  cases hw : c.waiting[place]? with
  | none => exact .inl (by rw [turn, hw])
  | some w =>
    refine .inr ⟨w, List.mem_of_getElem? hw, ?_⟩
    rw [turn, hw]
    by_cases hmem : (c.names.next w.call.kind).1 ∈ w.call.taken
    · exact .inl ⟨hmem, if_pos hmem⟩
    · exact .inr ⟨hmem, if_neg hmem⟩

theorem movesOn_turn (c : Counting) (place : Nat) : c.names.MovesOn (c.turn place).names := by
  rcases c.turn_cases place with hturn | ⟨w, -, ⟨-, hturn⟩ | ⟨-, hturn⟩⟩
  · rw [hturn]
    exact fun _ => Nat.le_refl _
  · exact hturn ▸ c.names.movesOn_next w.call.kind
  · exact hturn ▸ c.names.movesOn_next w.call.kind

theorem Sound.turn (h : Sound start c) (place : Nat) : Sound start (c.turn place) := by
  rcases c.turn_cases place with hturn | ⟨w, hw, ⟨hmem, hturn⟩ | ⟨hfree, hturn⟩⟩
  · rw [hturn]
    exact h
  · -- the call goes on, and the name is one more that it has counted past
    have hon := c.names.movesOn_next w.call.kind
    rw [hturn]
    refine ⟨fun kind => Nat.le_trans (h.movesOn kind) (hon kind), h.given.mono hon, h.suits,
      fun other hother => ?_⟩
    rcases List.mem_or_eq_of_mem_set hother with hold | rfl
    · exact ⟨(h.passed other hold).1.mono hon, (h.passed other hold).2⟩
    · exact ⟨(h.passed w hw).1.next w.call.kind, List.cons_subset.mpr ⟨hmem, (h.passed w hw).2⟩⟩
  · -- the call gets the name
    have hon := c.names.movesOn_next w.call.kind
    rw [hturn]
    refine ⟨fun kind => Nat.le_trans (h.movesOn kind) (hon kind), h.given.next w.call.kind,
      fun call name hname => ?_, fun other hother => ?_⟩
    · rcases List.mem_cons.mp hname with hnew | hold
      · obtain ⟨rfl, rfl⟩ := Prod.ext_iff.mp hnew
        exact ⟨_, h.movesOn _, rfl, hfree⟩
      · exact h.suits call name hold
    · have hold := h.passed other (List.mem_of_mem_eraseIdx hother)
      exact ⟨hold.1.mono hon, hold.2⟩

/-- Every move keeps what was given and passed apart. -/
theorem Sound.apply (h : Sound start c) (move : Move) : Sound start (c.apply move) := by
  cases move with
  | arrive call => exact h.arrive call
  | turn place => exact h.turn place

theorem movesOn_apply (c : Counting) (move : Move) : c.names.MovesOn (c.apply move).names := by
  cases move with
  | arrive call => exact fun _ => Nat.le_refl _
  | turn place => exact c.movesOn_turn place

/-! ### Runs -/

theorem Sound.run (h : Sound start c) (moves : List Move) : Sound start (run moves c) := by
  induction moves generalizing c with
  | nil => exact h
  | cons move rest ih => exact ih (h.apply move)

theorem movesOn_run (moves : List Move) (c : Counting) : c.names.MovesOn (run moves c).names := by
  induction moves generalizing c with
  | nil => exact fun _ => Nat.le_refl _
  | cons move rest ih =>
    exact fun kind => Nat.le_trans (c.movesOn_apply move kind) (ih (c.apply move) kind)

/-- No call counts past more names than are taken. -/
theorem Sound.length_passed_le (h : Sound start c) {w : Waiting} (hw : w ∈ c.waiting) :
    w.passed.length ≤ w.call.taken.length :=
  (h.passed w hw).1.nodup.length_le_of_subset (h.passed w hw).2

theorem inWords_eq (h : ∀ kind, c.names.counter kind < UInt64.size) : c.inWords = c := by
  have hnames : (fun kind => (UInt64.ofNat (c.names.counter kind)).toNat) = c.names.counter :=
    funext fun kind => UInt64.toNat_ofNat_of_lt (h kind)
  rw [inWords, hnames]

/-- Counters that stay below their limit are as good as counters without one. -/
theorem runInWords_eq_run {moves : List Move}
    (h : ∀ kind, (run moves c).names.counter kind < UInt64.size) :
    runInWords moves c = run moves c := by
  induction moves generalizing c with
  | nil => rfl
  | cons move rest ih =>
    have hnow : (c.apply move).inWords = c.apply move :=
      inWords_eq fun kind => Nat.lt_of_le_of_lt (movesOn_run rest (c.apply move) kind) (h kind)
    rw [runInWords, List.foldl_cons, hnow]
    exact ih h

/-! ### Calls without others -/

section

variable {names : Names} {call : Call} (passed : List String) (given : List (Call × String))

theorem turn_of_mem (h : (names.next call.kind).1 ∈ call.taken) :
    turn ⟨names, [⟨call, passed⟩], given⟩ 0 =
      ⟨(names.next call.kind).2, [⟨call, (names.next call.kind).1 :: passed⟩], given⟩ :=
  if_pos h

theorem turn_of_not_mem (h : (names.next call.kind).1 ∉ call.taken) :
    turn ⟨names, [⟨call, passed⟩], given⟩ 0 =
      ⟨(names.next call.kind).2, [], (call, (names.next call.kind).1) :: given⟩ :=
  if_neg h

/-- A call gets its name in one turn more than its number is away from the counter. -/
theorem run_turns {d : Nat}
    (h : names.IsFirstFree call.kind call.taken (names.counter call.kind + d)) :
    run (List.replicate (d + 1) (.turn 0)) ⟨names, [⟨call, passed⟩], given⟩ =
      ⟨names.setCounter call.kind (names.counter call.kind + d + 1), [],
        (call, numbered call.kind.text (names.counter call.kind + d)) :: given⟩ := by
  induction d generalizing names passed with
  | zero => exact turn_of_not_mem passed given h.not_mem
  | succ d ih =>
    have htaken := h.mem_of_lt _ (Nat.le_refl _) (Nat.lt_add_of_pos_right (Nat.succ_pos d))
    have hcounter : (names.next call.kind).2.counter call.kind = names.counter call.kind + 1 :=
      if_pos rfl
    have hshift : names.counter call.kind + (d + 1) = names.counter call.kind + 1 + d := by omega
    have hlater : (names.next call.kind).2.IsFirstFree call.kind call.taken
        ((names.next call.kind).2.counter call.kind + d) := by
      rw [hcounter, ← hshift]
      exact ⟨by omega, h.not_mem, fun m hle => h.mem_of_lt m (by omega)⟩
    calc run (List.replicate (d + 1 + 1) (.turn 0)) ⟨names, [⟨call, passed⟩], given⟩
        = run (List.replicate (d + 1) (.turn 0))
            (turn ⟨names, [⟨call, passed⟩], given⟩ 0) := rfl
      _ = run (List.replicate (d + 1) (.turn 0)) ⟨(names.next call.kind).2,
            [⟨call, (names.next call.kind).1 :: passed⟩], given⟩ := by
          rw [turn_of_mem passed given htaken]
      _ = _ := by
          rw [ih _ hlater, hcounter, hshift, Names.next, setCounter_setCounter]

/-- Without others the turns of a call come to its answer. -/
theorem run_answer {n : Nat} (h : names.IsFirstFree call.kind call.taken n) :
    run (.arrive call :: List.replicate (n - names.counter call.kind + 1) (.turn 0))
        ⟨names, [], given⟩ =
      ⟨(names.answer call).2, [], (call, (names.answer call).1) :: given⟩ := by
  obtain ⟨m, hm, hanswer⟩ := names.exists_answer call
  obtain rfl := h.unique hm
  have hn : names.counter call.kind + (n - names.counter call.kind) = n :=
    Nat.add_sub_cancel' h.counter_le
  have hturns := run_turns [] given (hn.symm ▸ h)
  rw [hn] at hturns
  rw [hanswer]
  exact hturns

end

/-- Calls one after another are one way to interleave them. -/
theorem exists_run_answers (calls : List Call) (names : Names) (given : List (Call × String)) :
    ∃ moves, (run moves ⟨names, [], given⟩).given.map Prod.snd =
      (names.answers calls).reverse ++ given.map Prod.snd := by
  induction calls generalizing names given with
  | nil => exact ⟨[], rfl⟩
  | cons call rest ih =>
    obtain ⟨n, hn, -⟩ := names.exists_answer call
    obtain ⟨moves, hmoves⟩ := ih (names.answer call).2 ((call, (names.answer call).1) :: given)
    refine ⟨(.arrive call :: List.replicate (n - names.counter call.kind + 1) (.turn 0)) ++ moves,
      ?_⟩
    rw [run, List.foldl_append, ← run, ← run, run_answer given hn, hmoves, answers]
    simp

end Counting

open Counting in
/-- **Default names are free and are never given again.** Whatever the counters are, `nextFree`
finds the first number whose name is not taken and moves the counter of its kind, and no other, just
past it; this is what counting on until a name is free comes to. No name is given twice to calls one
after another, nor to calls that count at the same time, however they get in between each other.
Even then each gets a name that suits it, and none counts past more names than are taken for it.
Counters of 64 bits do the same as long as they stay below their limit. -/
theorem run_unrepeated (names : Names) :
    (∀ kind taken, ∃ n, names.IsFirstFree kind taken n ∧
      (names.nextFree kind taken).1 = numbered kind.text n ∧
      (∀ other, (names.nextFree kind taken).2.counter other =
        if other = kind then n + 1 else names.counter other) ∧
      run (.arrive (.nextFree kind taken) ::
          List.replicate (n - names.counter kind + 1) (.turn 0)) (idle names) =
        ⟨(names.nextFree kind taken).2, [],
          [(.nextFree kind taken, (names.nextFree kind taken).1)]⟩) ∧
    (∀ calls, (names.answers calls).Nodup) ∧
    ∀ moves, ((run moves (idle names)).given.map Prod.snd).Nodup ∧
      (∀ call name, (call, name) ∈ (run moves (idle names)).given → Suits names call name) ∧
      (∀ w ∈ (run moves (idle names)).waiting, w.passed.length ≤ w.call.taken.length) ∧
      ((∀ kind, (run moves (idle names)).names.counter kind < UInt64.size) →
        runInWords moves (idle names) = run moves (idle names)) := by
  refine ⟨fun kind taken => ?_, fun calls => ?_, fun moves => ?_⟩
  · obtain ⟨n, hn, hnext⟩ := names.exists_isFirstFree kind taken
    refine ⟨n, hn, congrArg Prod.fst hnext, fun other => ?_, run_answer [] hn⟩
    rw [hnext]
    rfl
  · obtain ⟨moves, hmoves⟩ := exists_run_answers calls names []
    have hnodup := ((sound_idle names).run moves).given.nodup
    rw [idle, hmoves, List.map_nil, List.append_nil] at hnodup
    exact List.nodup_reverse.mp hnodup
  · have hsound := (sound_idle names).run moves
    exact ⟨hsound.given.nodup, hsound.suits, fun w => hsound.length_passed_le, runInWords_eq_run⟩

open Counting in
/-- Near the limit of the counters a call finds the first two names taken. In between its tries
another call gets a name that the first one would not take. -/
theorem run_unrepeated_overtaken :
    let late : Names := ⟨fun _ => UInt64.size - 4⟩
    let taken := ["Rule_18446744073709551612", "Rule_18446744073709551613"]
    let moves : List Move :=
      [.arrive (.next .rule), .arrive (.nextFree .rule taken), .turn 0, .turn 1, .turn 0]
    (runInWords moves (idle late)).given.map Prod.snd =
        ["Rule_18446744073709551614", "Rule_18446744073709551613"] ∧
      ((runInWords moves (idle late)).given.map Prod.snd).Nodup := by
  intro late taken moves
  obtain ⟨-, -, hmoves⟩ := run_unrepeated late
  obtain ⟨hnodup, -, -, hwords⟩ := hmoves moves
  have hbelow : ∀ kind, (run moves (idle late)).names.counter kind < UInt64.size := by
    intro kind
    cases kind <;> decide +kernel
  rw [hwords hbelow]
  exact ⟨by decide +kernel, hnodup⟩

end Names

end Switchboard

/-
Socket addresses that are written and read again.

Every address that can be read has parts of bounded size, and every address with such parts is read
back from its canonical text. The text of an IPv6 address may leave out zero groups and may end in a
dotted quad, so what stands between the brackets is read in one of three ways.

* `readNumber_toDigits`: a number is read back from its digits;
* `readOctets_joined`, `readGroups_joined`: so are numbers with separators between them;
* `zeroRun_spec`: the groups that are left out are zeros;
* `SocketAddress.parse?_render`, `SocketAddress.fits_of_parse?`: addresses are read back, and all
  that are read are of this kind.
-/
import Mathlib.Algebra.Group.Nat.Defs
import Switchboard.Net.Address

namespace Switchboard

namespace Address

/-! ### Numbers -/

theorem digit?_digitChar {radix d : Nat} (hd : d < radix) (hradix : radix ≤ 16) :
    digit? radix d.digitChar = some d := by
  have hvalue : ∀ d < 16, digit? 16 d.digitChar = some d := by decide
  have h := hvalue d (by omega)
  unfold digit? at h ⊢
  obtain ⟨hvalue, -⟩ := Option.filter_eq_some_iff.mp h
  exact Option.filter_eq_some_iff.mpr ⟨hvalue, by simpa using hd⟩

/-- No digit stands at the front. -/
def Stops (radix : Nat) (cs : List Char) : Prop := ∀ c ∈ cs.head?, digit? radix c = none

section Digits

variable {radix : Nat} (hone : 1 < radix) (hradix : radix ≤ 16)
include hone hradix

theorem isSome_digit?_of_mem_toDigits (n : Nat) :
    ∀ c ∈ Nat.toDigits radix n, (digit? radix c).isSome = true := by
  -- on the number, since all digits but the last are those of `n / radix`
  induction n using Nat.strongRecOn with
  | ind n ih =>
    have hlast : ∀ d < radix, (digit? radix d.digitChar).isSome = true := fun d hd => by
      rw [digit?_digitChar hd hradix]
      rfl
    rw [Nat.toDigits_eq_if hone]
    intro c hc
    split at hc
    · next hn =>
      rw [List.mem_singleton.mp hc]
      exact hlast n hn
    · next hn =>
      rcases List.mem_append.mp hc with hc | hc
      · exact ih (n / radix) (Nat.div_lt_self (by omega) hone) c hc
      · rw [List.mem_singleton.mp hc]
        exact hlast _ (Nat.mod_lt n (by omega))

theorem foldl_toDigits (n : Nat) :
    (Nat.toDigits radix n).foldl (fun n c => n * radix + (digit? radix c).getD 0) 0 = n := by
  induction n using Nat.strongRecOn with
  | ind n ih =>
    rw [Nat.toDigits_eq_if hone]
    split
    · next hn => simp [digit?_digitChar hn hradix]
    · next hn =>
      rw [List.foldl_append, ih (n / radix) (Nat.div_lt_self (by omega) hone), List.foldl_cons,
        List.foldl_nil, digit?_digitChar (Nat.mod_lt n (by omega)) hradix, Option.getD_some]
      exact Nat.div_add_mod' n radix

theorem head?_toDigits_ne_zero {n : Nat} (h : 0 < n) :
    (Nat.toDigits radix n).head? ≠ some '0' := by
  induction n using Nat.strongRecOn with
  | ind n ih =>
    rw [Nat.toDigits_eq_if hone]
    split
    · next hn =>
      intro hzero
      have hd := digit?_digitChar hn hradix
      rw [Option.some.inj hzero] at hd
      have : digit? radix '0' = some 0 := digit?_digitChar (d := 0) (by omega) hradix
      rw [this, Option.some.injEq] at hd
      omega
    · next hn =>
      have hpos : 0 < n / radix := Nat.div_pos (by omega) (by omega)
      have hfirst := ih (n / radix) (Nat.div_lt_self (by omega) hone) hpos
      cases htext : Nat.toDigits radix (n / radix) with
      | nil => exact absurd htext Nat.toDigits_ne_nil
      | cons c cs =>
        rw [htext] at hfirst
        exact hfirst

/-- A number is read back from its digits. -/
theorem readNumber_toDigits {n limit : Nat} {width : Option Nat} {leadingZero : Bool}
    {rest : List Char} (hlimit : n ≤ limit) (hwidth : ∀ w ∈ width, 0 < w ∧ n < radix ^ w)
    (hrest : Stops radix rest) :
    readNumber radix limit width leadingZero (Nat.toDigits radix n ++ rest) = some (n, rest) := by
  have hdigits : (Nat.toDigits radix n ++ rest).takeWhile (fun c => (digit? radix c).isSome)
      = Nat.toDigits radix n := by
    rw [List.takeWhile_append_of_pos (isSome_digit?_of_mem_toDigits hone hradix n)]
    cases rest with
    | nil => simp
    | cons c rest => simp [hrest c rfl]
  have hempty : (Nat.toDigits radix n).isEmpty = false :=
    List.isEmpty_eq_false_iff.mpr Nat.toDigits_ne_nil
  have hlong : width.any (· < (Nat.toDigits radix n).length) = false := by
    cases width with
    | none => rfl
    | some w =>
      obtain ⟨hpos, hn⟩ := hwidth w rfl
      have := (Nat.length_toDigits_le_iff hone hpos).mpr hn
      simpa using this
  -- no digits begin with a zero but those of zero itself
  have hzero : ((Nat.toDigits radix n).length > 1 && (Nat.toDigits radix n).head? == some '0')
      = false := by
    by_cases hn : n = 0
    · simp [hn]
    · simp [head?_toDigits_ne_zero hone hradix (Nat.pos_of_ne_zero hn)]
  unfold readNumber
  simp only [hdigits, hempty, hlong, Bool.and_assoc, foldl_toDigits hone hradix,
    Nat.not_lt.mpr hlimit, Bool.false_eq_true, if_false, List.drop_left]
  simp only [hzero, Bool.and_false, Bool.false_eq_true, if_false]

end Digits

/-- A number that is read is in range, and what is left are the characters from the first on that
is no digit. -/
theorem readNumber_eq_some {radix limit n : Nat} {width : Option Nat} {leadingZero : Bool}
    {cs rest : List Char} (h : readNumber radix limit width leadingZero cs = some (n, rest)) :
    n ≤ limit ∧ rest = cs.dropWhile fun c => (digit? radix c).isSome := by
  unfold readNumber at h
  simp only [Option.ite_none_left_eq_some] at h
  obtain ⟨-, -, -, hlimit, h⟩ := h
  cases h
  refine ⟨Nat.not_lt.mp hlimit, ?_⟩
  generalize (fun c => (digit? radix c).isSome) = p
  calc cs.drop (cs.takeWhile p).length
      = (cs.takeWhile p ++ cs.dropWhile p).drop (cs.takeWhile p).length := by
        rw [List.takeWhile_append_dropWhile]
    _ = cs.dropWhile p := List.drop_left

/-! ### Numbers with separators -/

/-- The numbers in a radix, with a separator in front of each. -/
def tailed (sep : Char) (radix : Nat) (ns : List Nat) : List Char :=
  ns.flatMap fun n => sep :: Nat.toDigits radix n

/-- The numbers in a radix, with separators between them. -/
def joined (sep : Char) (radix : Nat) : List Nat → List Char
  | [] => []
  | n :: ns => Nat.toDigits radix n ++ tailed sep radix ns

theorem toList_intercalate (sep : Char) (radix : Nat) (ns : List Nat) (text : Nat → String)
    (htext : ∀ n, (text n).toList = Nat.toDigits radix n) :
    ((String.singleton sep).intercalate (ns.map text)).toList = joined sep radix ns := by
  rw [String.toList_intercalate]
  cases ns with
  | nil => rfl
  | cons n ns =>
    induction ns generalizing n with
    | nil => simp [joined, tailed, htext]
    | cons m ns ih =>
      have hrest := ih m
      simp only [List.map_cons, List.intercalate_cons_cons] at hrest ⊢
      rw [hrest, htext]
      simp [joined, tailed]

theorem toList_renderOctets (octets : List Nat) :
    (renderOctets octets).toList = joined '.' 10 octets :=
  toList_intercalate '.' 10 octets toString fun n => by simp

theorem toList_renderGroups (groups : List Nat) :
    (renderGroups groups).toList = joined ':' 16 groups :=
  toList_intercalate ':' 16 groups hex fun n => by simp [hex]

theorem stops_tailed {sep : Char} {radix : Nat} {ns : List Nat} {rest : List Char}
    (hsep : digit? radix sep = none) (hrest : Stops radix rest) :
    Stops radix (tailed sep radix ns ++ rest) := by
  cases ns with
  | nil => exact hrest
  | cons n ns =>
    intro c hc
    cases hc
    exact hsep

section Octets

variable {octets : List Nat} {rest : List Char} (hrest : Stops 10 rest)
include hrest

theorem readOctets_tailed (hoctets : ∀ o ∈ octets, o ≤ 255) :
    readOctets octets.length false (tailed '.' 10 octets ++ rest) = some (octets, rest) := by
  induction octets with
  | nil => rfl
  | cons o octets ih =>
    have hnumber : readNumber 10 255 (some 3) false
        (Nat.toDigits 10 o ++ (tailed '.' 10 octets ++ rest))
          = some (o, tailed '.' 10 octets ++ rest) := by
      have ho := hoctets o List.mem_cons_self
      refine readNumber_toDigits (by decide) (by decide) ho ?_ (stops_tailed (by decide) hrest)
      intro w hw
      cases hw
      omega
    have hlater := ih fun o ho => hoctets o (List.mem_cons_of_mem _ ho)
    simp only [tailed, List.flatMap_cons, List.cons_append, List.append_assoc, List.length_cons,
      readOctets, readChar, if_true, Bool.false_eq_true, if_false, Option.bind_eq_bind,
      Option.bind_some] at hnumber hlater ⊢
    rw [hnumber, Option.bind_some, hlater]
    rfl

/-- A dotted quad is read back, and so are fewer numbers. -/
theorem readOctets_joined (hne : octets ≠ []) (hoctets : ∀ o ∈ octets, o ≤ 255) :
    readOctets octets.length true (joined '.' 10 octets ++ rest) = some (octets, rest) := by
  cases octets with
  | nil => exact absurd rfl hne
  | cons o octets =>
    have htailed := readOctets_tailed hrest hoctets
    simpa only [readOctets, tailed, joined, List.flatMap_cons, List.cons_append,
      List.append_assoc, List.length_cons, readChar, if_true, Bool.false_eq_true, if_false,
      Option.bind_eq_bind, Option.bind_some] using htailed

end Octets

/-- There is no dotted quad without a point after the first number. -/
theorem readOctets_eq_none {cs : List Char} (n : Nat)
    (h : (cs.dropWhile fun c => (digit? 10 c).isSome).head? ≠ some '.') :
    readOctets (n + 2) true cs = none := by
  rw [readOctets]
  simp only [if_true, Option.bind_eq_bind, Option.bind_some]
  cases hnumber : readNumber 10 255 (some 3) false cs with
  | none => rfl
  | some read =>
    obtain ⟨-, hrest⟩ := readNumber_eq_some hnumber
    rw [← hrest] at h
    have hpoint : readChar '.' read.2 = none := by
      cases htext : read.2 with
      | nil => rfl
      | cons c cs =>
        rw [htext] at h
        have hc : '.' ≠ c := fun hc => h (by rw [hc]; rfl)
        rw [readChar, if_neg hc]
    simp only [Option.bind_some, readOctets, Bool.false_eq_true, if_false, hpoint,
      Option.bind_eq_bind, Option.bind_none]

/-! ### Groups -/

section Groups

variable {n : Nat} {first : Bool} {cs rest : List Char}

theorem digit?_ten_eq_none {c : Char} (h : digit? 16 c = none) : digit? 10 c = none := by
  unfold digit? at h ⊢
  rw [Option.filter_eq_none_iff] at h ⊢
  intro v hv
  have := h v hv
  simp only [decide_eq_true_eq] at this ⊢
  omega

/-- After the decimal digits at the front of a group there is no point. -/
theorem head?_dropWhile_toDigits (g : Nat) (hstops : Stops 16 rest)
    (hpoint : rest.head? ≠ some '.') :
    ((Nat.toDigits 16 g ++ rest).dropWhile fun c => (digit? 10 c).isSome).head? ≠ some '.' := by
  have hdigits : '.' ∉ Nat.toDigits 16 g := fun h => by
    have hpoint : (digit? 16 '.').isSome = true :=
      isSome_digit?_of_mem_toDigits (by decide) (by decide) g _ h
    exact absurd hpoint (by decide)
  rw [List.dropWhile_append]
  split
  · -- the group has no letter, so that the digits end where the group does
    cases rest with
    | nil => simp
    | cons c rest =>
      have hc : digit? 10 c = none := digit?_ten_eq_none (hstops c rfl)
      rw [List.dropWhile_cons_of_neg (by simp [hc])]
      exact hpoint
  · next hletter =>
    intro h
    cases hleft : (Nat.toDigits 16 g).dropWhile fun c => (digit? 10 c).isSome with
    | nil => simp [hleft] at hletter
    | cons c cs =>
      rw [hleft, List.cons_append, List.head?_cons, Option.some.injEq] at h
      have hmem : c ∈ Nat.toDigits 16 g :=
        (List.dropWhile_sublist _).mem (hleft ▸ List.mem_cons_self)
      exact hdigits (h ▸ hmem)

/-- A group is read as such where no dotted quad begins. -/
theorem readGroups_group {g : Nat}
    (hcs : (if first then some cs else readChar ':' cs) = some (Nat.toDigits 16 g ++ rest))
    (hg : g ≤ 65535) (hstops : Stops 16 rest) (hpoint : rest.head? ≠ some '.') :
    readGroups (n + 1) first cs =
      (g :: (readGroups n false rest).1, (readGroups n false rest).2) := by
  -- a dotted quad is tried first, and then a group
  have hquad : readOctets 4 true (Nat.toDigits 16 g ++ rest) = none :=
    readOctets_eq_none 2 (head?_dropWhile_toDigits g hstops hpoint)
  have hnumber : readNumber 16 65535 (some 4) true (Nat.toDigits 16 g ++ rest)
      = some (g, rest) := by
    refine readNumber_toDigits (by decide) (by decide) hg ?_ hstops
    intro w hw
    cases hw
    omega
  rw [readGroups, hcs]
  simp only [hquad, ite_self, hnumber]

theorem readGroups_quad {a b c d : Nat}
    (hcs : (if first then some cs else readChar ':' cs) = some (joined '.' 10 [a, b, c, d] ++ rest))
    (hquad : ∀ o ∈ [a, b, c, d], o ≤ 255) (hstops : Stops 10 rest) :
    readGroups (n + 2) first cs = ([a * 256 + b, c * 256 + d], true, rest) := by
  have hread := readOctets_joined hstops (by simp) hquad
  rw [readGroups, hcs]
  simp only [List.length_cons, List.length_nil] at hread
  simp [hread]

end Groups

/-- A text that ends the groups: a closing bracket, the sign of a scope or a double colon. -/
def Closes (rest : List Char) : Prop :=
  rest.head? = some ']' ∨ rest.head? = some '%' ∨ ∃ t, rest = ':' :: ':' :: t

namespace Closes

variable {rest : List Char} (h : Closes rest)
include h

theorem head?_ne : rest.head? ≠ some '.' := by
  rcases h with h | h | ⟨t, rfl⟩ <;> simp_all

theorem stops : Stops 16 rest := by
  intro c hc
  rcases h with h | h | ⟨t, rfl⟩
  · cases h.symm.trans hc
    decide
  · cases h.symm.trans hc
    decide
  · cases hc
    decide

theorem stops_ten : Stops 10 rest := fun c hc => digit?_ten_eq_none (h.stops c hc)

/-- No group is read from there. -/
theorem readGroups_eq (n : Nat) (first : Bool) : readGroups n first rest = ([], false, rest) := by
  have hnone {body : List Char} {c : Char} (hbody : body.head? = some c)
      (hc : digit? 10 c = none ∧ digit? 16 c = none ∧ '.' ≠ c) :
      readOctets 4 true body = none ∧ readNumber 16 65535 (some 4) true body = none := by
    obtain ⟨h10, h16, hpoint⟩ := hc
    cases body with
    | nil => cases hbody
    | cons d body =>
      cases hbody
      refine ⟨readOctets_eq_none 2 ?_, by simp [readNumber, h16]⟩
      rw [List.dropWhile_cons_of_neg (by simp [h10])]
      exact fun h => hpoint (Option.some.inj h).symm
  cases n with
  | zero => rfl
  | succ n =>
    cases hbody : if first then some rest else readChar ':' rest with
    | none => rw [readGroups, hbody]
    | some body =>
      have hfirst : body.head? = some ']' ∨ body.head? = some '%' ∨ body.head? = some ':' := by
        cases first with
        | true =>
          cases hbody
          rcases h with h | h | ⟨t, rfl⟩
          · exact .inl h
          · exact .inr (.inl h)
          · exact .inr (.inr rfl)
        | false =>
          -- only a double colon lets a separator be read, and its second colon is no group
          cases rest with
          | nil => cases hbody
          | cons c rest =>
            rcases h with h | h | ⟨t, ht⟩
            · cases h
              cases hbody
            · cases h
              cases hbody
            · cases ht
              cases hbody
              exact .inr (.inr rfl)
      have hread : readOctets 4 true body = none ∧
          readNumber 16 65535 (some 4) true body = none := by
        rcases hfirst with hc | hc | hc <;> exact hnone hc (by decide)
      rw [readGroups, hbody]
      simp only [hread.1, hread.2, ite_self]

end Closes

/-- Groups with colons between them are read back. -/
theorem readGroups_tailed {groups : List Nat} {n : Nat} {rest : List Char}
    (hn : groups.length ≤ n) (hgroups : ∀ g ∈ groups, g ≤ 65535) (hrest : Closes rest) :
    readGroups n false (tailed ':' 16 groups ++ rest) = (groups, false, rest) := by
  induction groups generalizing n with
  | nil => exact hrest.readGroups_eq n false
  | cons g groups ih =>
    cases n with
    | zero => cases hn
    | succ n =>
      -- a group is followed by the colon of the next one, or by what closes the groups
      have hpoint : (tailed ':' 16 groups ++ rest).head? ≠ some '.' := by
        cases groups with
        | nil => exact hrest.head?_ne
        | cons g groups => simp [tailed]
      have hlater := ih (Nat.le_of_succ_le_succ hn) fun g hg =>
        hgroups g (List.mem_cons_of_mem _ hg)
      rw [tailed, List.flatMap_cons, ← tailed, List.append_assoc, List.cons_append,
        readGroups_group rfl (hgroups g List.mem_cons_self)
          (stops_tailed (by decide) hrest.stops) hpoint, hlater]

/-- Where groups are read behind a colon, the same are read without it. -/
theorem readGroups_of_colon {n : Nat} {body rest : List Char} {groups : List Nat} {quad : Bool}
    (h : readGroups n false (':' :: body) = (groups, quad, rest)) (hne : groups ≠ []) :
    readGroups n true body = (groups, quad, rest) := by
  cases n with
  | zero =>
    cases h
    exact absurd rfl hne
  | succ n =>
    rw [readGroups] at h ⊢
    simp only [readChar, if_true, Bool.false_eq_true, if_false] at h ⊢
    split at h
    · exact h
    · split at h
      · cases h
        exact absurd rfl hne
      · exact h

theorem readGroups_joined {groups : List Nat} {n : Nat} {rest : List Char}
    (hn : groups.length ≤ n) (hgroups : ∀ g ∈ groups, g ≤ 65535) (hrest : Closes rest) :
    readGroups n true (joined ':' 16 groups ++ rest) = (groups, false, rest) := by
  cases groups with
  | nil => exact hrest.readGroups_eq n true
  | cons g groups =>
    have htailed := readGroups_tailed hn hgroups hrest
    simp only [tailed, List.flatMap_cons, List.cons_append, List.append_assoc] at htailed
    have hjoined := readGroups_of_colon htailed (by simp)
    simpa [joined, tailed] using hjoined

/-! ### Addresses in brackets -/

/-- What a run leaves out are zeros, and it is found where it stands. -/
theorem zeroRun_spec (groups : List Nat) (position : Nat) :
    (zeroRun groups position).2 = 0 ∨ ∃ before after,
      groups = before ++ List.replicate (zeroRun groups position).2 0 ++ after ∧
      (zeroRun groups position).1 = position + before.length := by
  induction groups generalizing position with
  | nil => exact .inl rfl
  | cons g rest ih =>
    rw [zeroRun]
    split
    · refine .inr ⟨[], (g :: rest).dropWhile (· = 0), ?_, rfl⟩
      have hzeros : ∀ z ∈ (g :: rest).takeWhile (· = 0), z = 0 := fun z hz => by
        simpa using List.all_eq_true.mp List.all_takeWhile z hz
      rw [List.nil_append, ← List.eq_replicate_of_mem hzeros, List.takeWhile_append_dropWhile]
    · rcases ih (position + 1) with hnone | ⟨before, after, hrest, hstart⟩
      · exact .inl hnone
      · refine .inr ⟨g :: before, after, ?_, ?_⟩
        · rw [List.cons_append, List.cons_append, ← hrest]
        · rw [hstart, List.length_cons]
          omega

/-- Zero groups that are left out are read as such. -/
theorem readV6_run {before after : List Nat} {n : Nat} {rest : List Char}
    (hlength : before.length + n + after.length = 8) (hn : 1 < n)
    (hbefore : ∀ g ∈ before, g ≤ 65535) (hafter : ∀ g ∈ after, g ≤ 65535) (hrest : Closes rest) :
    readV6 (joined ':' 16 before ++ ':' :: ':' :: (joined ':' 16 after ++ rest)) =
      some (before ++ List.replicate n 0 ++ after, rest) := by
  have hopen : Closes (':' :: ':' :: (joined ':' 16 after ++ rest)) := .inr (.inr ⟨_, rfl⟩)
  -- the groups behind the colons have room for all that is left but one, and `n` are left out
  have hfirst := readGroups_joined (n := 8) (by omega) hbefore hopen
  have hlast := readGroups_joined (n := 7 - before.length) (by omega) hafter hrest
  have hshort : before.length ≠ 8 := by omega
  have hzeros : 8 - before.length - after.length = n := by omega
  rw [readV6, hfirst]
  simp only [hshort, if_false, Bool.false_eq_true, readChar, if_true, Option.bind_eq_bind,
    Option.bind_some, hlast, hzeros]
  rfl

/-- An address of the other family behind five zero groups is read from its dotted quad. -/
theorem readV6_mapped {a b : Nat} {rest : List Char} (ha : a ≤ 65535) (hb : b ≤ 65535)
    (hrest : Stops 10 rest) :
    readV6 ("::ffff:".toList ++ (joined '.' 10 [a / 256, a % 256, b / 256, b % 256] ++ rest)) =
      some ([0, 0, 0, 0, 0, 0xffff, a, b], rest) := by
  generalize hquad : joined '.' 10 [a / 256, a % 256, b / 256, b % 256] = quad
  have hlast : readGroups 6 false (':' :: (quad ++ rest)) = ([a, b], true, rest) := by
    rw [← hquad, readGroups_quad rfl (by simp; omega) hrest, Nat.div_add_mod', Nat.div_add_mod']
  have hgroup : readGroups 7 true (Nat.toDigits 16 0xffff ++ ':' :: (quad ++ rest))
      = ([0xffff, a, b], true, rest) := by
    rw [readGroups_group rfl (by decide) (by intro c hc; cases hc; decide) (by simp), hlast]
  have hopen : Closes ("::ffff:".toList ++ (quad ++ rest)) := .inr (.inr ⟨_, rfl⟩)
  have htext : "::ffff:".toList = ':' :: ':' :: (Nat.toDigits 16 0xffff ++ [':']) := by decide
  rw [readV6, hopen.readGroups_eq, htext]
  simp only [List.cons_append, List.append_assoc, List.nil_append, readChar, if_true,
    Option.bind_eq_bind, Option.bind_some, List.length_nil, hgroup]
  rfl

/-- The groups of an address are read back from its text, whatever form the text has. -/
theorem readV6_render {groups : List Nat} {rest : List Char} (hlength : groups.length = 8)
    (hgroups : ∀ g ∈ groups, g ≤ 65535) (hrest : rest.head? = some ']' ∨ rest.head? = some '%') :
    readV6 ((IpAddress.v6 groups).render.toList ++ rest) = some (groups, rest) := by
  have hcloses : Closes rest := hrest.imp_right .inl
  unfold IpAddress.render
  split
  · next hip =>
    cases hip
  · next a b hip =>
    cases hip
    rw [String.toList_append, toList_renderOctets, List.append_assoc]
    exact readV6_mapped (hgroups a (by simp)) (hgroups b (by simp)) hcloses.stops_ten
  · next gs _ hip =>
    cases hip
    dsimp only
    split
    · next hrun =>
      -- the text is that of the groups before the run and of those after it
      obtain hnone | ⟨before, after, hsplit, hstart⟩ := zeroRun_spec groups 0
      · omega
      · generalize (zeroRun groups 0).2 = n at *
        generalize (zeroRun groups 0).1 = start at *
        rw [Nat.zero_add] at hstart
        subst hsplit hstart
        simp only [List.forall_mem_append, List.length_append, List.length_replicate]
          at hgroups hlength
        have htail : before.length + n = (before ++ List.replicate n 0).length := by simp
        rw [htail, List.drop_left, List.append_assoc, List.take_left, ← List.append_assoc]
        simp only [String.toList_append, toList_renderGroups, List.append_assoc]
        have hread := readV6_run hlength hrun hgroups.1.1 hgroups.2 hcloses
        simpa using hread
    · have hread := readGroups_joined (n := 8) (Nat.le_of_eq hlength) hgroups hcloses
      rw [toList_renderGroups, readV6, hread]
      simp only [hlength, if_true]

/-! ### What is read is in range -/

theorem readOctets_succ (n : Nat) (first : Bool) (cs : List Char) :
    readOctets (n + 1) first cs =
      (if first then some cs else readChar '.' cs).bind fun body =>
        (readNumber 10 255 (some 3) false body).bind fun o =>
          (readOctets n false o.2).bind fun later => some (o.1 :: later.1, later.2) := by
  cases first <;> rfl

theorem readOctets_spec {n : Nat} {first : Bool} {cs rest : List Char} {octets : List Nat}
    (h : readOctets n first cs = some (octets, rest)) :
    octets.length = n ∧ ∀ o ∈ octets, o ≤ 255 := by
  induction n generalizing first cs octets with
  | zero =>
    cases h
    exact ⟨rfl, by simp⟩
  | succ n ih =>
    rw [readOctets_succ] at h
    obtain ⟨body, -, h⟩ := Option.bind_eq_some_iff.mp h
    obtain ⟨⟨o, behind⟩, ho, h⟩ := Option.bind_eq_some_iff.mp h
    obtain ⟨⟨later, left⟩, hlater, h⟩ := Option.bind_eq_some_iff.mp h
    cases h
    obtain ⟨hlength, hle⟩ := ih hlater
    exact ⟨by rw [List.length_cons, hlength],
      List.forall_mem_cons.mpr ⟨(readNumber_eq_some ho).1, hle⟩⟩

theorem readGroups_spec (n : Nat) (first : Bool) (cs : List Char) :
    (readGroups n first cs).1.length ≤ n ∧ ∀ g ∈ (readGroups n first cs).1, g ≤ 65535 := by
  induction n generalizing first cs with
  | zero => exact ⟨Nat.le_refl 0, by simp [readGroups]⟩
  | succ n ih =>
    rw [readGroups]
    split
    · exact ⟨Nat.zero_le _, by simp⟩
    · split
      · next hquad =>
        obtain ⟨hn, hquad⟩ := Option.ite_none_left_eq_some.mp hquad
        have hle := (readOctets_spec hquad).2
        simp only [List.forall_mem_cons, List.length_cons, List.length_nil] at hle ⊢
        refine ⟨by omega, by omega, by omega, by simp⟩
      · split
        · exact ⟨Nat.zero_le _, by simp⟩
        · next group rest hnumber =>
          obtain ⟨hlength, hle⟩ := ih false rest
          exact ⟨Nat.succ_le_succ hlength,
            List.forall_mem_cons.mpr ⟨(readNumber_eq_some hnumber).1, hle⟩⟩

theorem readV6_spec {cs rest : List Char} {groups : List Nat}
    (h : readV6 cs = some (groups, rest)) : groups.length = 8 ∧ ∀ g ∈ groups, g ≤ 65535 := by
  obtain ⟨hshort, hhead⟩ := readGroups_spec 8 true cs
  rw [readV6] at h
  generalize readGroups 8 true cs = read at h hshort hhead
  obtain ⟨head, quad, left⟩ := read
  dsimp only at h hshort hhead
  by_cases hfull : head.length = 8
  · rw [if_pos hfull] at h
    cases h
    exact ⟨hfull, hhead⟩
  · rw [if_neg hfull] at h
    obtain ⟨-, h⟩ := Option.ite_none_left_eq_some.mp h
    obtain ⟨first, -, h⟩ := Option.bind_eq_some_iff.mp h
    obtain ⟨second, -, h⟩ := Option.bind_eq_some_iff.mp h
    cases h
    obtain ⟨hlong, htail⟩ := readGroups_spec (7 - head.length) true second
    constructor
    · simp only [List.length_append, List.length_replicate]
      omega
    · simp only [List.forall_mem_append]
      exact ⟨⟨hhead, by simp⟩, htail⟩

theorem readScope_le (rest : List Char) :
    (((readChar '%' rest).bind (readNumber 10 0xffffffff none true)).getD (0, rest)).1
      ≤ 0xffffffff := by
  cases hscope : (readChar '%' rest).bind (readNumber 10 0xffffffff none true) with
  | none => exact Nat.zero_le _
  | some scope =>
    obtain ⟨cs, -, hnumber⟩ := Option.bind_eq_some_iff.mp hscope
    exact (readNumber_eq_some hnumber).1

theorem readPort_le {cs rest : List Char} {port : Nat} (h : readPort cs = some (port, rest)) :
    port ≤ 65535 := by
  obtain ⟨body, -, h⟩ := Option.bind_eq_some_iff.mp h
  exact (readNumber_eq_some h).1

/-! ### Whole addresses -/

theorem readChar_self (c : Char) (rest : List Char) : readChar c (c :: rest) = some rest :=
  if_pos rfl

theorem readPort_toDigits {port : Nat} (h : port ≤ 65535) :
    readPort (':' :: Nat.toDigits 10 port) = some (port, []) := by
  have hread : readNumber 10 65535 none true (Nat.toDigits 10 port ++ []) = some (port, []) :=
    readNumber_toDigits (by decide) (by decide) h (by simp) (by simp [Stops])
  simpa [readPort, readChar] using hread

/-- The number of a scope with its sign, or nothing for zero. -/
def scopeText (scope : Nat) : List Char :=
  if scope = 0 then [] else '%' :: Nat.toDigits 10 scope

/-- A scope is read up to the bracket, and one that is left out is zero. -/
theorem readScope_scopeText {scope : Nat} (h : scope ≤ 0xffffffff) (rest : List Char) :
    ((readChar '%' (scopeText scope ++ ']' :: rest)).bind
      (readNumber 10 0xffffffff none true)).getD (0, scopeText scope ++ ']' :: rest)
        = (scope, ']' :: rest) := by
  unfold scopeText
  by_cases hzero : scope = 0
  · rw [if_pos hzero, hzero]
    rfl
  · have hread : readNumber 10 0xffffffff none true (Nat.toDigits 10 scope ++ ']' :: rest)
        = some (scope, ']' :: rest) :=
      readNumber_toDigits (by decide) (by decide) h (by simp) fun c hc => by cases hc; decide
    rw [if_neg hzero, List.cons_append, readChar, if_pos rfl, Option.bind_some, hread,
      Option.getD_some]

end Address

namespace SocketAddress

open Address

/-- An address with parts of bounded size. -/
def Fits (a : SocketAddress) : Prop :=
  a.port ≤ 65535 ∧
    match a.ip with
    | .v4 octets => octets.length = 4 ∧ (∀ o ∈ octets, o ≤ 255) ∧ a.scope = 0
    | .v6 groups => groups.length = 8 ∧ (∀ g ∈ groups, g ≤ 65535) ∧ a.scope ≤ 0xffffffff

/-- **The canonical text of an address is read as the address.** -/
theorem parse?_render {a : SocketAddress} (h : a.Fits) : parse? a.render = some a := by
  obtain ⟨ip, scope, port⟩ := a
  obtain ⟨hport, h⟩ := h
  cases ip with
  | v4 octets =>
    obtain ⟨hlength, hoctets, hscope⟩ := h
    have htext : (render ⟨.v4 octets, scope, port⟩).toList
        = joined '.' 10 octets ++ ':' :: Nat.toDigits 10 port := by
      simp [render, IpAddress.render, toList_renderOctets]
    have hne : octets ≠ [] := fun hnil => by simp [hnil] at hlength
    have hstops : Stops 10 (':' :: Nat.toDigits 10 port) := fun c hc => by cases hc; decide
    have hread := readOctets_joined hstops hne hoctets
    rw [hlength] at hread
    rw [parse?, htext, hread]
    simp only [Option.bind_eq_bind, Option.bind_some, readPort_toDigits hport, List.isEmpty_nil,
      if_true, Option.some_or]
    rw [show scope = 0 from hscope]
  | v6 groups =>
    obtain ⟨hlength, hgroups, hscope⟩ := h
    have htext : (render ⟨.v6 groups, scope, port⟩).toList =
        '[' :: ((IpAddress.v6 groups).render.toList
          ++ (scopeText scope ++ ']' :: ':' :: Nat.toDigits 10 port)) := by
      by_cases hzero : scope = 0 <;> simp [render, scopeText, hzero]
    have hrest : (scopeText scope ++ ']' :: ':' :: Nat.toDigits 10 port).head? = some ']' ∨
        (scopeText scope ++ ']' :: ':' :: Nat.toDigits 10 port).head? = some '%' := by
      by_cases hzero : scope = 0 <;> simp [scopeText, hzero]
    have hfamily (cs : List Char) : readOctets 4 true ('[' :: cs) = none :=
      readOctets_eq_none 2 (by rw [List.dropWhile_cons_of_neg (by decide)]; simp)
    have hread := readV6_render hlength hgroups hrest
    rw [parse?, htext, hfamily]
    simp only [Option.bind_eq_bind, Option.bind_none, Option.none_or, readChar_self,
      Option.bind_some, hread, readScope_scopeText hscope, readPort_toDigits hport,
      List.isEmpty_nil, if_true]

/-- Every address that can be read has parts of bounded size. -/
theorem fits_of_parse? {s : String} {a : SocketAddress} (h : parse? s = some a) : a.Fits := by
  rcases Option.or_eq_some_iff.mp h with h | ⟨-, h⟩
  · obtain ⟨⟨octets, rest⟩, hoctets, h⟩ := Option.bind_eq_some_iff.mp h
    obtain ⟨⟨port, rest'⟩, hport, h⟩ := Option.bind_eq_some_iff.mp h
    obtain ⟨-, ha⟩ := Option.ite_none_right_eq_some.mp h
    cases ha
    obtain ⟨hlength, hle⟩ := readOctets_spec hoctets
    exact ⟨readPort_le hport, hlength, hle, rfl⟩
  · obtain ⟨inside, -, h⟩ := Option.bind_eq_some_iff.mp h
    obtain ⟨⟨groups, rest⟩, hgroups, h⟩ := Option.bind_eq_some_iff.mp h
    obtain ⟨behind, -, h⟩ := Option.bind_eq_some_iff.mp h
    obtain ⟨⟨port, left⟩, hport, h⟩ := Option.bind_eq_some_iff.mp h
    obtain ⟨-, ha⟩ := Option.ite_none_right_eq_some.mp h
    cases ha
    obtain ⟨hlength, hle⟩ := readV6_spec hgroups
    exact ⟨readPort_le hport, hlength, hle, readScope_le rest⟩

end SocketAddress

end Switchboard

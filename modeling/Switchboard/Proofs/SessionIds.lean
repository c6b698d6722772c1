/-
Texts of session ids.

An id is written with 26 digits, and their order is that of the ids, so that texts can be sorted in
place of ids. Digits are read in either case, and 26 of them have two bits more than an id, which are
dropped. So an id is read from its own text and, up to case, from three others, whose first digits
are 8, 16 and 24 higher.

* `Alike`: equal up to the case of what follows the first underscore;
* `parse_eq_ok_iff`: the texts that an id is read from;
* `render_faithful`: **texts are read again and sort as their ids do**;
* `parse_spellings`: **an id is read from four texts, told apart by their first digits**.
-/
import Mathlib.Data.List.Forall2
import Mathlib.Data.List.Lex
import Switchboard.Definition.SessionId
import Switchboard.Proofs.Json.Decode
import Switchboard.Proofs.Json.Quoted
import Switchboard.Proofs.SessionId.Digits
import Switchboard.Proofs.Text.Utf8

namespace Switchboard

namespace SessionId

/-! ### Texts -/

/-- What stands in front of the first underscore. -/
def front (s : String) : List Char := s.toList.takeWhile (· ≠ '_')

/-- The first underscore and what follows it. -/
def back (s : String) : List Char := s.toList.dropWhile (· ≠ '_')

/-- The texts are equal up to the case of what follows the first underscore. -/
def Alike (s t : String) : Prop := front s = front t ∧ (back s).map upper = (back t).map upper

instance (s t : String) : Decidable (Alike s t) := inferInstanceAs (Decidable (_ ∧ _))

/-- The text with the last 26 digits of a number. -/
def spelled (n : Nat) : String := label ++ "_" ++ String.ofList ((places 26 n).map digit)

theorem render_eq (id : SessionId) : id.render = spelled id.value.toNat := rfl

theorem toList_label (cs : List Char) :
    (label ++ "_" ++ String.ofList cs).toList = label.toList ++ '_' :: cs := by
  rw [String.toList_append, String.toList_append, List.append_assoc, String.toList_ofList (l := cs)]
  rfl

theorem front_back {s : String} {cs : List Char} (h : s.toList = label.toList ++ '_' :: cs) :
    front s = label.toList ∧ back s = '_' :: cs := by
  have hlabel : ∀ c ∈ label.toList, (decide (c ≠ '_')) = true :=
    List.all_eq_true.mp (by decide +kernel)
  rw [front, back, h, List.takeWhile_append_of_pos hlabel, List.dropWhile_append_of_pos hlabel]
  exact ⟨by simp, by simp⟩

theorem toList_eq_iff {s : String} {cs : List Char} :
    s.toList = label.toList ++ '_' :: cs ↔ front s = label.toList ∧ back s = '_' :: cs := by
  refine ⟨front_back, fun ⟨hfront, hback⟩ => ?_⟩
  rw [← hfront, ← hback]
  exact List.takeWhile_append_dropWhile.symm

/-- What comes first behind the front is an underscore. -/
theorem eq_underscore_of_back {s : String} {c : Char} {cs : List Char} (h : back s = c :: cs) :
    c = '_' := by
  have hhead := List.head?_dropWhile_not (fun c => decide (c ≠ '_')) s.toList
  rw [← back, h] at hhead
  simpa using hhead

/-- Two texts that begin with the label are alike if what follows is. -/
theorem alike_iff {s t : String} {cs es : List Char} (ht : t.toList = label.toList ++ '_' :: es)
    (hs : s.toList = label.toList ++ '_' :: cs) : Alike s t ↔ cs.map upper = es.map upper := by
  obtain ⟨hsfront, hsback⟩ := front_back hs
  obtain ⟨htfront, htback⟩ := front_back ht
  rw [Alike, hsfront, htfront, hsback, htback, List.map_cons, List.map_cons, List.cons.injEq]
  simp

/-- A text that is like one with the label has the label itself. -/
theorem toList_of_alike {s t : String} {es : List Char}
    (ht : t.toList = label.toList ++ '_' :: es) (h : Alike s t) :
    ∃ cs, s.toList = label.toList ++ '_' :: cs := by
  obtain ⟨htfront, htback⟩ := front_back ht
  obtain ⟨hfront, hback⟩ := h
  rw [htback, List.map_cons] at hback
  cases hs : back s with
  | nil =>
    rw [hs] at hback
    cases hback
  | cons c cs =>
    exact ⟨cs, toList_eq_iff.mpr ⟨hfront.trans htfront, eq_underscore_of_back hs ▸ hs⟩⟩

/-! ### Spelling -/

theorem upper_ascii {c : Char} (h : (upper c).toNat < 128) : c.toNat < 128 := by
  unfold upper at h
  split at h
  · next hc =>
    have hle : c.toNat ≤ 'z'.toNat := hc.2
    exact Nat.lt_of_le_of_lt hle (by decide)
  · exact h

theorem spell_iff {cs : List Char} {ds : List Nat} :
    Spell cs ds ↔ AreDigits ds ∧ cs.map upper = ds.map digit := by
  induction cs generalizing ds with
  | nil =>
    constructor
    · rintro ⟨⟩
      exact ⟨nofun, rfl⟩
    · rintro ⟨-, h⟩
      rw [List.map_eq_nil_iff.mp h.symm]
      exact .nil
  | cons c cs ih =>
    cases ds with
    | nil => exact iff_of_false nofun (fun h => by cases h.2)
    | cons d ds =>
      rw [Spell, List.forall₂_cons, digitValue?_eq_some_iff, AreDigits, List.forall_mem_cons,
        List.map_cons, List.map_cons, List.cons.injEq]
      have := @ih ds
      rw [Spell, AreDigits] at this
      rw [this]
      tauto

/-- Characters that are read as digits have a byte each. -/
theorem Spell.utf8ByteSize {cs : List Char} {ds : List Nat} (h : Spell cs ds) :
    (String.ofList cs).utf8ByteSize = ds.length := by
  have hascii : ∀ c ∈ cs, c.toNat < 128 := by
    intro c hc
    obtain ⟨hds, hmap⟩ := spell_iff.mp h
    obtain ⟨d, hd, heq⟩ := List.mem_map.mp (hmap ▸ List.mem_map_of_mem hc)
    exact upper_ascii (heq ▸ digit_ascii d (hds d hd))
  rw [← Utf8.length_encode, Utf8.encode_ascii hascii, List.length_map]
  exact h.length_eq

/-- A session id is read from the label, an underscore and 26 digits, whose number is the id as far
as that has 128 bits. -/
theorem parse_eq_ok_iff_spell {s : String} {id : SessionId} :
    parse s = .ok id ↔ ∃ cs ds, s.toList = label.toList ++ '_' :: cs ∧ Spell cs ds ∧
      ds.length = 26 ∧ id.value = BitVec.ofNat 128 (number ds) := by
  have hzero (ds : List Nat) : numberFrom (0 : BitVec 128).toNat ds = number ds := rfl
  constructor
  · intro h
    rw [parse] at h
    split at h
    · cases h
    · dsimp only at h
      split at h
      · cases h
      · next c cs hback =>
        split at h
        · cases h
        · next hlabel =>
          split at h
          · cases h
          · next hsize =>
            obtain ⟨value, hvalue, rfl⟩ := Except.map_eq_ok.mp h
            obtain ⟨ds, hds, rfl⟩ := readDigits_eq_ok_iff.mp hvalue
            have hfront : front s = label.toList := by
              rw [← Decidable.not_not.mp hlabel, String.toList_ofList]
              rfl
            refine ⟨cs, ds, toList_eq_iff.mpr ⟨hfront, ?_⟩, hds, ?_, by rw [hzero]⟩
            · exact eq_underscore_of_back hback ▸ hback
            · exact hds.utf8ByteSize.symm.trans (Decidable.not_not.mp hsize)
  · rintro ⟨cs, ds, htext, hspell, hlength, hvalue⟩
    obtain ⟨hfront, hback⟩ := front_back htext
    have hsome : s.isEmpty = false := by
      rw [String.isEmpty_eq_false_iff]
      rintro rfl
      cases htext
    have hlabel : String.ofList label.toList = label := String.ofList_toList
    have hread := readDigits_eq_ok_iff.mpr ⟨ds, hspell, (hvalue.trans (by rw [hzero]))⟩
    unfold front back at *
    rw [parse, hsome]
    simp only [hfront, hback, hlabel, hspell.utf8ByteSize, hlength, hread]
    rfl

/-! ### The texts of an id -/

theorem toList_spelled (n : Nat) :
    (spelled n).toList = label.toList ++ '_' :: (places 26 n).map digit :=
  toList_label _

theorem spell_iff_places {cs : List Char} {n : Nat} :
    Spell cs (places 26 n) ↔ cs.map upper = ((places 26 n).map digit).map upper := by
  have hupper : ((places 26 n).map digit).map upper = (places 26 n).map digit := by
    rw [List.map_map]
    exact List.map_congr_left fun d hd => (digit_plain d (areDigits_places 26 n d hd)).2
  rw [spell_iff, hupper, and_iff_right (areDigits_places 26 n)]

/-- An id is read from the spelling of every number of 130 bits that ends in the id. -/
theorem parse_eq_ok_iff {s : String} {id : SessionId} :
    parse s = .ok id ↔
      ∃ n < 4 * 2 ^ 128, Alike s (spelled n) ∧ n % 2 ^ 128 = id.value.toNat := by
  have hvalue (n : Nat) : id.value = BitVec.ofNat 128 n ↔ n % 2 ^ 128 = id.value.toNat := by
    rw [← BitVec.toNat_inj, BitVec.toNat_ofNat, eq_comm]
  rw [parse_eq_ok_iff_spell]
  constructor
  · rintro ⟨cs, ds, htext, hspell, hlength, hid⟩
    have hplaces : places 26 (number ds) = ds := hlength ▸ places_number hspell.areDigits
    refine ⟨number ds, ?_, ?_, (hvalue _).mp hid⟩
    · have hlt := number_lt hspell.areDigits
      rw [hlength] at hlt
      exact Nat.lt_of_lt_of_eq hlt (by norm_num)
    · rw [alike_iff (toList_spelled _) htext, ← spell_iff_places, hplaces]
      exact hspell
  · rintro ⟨n, hn, halike, hid⟩
    obtain ⟨cs, htext⟩ := toList_of_alike (toList_spelled n) halike
    rw [alike_iff (toList_spelled n) htext, ← spell_iff_places] at halike
    refine ⟨cs, places 26 n, htext, halike, length_places 26 n, ?_⟩
    rw [number_places, Nat.mod_eq_of_lt (Nat.lt_of_lt_of_eq hn (by norm_num))]
    exact (hvalue n).mpr hid

theorem parse_render (id : SessionId) : parse id.render = .ok id := by
  have hlt := id.value.isLt
  exact parse_eq_ok_iff.mpr ⟨id.value.toNat, by omega, ⟨rfl, rfl⟩, Nat.mod_eq_of_lt hlt⟩

/-- Texts of ids need no escapes. -/
theorem escapeChar_render (id : SessionId) :
    ∀ c ∈ id.render.toList, Json.escapeChar c = [c] := by
  have hlabel : ∀ c ∈ label.toList ++ ['_'], Json.escapeChar c = [c] := by
    have hall : (label.toList ++ ['_']).all (fun c => Json.escapeChar c = [c]) = true := by
      decide +kernel
    simpa only [List.all_eq_true, decide_eq_true_eq] using hall
  have hdigit : ∀ d < 32, Json.escapeChar (digit d) = [digit d] := by decide +kernel
  intro c hc
  rw [render_eq, toList_spelled, ← List.singleton_append, ← List.append_assoc] at hc
  rcases List.mem_append.mp hc with hc | hc
  · exact hlabel c hc
  · obtain ⟨d, hd, rfl⟩ := List.mem_map.mp hc
    exact hdigit d (areDigits_places 26 _ d hd)

theorem decode_encode (id : SessionId) : decode id.encode = .ok id := by
  rw [encode, decode, parse_render]

/-! ### Order -/

/-- The byte that a digit is written as. -/
def byte (d : Nat) : UInt8 := UInt8.ofNat (digit d).toNat

theorem byte_lt_byte_iff : ∀ d < 32, ∀ e < 32, byte d < byte e ↔ d < e := by decide +kernel

theorem byte_eq_byte_iff : ∀ d < 32, ∀ e < 32, byte d = byte e ↔ d = e := by decide +kernel

theorem map_byte_lt_iff {ds es : List Nat} (hd : AreDigits ds) (he : AreDigits es) :
    ds.map byte < es.map byte ↔ ds < es := by
  induction ds generalizing es with
  | nil => cases es <;> simp
  | cons d ds ih =>
    cases es with
    | nil => simp
    | cons e es =>
      obtain ⟨hd, hds⟩ := List.forall_mem_cons.mp hd
      obtain ⟨he, hes⟩ := List.forall_mem_cons.mp he
      rw [List.map_cons, List.map_cons, List.cons_lt_cons_iff, List.cons_lt_cons_iff,
        byte_lt_byte_iff d hd e he, byte_eq_byte_iff d hd e he, ih hds hes]

theorem encode_spelled (n : Nat) :
    Utf8.encode (spelled n) = Utf8.encode (label ++ "_") ++ (places 26 n).map byte := by
  have hascii : ∀ c ∈ (places 26 n).map digit, c.toNat < 128 := by
    intro c hc
    obtain ⟨d, hd, rfl⟩ := List.mem_map.mp hc
    exact digit_ascii d (areDigits_places 26 n d hd)
  rw [spelled, Utf8.encode_append, Utf8.encode_ascii hascii, List.map_map]
  rfl

/-- The bytes of the texts have the order of the ids. -/
theorem encode_render_lt_iff {a b : SessionId} :
    Utf8.encode a.render < Utf8.encode b.render ↔ a.value < b.value := by
  have hnumber (id : SessionId) : number (places 26 id.value.toNat) = id.value.toNat := by
    have := id.value.isLt
    rw [number_places, Nat.mod_eq_of_lt (by omega)]
  have hdigits (id : SessionId) := areDigits_places 26 id.value.toNat
  have hbytes : Utf8.encode a.render < Utf8.encode b.render ↔
      (places 26 a.value.toNat).map byte < (places 26 b.value.toNat).map byte := by
    rw [render_eq, render_eq, encode_spelled, encode_spelled]
    exact ⟨fun h => List.not_le.mp fun hle => List.append_left_le hle h, List.append_left_lt⟩
  rw [hbytes, map_byte_lt_iff (hdigits a) (hdigits b),
    ← number_lt_number_iff (hdigits a) (hdigits b) (by simp), hnumber, hnumber, BitVec.lt_def]

/-- The time of creation is the upper 48 bits of the id. -/
theorem timestamp_eq (id : SessionId) : id.timestamp = (id.value.extractLsb' 80 48).toNat := by
  have hid := id.value.isLt
  have hbits : id.value.toNat >>> 80 < 2 ^ 48 := by
    rw [Nat.shiftRight_eq_div_pow]
    omega
  rw [timestamp, BitVec.extractLsb'_toNat, Nat.mod_eq_of_lt hbits]

theorem timestamp_le {a b : SessionId} (h : a.value.toNat ≤ b.value.toNat) :
    a.timestamp ≤ b.timestamp := by
  rw [timestamp, timestamp, Nat.shiftRight_eq_div_pow, Nat.shiftRight_eq_div_pow]
  exact Nat.div_le_div_right h

/-- The text `s` does not come after `t` in the order of their bytes. -/
def notAfter (s t : String) : Bool := decide (Utf8.encode s ≤ Utf8.encode t)

theorem notAfter_render (a b : SessionId) :
    notAfter a.render b.render = decide (a.value.toNat ≤ b.value.toNat) := by
  rw [notAfter, decide_eq_decide, ← List.not_lt, encode_render_lt_iff, BitVec.lt_def, Nat.not_lt]

theorem sort_texts (ids : List SessionId) :
    (ids.map render).mergeSort notAfter = (sort ids).map render := by
  rw [sort, List.map_mergeSort]
  exact fun a _ b _ => (notAfter_render a b).symm

theorem sort_ascending (ids : List SessionId) :
    (sort ids).Pairwise fun a b => a.value ≤ b.value ∧ a.timestamp ≤ b.timestamp := by
  have hsorted : (sort ids).Pairwise fun a b => decide (a.value.toNat ≤ b.value.toNat) = true := by
    refine List.pairwise_mergeSort (fun a b c hab hbc => ?_) (fun a b => ?_) ids
    · exact decide_eq_true (Nat.le_trans (of_decide_eq_true hab) (of_decide_eq_true hbc))
    · rw [Bool.or_eq_true]
      exact (Nat.le_total a.value.toNat b.value.toNat).imp decide_eq_true decide_eq_true
  refine hsorted.imp fun h => ?_
  have hle := of_decide_eq_true h
  exact ⟨hle, timestamp_le hle⟩

/-- **Texts of session ids stand for their ids.** Each is read as its id again, as a text and as
JSON. The bytes of two texts are in the order of the ids, so that texts are sorted as ids are, and no
later time of creation, which is the upper 48 bits of an id, comes in front of an earlier one. -/
theorem render_faithful :
    (∀ id : SessionId, parse id.render = .ok id ∧ decode id.encode = .ok id ∧
      id.encode.render = "\"" ++ id.render ++ "\"" ∧
      ∃ v, Json.parse id.encode.render = .ok v ∧ decode v = .ok id) ∧
    (∀ id : SessionId, id.timestamp = (id.value.extractLsb' 80 48).toNat) ∧
    (∀ a b : SessionId, a.value < b.value ↔ Utf8.encode a.render < Utf8.encode b.render) ∧
    ∀ ids : List SessionId, (ids.map render).mergeSort notAfter = (sort ids).map render ∧
      (sort ids).Pairwise fun a b => a.value ≤ b.value ∧ a.timestamp ≤ b.timestamp :=
  ⟨fun id => ⟨parse_render id, decode_encode id, Json.render_plain (escapeChar_render id),
    id.encode, Json.parse_render_string id.render, decode_encode id⟩, timestamp_eq,
    fun _ _ => encode_render_lt_iff.symm, fun ids => ⟨sort_texts ids, sort_ascending ids⟩⟩

/-! ### Spellings of one id -/

theorem Alike.refl (s : String) : Alike s s := ⟨rfl, rfl⟩

theorem Alike.symm {s t : String} (h : Alike s t) : Alike t s := ⟨h.1.symm, h.2.symm⟩

theorem Alike.trans {s t u : String} (h : Alike s t) (h' : Alike t u) : Alike s u :=
  ⟨h.1.trans h'.1, h.2.trans h'.2⟩

/-- The first digit of a text: what stands behind the label and the underscore. -/
def leading? (s : String) : Option Nat := s.toList[label.length + 1]?.bind digitValue?

/-- The first digit has what goes beyond the 125 bits of the other digits. -/
theorem Alike.leading {s : String} {n : Nat} (hn : n < 4 * 2 ^ 128) (h : Alike s (spelled n)) :
    leading? s = some (n / 2 ^ 125) := by
  obtain ⟨cs, htext⟩ := toList_of_alike (toList_spelled n) h
  rw [alike_iff (toList_spelled n) htext, ← spell_iff_places] at h
  have hfirst : (places 26 n)[0]? = some (n / 2 ^ 125) := by
    have hdigit : n / 2 ^ 125 % 32 = n / 2 ^ 125 := by omega
    rw [places, List.getElem?_map, List.getElem?_range (by decide), Option.map_some, ← hdigit]
    rfl
  have hread : leading? s = cs[0]?.bind digitValue? := by
    rw [leading?, htext]
    rfl
  rw [hread]
  cases hplaces : places 26 n with
  | nil =>
    rw [hplaces] at hfirst
    cases hfirst
  | cons d ds =>
    rw [hplaces] at h hfirst
    cases h with
    | cons hd _ => exact hd.trans hfirst

/-- Of the texts of an id, its own is the one whose first digit has no more than three bits. -/
theorem alike_render_iff {s : String} {id : SessionId} (h : parse s = .ok id) :
    Alike s id.render ↔ ∃ d < 8, leading? s = some d := by
  have hid := id.value.isLt
  obtain ⟨n, hn, halike, hlow⟩ := parse_eq_ok_iff.mp h
  rw [halike.leading hn, render_eq]
  constructor
  · intro hown
    have hleading := (halike.leading hn).symm.trans (hown.leading (by omega))
    exact ⟨_, by omega, hleading⟩
  · rintro ⟨d, hd, hleading⟩
    have hd : n / 2 ^ 125 = d := Option.some.inj hleading
    have hown : n = id.value.toNat := by omega
    exact hown ▸ halike

/-- Two texts of an id are alike if they have the same first digit. -/
theorem alike_iff_leading {s t : String} {id : SessionId} (hs : parse s = .ok id)
    (ht : parse t = .ok id) : Alike s t ↔ leading? s = leading? t := by
  obtain ⟨n, hn, hsalike, hslow⟩ := parse_eq_ok_iff.mp hs
  obtain ⟨m, hm, htalike, htlow⟩ := parse_eq_ok_iff.mp ht
  rw [htalike.leading hm]
  constructor
  · intro h
    exact (h.trans htalike).leading hm
  · intro h
    rw [hsalike.leading hn, Option.some.injEq] at h
    obtain rfl : n = m := by omega
    exact hsalike.trans htalike.symm

/-- **A session id is read from four texts up to the case of their digits.** They are the spellings of
the numbers of 130 bits that end in the id. Its own text is the one whose first digit is below 8, and
any two texts of the id are the same up to case if they have the same first digit. -/
theorem parse_spellings (s t : String) (id : SessionId) :
    (parse s = .ok id ↔ ∃ k < 4, Alike s (spelled (k * 2 ^ 128 + id.value.toNat))) ∧
    (parse s = .ok id → (Alike s id.render ↔ ∃ d < 8, leading? s = some d)) ∧
    (parse s = .ok id → parse t = .ok id → (Alike s t ↔ leading? s = leading? t)) ∧
    ∀ j < 4, ∀ k < 4, Alike (spelled (j * 2 ^ 128 + id.value.toNat))
      (spelled (k * 2 ^ 128 + id.value.toNat)) → j = k := by
  have hid := id.value.isLt
  have hfits (k : Nat) (hk : k < 4) : k * 2 ^ 128 + id.value.toNat < 4 * 2 ^ 128 := by omega
  refine ⟨?_, alike_render_iff, alike_iff_leading, fun j hj k hk h => ?_⟩
  · rw [parse_eq_ok_iff]
    constructor
    · rintro ⟨n, hn, halike, hlow⟩
      refine ⟨n / 2 ^ 128, by omega, ?_⟩
      rwa [← hlow, Nat.div_add_mod']
    · rintro ⟨k, hk, halike⟩
      exact ⟨_, hfits k hk, halike, by omega⟩
  · have hself := (Alike.refl (spelled (j * 2 ^ 128 + id.value.toNat))).leading (hfits j hj)
    have hsame := Option.some.inj (hself.symm.trans (h.leading (hfits k hk)))
    clear h hself hfits
    omega

/-- A first digit of 8 is read as 0 is. -/
theorem parse_spellings_eight :
    parse "ses_8000000000000000000000000z" = .ok ⟨31⟩ ∧
    parse "ses_0000000000000000000000000Z" = .ok ⟨31⟩ ∧
    ¬ Alike "ses_8000000000000000000000000z" (render ⟨31⟩) ∧
    ¬ Alike "ses_8000000000000000000000000z" "ses_0000000000000000000000000Z" := by
  have h := parse_spellings "ses_8000000000000000000000000z" "ses_0000000000000000000000000Z" ⟨31⟩
  have hs : parse "ses_8000000000000000000000000z" = .ok ⟨31⟩ :=
    h.1.mpr ⟨1, by decide, by decide +kernel⟩
  have ht : parse "ses_0000000000000000000000000Z" = .ok ⟨31⟩ := by decide +kernel
  refine ⟨hs, ht, ?_, ?_⟩
  · rw [h.2.1 hs]
    decide +kernel
  · rw [h.2.2.1 hs ht]
    decide +kernel

/-- Not every text that an id is read from is its own up to case, and two that are not the same up to
case can name one id. -/
theorem not_parse_alike :
    ¬ (∀ s id, parse s = .ok id → Alike s id.render) ∧
    ¬ ∀ s t id, parse s = .ok id → parse t = .ok id → Alike s t := by
  have hs : parse "ses_80000000000000000000000000" = .ok ⟨0⟩ := by decide +kernel
  have hown : ¬ Alike "ses_80000000000000000000000000" (render ⟨0⟩) := by decide +kernel
  exact ⟨fun h => hown (h _ _ hs), fun h => hown (h _ _ _ hs (parse_render ⟨0⟩))⟩

end SessionId

end Switchboard

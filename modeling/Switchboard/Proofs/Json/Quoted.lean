/-
Strings in quotes.

A string is written in quotes, with escapes for what may not stand there, and is read again
character by character.

* `Document.readString_escapeChar`: each character is read as it was written;
* `Json.parse_render_string`: so is the whole string.
-/
import Mathlib.Data.List.Basic
import Switchboard.Json.Document
import Switchboard.Json.Printer

namespace Switchboard

namespace JsonText

theorem hexDigit?_digitChar : ∀ n < 16, hexDigit? n.digitChar = some n := by decide +kernel

theorem utf8Size_digitChar : ∀ n < 16, n.digitChar.utf8Size = 1 := by decide +kernel

/-- Four hexadecimal digits are read as their number. -/
theorem readHex4_hex4 {n : Nat} (h : n < 65536) (rest : List Char) :
    readHex4 (Json.hex4 n ++ rest) = .ok (n, rest) := by
  have hdigit (k : Nat) : hexDigit? (k % 16).digitChar = some (k % 16) :=
    hexDigit?_digitChar _ (Nat.mod_lt _ (by decide))
  have hsize (k : Nat) : (k % 16).digitChar.utf8Size = 1 :=
    utf8Size_digitChar _ (Nat.mod_lt _ (by decide))
  have htake : (Json.hex4 n ++ rest).take 4 = Json.hex4 n := rfl
  have hdrop : (Json.hex4 n ++ rest).drop 4 = rest := rfl
  rw [readHex4, htake, hdrop]
  simp only [Json.hex4, List.map_cons, List.map_nil, List.foldl_cons, List.foldl_nil, hsize,
    List.filterMap_cons, List.filterMap_nil, hdigit, List.length_cons, List.length_nil]
  rw [if_neg (by decide), if_neg (by decide)]
  congr 2
  omega

end JsonText

namespace Document

open JsonText Json

theorem readEscape_hex4 {n : Nat} (h : n < 0xD800) (rest : List Char) :
    readEscape ('u' :: (hex4 n ++ rest)) = .ok (Char.ofNat n, rest) := by
  rw [readEscape]
  simp only [readHex4_hex4 (show n < 65536 by omega), bind, Except.bind]
  rw [if_neg (by omega), if_pos (.inl h)]

/-- A character is read as it was written. -/
theorem readString_escapeChar (fuel : Nat) (read : List Char) (c : Char) (rest : List Char) :
    readString (fuel + 1) read (escapeChar c ++ rest) = readString fuel (c :: read) rest := by
  unfold escapeChar
  split
  -- the short escapes
  iterate 7 rfl
  · next hquote hbackslash _ _ _ _ _ =>
    split
    · next hcontrol =>
      have hread := readEscape_hex4 (Nat.lt_trans hcontrol (by decide : 32 < 0xD800)) rest
      rw [Char.ofNat_toNat] at hread
      simp only [List.cons_append, readString, hread, bind, Except.bind]
    · next hplain =>
      rw [List.singleton_append, readString]
      · exact if_neg hplain
      · exact hquote
      · exact hbackslash

theorem readString_flatMap {fuel : Nat} {cs : List Char} (h : cs.length < fuel)
    (read rest : List Char) :
    readString fuel read (cs.flatMap escapeChar ++ '"' :: rest) =
      .ok (String.ofList (read.reverse ++ cs), rest) := by
  induction cs generalizing fuel read with
  | nil =>
    obtain ⟨fuel, rfl⟩ := Nat.exists_eq_add_one_of_ne_zero (Nat.ne_zero_of_lt h)
    rw [List.flatMap_nil, List.nil_append, List.append_nil, readString]
  | cons c cs ih =>
    obtain ⟨fuel, rfl⟩ := Nat.exists_eq_add_one_of_ne_zero (Nat.ne_zero_of_lt h)
    rw [List.flatMap_cons, List.append_assoc, readString_escapeChar,
      ih (Nat.lt_of_succ_lt_succ h), List.reverse_cons, List.append_assoc, List.singleton_append]

end Document

namespace Json

open Document

theorem length_le_flatMap_escapeChar (cs : List Char) :
    cs.length ≤ (cs.flatMap escapeChar).length := by
  have hpos (c : Char) : 1 ≤ (escapeChar c).length := by
    unfold escapeChar
    split
    iterate 7 exact Nat.le_add_left 1 1
    · split
      · exact Nat.le_add_left 1 _
      · exact Nat.le_refl 1
  induction cs with
  | nil => exact Nat.le_refl 0
  | cons c rest ih =>
    rw [List.flatMap_cons, List.length_append, List.length_cons]
    have := hpos c
    omega

/-- A string is read as it was written. -/
theorem parse_render_string (s : String) : parse (Json.string s).render = .ok (.string s) := by
  have htext : (Json.string s).render.toList = '"' :: (s.toList.flatMap escapeChar ++ ['"']) :=
    String.toList_ofList
  have hfuel : s.toList.length < (s.toList.flatMap escapeChar ++ ['"']).length + 1 := by
    have := length_le_flatMap_escapeChar s.toList
    rw [List.length_append]
    omega
  have hread := readString_flatMap hfuel [] []
  rw [List.reverse_nil, List.nil_append, String.ofList_toList] at hread
  generalize s.toList.flatMap escapeChar ++ ['"'] = body at htext hread
  have hvalue (fuel : Nat) :
      readValue (fun _ => true) (fuel + 1) maxDepth [] ('"' :: body) = (.string s, some []) := by
    have hblanks : JsonText.skipBlanks ('"' :: body) = '"' :: body := rfl
    simp only [readValue, hblanks, hread, Except.map, ofResult]
  rw [parse, Document.read, htext]
  simp only [hvalue]
  rfl

/-- A string without characters that are escaped is written as it is. -/
theorem render_plain {s : String} (h : ∀ c ∈ s.toList, escapeChar c = [c]) :
    (Json.string s).render = "\"" ++ s ++ "\"" := by
  have hplain : s.toList.flatMap escapeChar = s.toList :=
    (List.flatMap_congr h).trans (List.flatMap_singleton' _)
  apply String.toList_injective
  rw [render, quote, String.toList_ofList, hplain, String.toList_append, String.toList_append]
  rfl

end Json

end Switchboard

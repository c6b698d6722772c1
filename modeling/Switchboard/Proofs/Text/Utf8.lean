/-
The bytes of texts.

The bytes of a text are those of its characters one after the other, and an ASCII character is one
byte. So the order of the bytes of ASCII texts is the order of their characters.

* `Utf8.encode_ofList`: character by character;
* `Utf8.encode_ascii`: one byte for each character, if all are ASCII.
-/
import Mathlib.Data.List.Basic
import Switchboard.Text.Utf8

namespace Switchboard

namespace Utf8

/-- Bytes are listed from where they stand. -/
theorem toList_loop (bs : ByteArray) (i : Nat) (read : List UInt8) :
    ByteArray.toList.loop bs i read = read.reverse ++ bs.data.toList.drop i := by
  fun_induction ByteArray.toList.loop bs i read with
  | case1 i read hlt ih =>
    have hi : i < bs.data.toList.length := by simpa using hlt
    have hget : bs.get! i = bs.data.toList[i] := getElem!_pos bs.data i hlt
    rw [ih, List.drop_eq_getElem_cons hi, hget, List.reverse_cons, List.append_assoc,
      List.singleton_append]
  | case2 i read hend =>
    rw [List.drop_eq_nil_of_le (by simpa using hend), List.append_nil]

theorem encode_eq (s : String) : encode s = s.toByteArray.data.toList := by
  rw [encode, String.toUTF8, ByteArray.toList, toList_loop]
  rfl

theorem length_encode (s : String) : (encode s).length = s.utf8ByteSize := by
  rw [encode_eq, Array.length_toList]
  rfl

theorem encode_ofList (cs : List Char) :
    encode (String.ofList cs) = cs.flatMap String.utf8EncodeChar := by
  rw [encode_eq, String.toByteArray_ofList, List.utf8Encode, List.data_toByteArray]

theorem encode_append (s t : String) : encode (s ++ t) = encode s ++ encode t := by
  obtain ⟨cs, rfl⟩ : ∃ cs, s = String.ofList cs := ⟨s.toList, String.ofList_toList.symm⟩
  obtain ⟨ds, rfl⟩ : ∃ ds, t = String.ofList ds := ⟨t.toList, String.ofList_toList.symm⟩
  rw [← String.ofList_append, encode_ofList, encode_ofList, encode_ofList, List.flatMap_append]

/-- Texts of ASCII characters have one byte for each of them. -/
theorem encode_ascii {cs : List Char} (h : ∀ c ∈ cs, c.toNat < 128) :
    encode (String.ofList cs) = cs.map fun c => UInt8.ofNat c.toNat := by
  rw [encode_ofList]
  induction cs with
  | nil => rfl
  | cons c rest ih =>
    obtain ⟨hc, hrest⟩ := List.forall_mem_cons.mp h
    have hbyte : String.utf8EncodeChar c = [UInt8.ofNat c.toNat] := by
      rw [String.utf8EncodeChar]
      exact if_pos (Nat.le_of_lt_succ hc)
    rw [List.flatMap_cons, hbyte, ih hrest]
    rfl

end Utf8

end Switchboard

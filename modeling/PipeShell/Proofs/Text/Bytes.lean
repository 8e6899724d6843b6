import Mathlib
import PipeShell.Text.Utf8

/-!
# The bytes of a text

The bytes of a text are those of its characters, one after another. A greater character has greater
bytes, whatever stands behind it, so texts are ordered by their bytes as they are by their
characters.

## Main results

* `encode_append`: the bytes of one text behind another
* `encode_lt_encode_iff`: texts are ordered by their bytes
-/

namespace PipeShell.Text.Utf8

/-! ## One character after another -/

theorem toList_loop_eq (bytes : ByteArray) (start : Nat) (sofar : List UInt8) :
    ByteArray.toList.loop bytes start sofar = sofar.reverse ++ bytes.data.toList.drop start := by
  fun_induction ByteArray.toList.loop bytes start sofar with
  | case1 start sofar h ih =>
    have hlt : start < bytes.data.toList.length := by simpa using h
    have hbyte : bytes.get! start = bytes.data.toList[start] := by
      rw [Array.getElem_toList]
      exact getElem!_pos bytes.data start (by simpa using hlt)
    rw [ih, List.drop_eq_getElem_cons hlt, hbyte]
    simp
  | case2 start sofar h =>
    rw [List.drop_eq_nil_of_le (by simpa using h), List.append_nil]

/-- The bytes of one text behind another. -/
theorem encode_append (a b : String) : encode (a ++ b) = encode a ++ encode b := by
  simp [encode, ByteArray.toList, toList_loop_eq]

/-- A text written over and over. -/
theorem encode_join_replicate_add (a b : Nat) (text : String) :
    encode (String.join (List.replicate (a + b) text)) =
      encode (String.join (List.replicate a text)) ++
        encode (String.join (List.replicate b text)) := by
  rw [← encode_append, ← String.join_append, List.replicate_append_replicate]

theorem encode_eq_flatMap (text : String) :
    encode text = text.toList.flatMap String.utf8EncodeChar := by
  have hbytes : text.toUTF8 = (text.toList.flatMap String.utf8EncodeChar).toByteArray :=
    String.utf8Encode_toList.symm
  rw [encode, hbytes, ByteArray.toList, toList_loop_eq, List.toList_data_toByteArray]
  rfl

/-! ## Order -/

/-- Numbers are ordered like their digits. -/
theorem digits_lt {v w : Nat} (h : v < w) :
    v / 64 < w / 64 ∨ v / 64 = w / 64 ∧ v % 64 < w % 64 := by omega

/-- A greater character has greater bytes, whatever stands behind the two. -/
theorem utf8EncodeChar_append_lt {c d : Char} (h : c < d) (r s : Bytes) :
    String.utf8EncodeChar c ++ r < String.utf8EncodeChar d ++ s := by
  have hcd : c.val.toNat < d.val.toNat := h
  have hd : d.val.toNat < 0x110000 := by
    rcases d.valid with h | h
    · have : d.val.toNat < 0xd800 := h
      omega
    · exact h.2
  rw [String.utf8EncodeChar, String.utf8EncodeChar]
  generalize c.val.toNat = v at *
  generalize d.val.toNat = w at *
  have hv : v / 4096 = v / 64 / 64 ∧ v / 262144 = v / 64 / 64 / 64 := by omega
  have hw : w / 4096 = w / 64 / 64 ∧ w / 262144 = w / 64 / 64 / 64 := by omega
  rw [hv.1, hv.2, hw.1, hw.2]
  by_cases hfour : 65535 < v
  · -- Both have four bytes, and the first digit in which they differ decides.
    simp only [show ¬ v ≤ 127 by omega, show ¬ v ≤ 2047 by omega, show ¬ v ≤ 65535 by omega,
      show ¬ w ≤ 127 by omega, show ¬ w ≤ 2047 by omega, show ¬ w ≤ 65535 by omega, if_false,
      List.cons_append, List.nil_append, List.cons_lt_cons_iff, UInt8.lt_iff_toNat_lt,
      ← UInt8.toNat_inj, UInt8.toNat_ofNat']
    rcases digits_lt hcd with h | h
    · rcases digits_lt h with h | h
      · rcases digits_lt h with h | h <;> omega
      · omega
    · omega
  · -- One case for each number of bytes that the two can have.
    split_ifs <;>
      simp only [List.cons_append, List.nil_append, List.cons_lt_cons_iff, UInt8.lt_iff_toNat_lt,
        ← UInt8.toNat_inj, UInt8.toNat_ofNat'] <;>
      omega

theorem flatMap_utf8EncodeChar_lt {cs ds : List Char} (h : cs < ds) :
    cs.flatMap String.utf8EncodeChar < ds.flatMap String.utf8EncodeChar := by
  induction h with
  | nil =>
    rename_i d ds
    obtain ⟨b, bytes, hd⟩ := List.exists_cons_of_ne_nil (String.utf8EncodeChar_ne_nil (c := d))
    rw [List.flatMap_nil, List.flatMap_cons, hd]
    exact .nil
  | rel h =>
    rw [List.flatMap_cons, List.flatMap_cons]
    exact utf8EncodeChar_append_lt h _ _
  | cons h ih =>
    rw [List.flatMap_cons, List.flatMap_cons]
    exact List.append_left_lt ih

/-- **Texts are ordered by their bytes** as they are by their characters. -/
theorem encode_lt_encode_iff {a b : String} : encode a < encode b ↔ a < b := by
  have hmono : ∀ {a b : String}, a < b → encode a < encode b := by
    intro a b h
    rw [encode_eq_flatMap, encode_eq_flatMap]
    exact flatMap_utf8EncodeChar_lt h
  refine ⟨fun h => ?_, hmono⟩
  by_contra hab
  by_cases hba : b < a
  · exact List.lt_asymm h (hmono hba)
  · rw [String.lt_antisymm hab hba] at h
    exact List.lt_irrefl _ h

end PipeShell.Text.Utf8

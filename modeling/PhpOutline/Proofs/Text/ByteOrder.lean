import Mathlib
import PhpOutline.Glob.Basic

/-!
Texts are ordered like their bytes.

The order of texts goes by code points.
The encoding keeps it, since no character's bytes open those of another one.
-/

namespace PhpOutline

/-- Listing the bytes from an index on adds those that are left. -/
theorem toList_loop_eq (bytes : ByteArray) (index : Nat) (listed : List UInt8) :
    ByteArray.toList.loop bytes index listed =
      listed.reverse ++ bytes.data.toList.drop index := by
  -- Along the loop: what is listed so far stands in front of the bytes from the index on.
  fun_induction ByteArray.toList.loop bytes index listed with
  | case1 index listed inside ih =>
    have within : index < bytes.data.toList.length := inside
    have byte : bytes.get! index = bytes.data.toList[index] := by
      rw [ByteArray.get!, Array.getElem_toList]
      exact getElem!_pos bytes.data index inside
    rw [ih, List.drop_eq_getElem_cons within, byte, List.reverse_cons, List.append_assoc,
      List.singleton_append]
  | case2 index listed outside =>
    have ended : bytes.data.toList.length ≤ index := Nat.le_of_not_lt outside
    rw [List.drop_eq_nil_of_le ended, List.append_nil]

/-- The bytes of a text are those of its characters. -/
theorem bytesOf_eq (text : String) : bytesOf text = text.toList.flatMap String.utf8EncodeChar := by
  -- The bytes of a text are those of its characters, one after the other.
  rw [bytesOf, String.toUTF8_eq_toByteArray, ← String.utf8Encode_toList, List.utf8Encode,
    ByteArray.toList, toList_loop_eq, List.reverse_nil, List.nil_append, List.drop_zero,
    List.toList_data_toByteArray]

/-- Bytes that differ somewhere, where the first ones are lower. -/
inductive BytesBelow : List UInt8 → List UInt8 → Prop where
  | head {low high : UInt8} (lower : low < high) (lows highs : List UInt8) :
    BytesBelow (low :: lows) (high :: highs)
  | tail (same : UInt8) {lows highs : List UInt8} (below : BytesBelow lows highs) :
    BytesBelow (same :: lows) (same :: highs)

/-- Bytes that differ stay in order, whatever follows them. -/
theorem BytesBelow.append_lt {lows highs : List UInt8} (below : BytesBelow lows highs)
    (left right : List UInt8) : lows ++ left < highs ++ right := by
  -- The byte that decides stands before the end of both, so what follows does not matter.
  induction below with
  | head lower lows highs => exact List.Lex.rel lower
  | tail same below ih => exact List.Lex.cons ih

/-- Two bytes with the same or lower leading number, then the rest. -/
theorem BytesBelow.of_le {low high : Nat} {lows highs : List UInt8} (small : high < 256)
    (ordered : low ≤ high) (below : low = high → BytesBelow lows highs) :
    BytesBelow (UInt8.ofNat low :: lows) (UInt8.ofNat high :: highs) := by
  -- Either the first bytes decide, or they are equal and the next ones do.
  rcases Nat.eq_or_lt_of_le ordered with same | lower
  · subst same
    exact .tail _ (below rfl)
  · refine .head ?_ _ _
    rw [UInt8.lt_iff_toNat_lt, UInt8.toNat_ofNat', UInt8.toNat_ofNat']
    omega

/-- The bytes of a lower character differ from those of a higher one and are lower. -/
theorem utf8EncodeChar_below {low high : Char} (lower : low < high) :
    BytesBelow (String.utf8EncodeChar low) (String.utf8EncodeChar high) := by
  have codes : low.val.toNat < high.val.toNat := UInt32.lt_iff_toNat_lt.mp lower
  have bound : high.val.toNat < 0x110000 := by
    have := high.valid
    simp only [UInt32.isValidChar, Nat.isValidChar] at this
    omega
  simp only [String.utf8EncodeChar]
  -- The bytes are the digits of the code point, the leading one marked with their number.
  split_ifs
  all_goals repeat first | omega | refine .of_le (by omega) (by omega) fun _ => ?_

/-- Texts in order have their bytes in order. -/
theorem bytesOf_lt {left right : String} (lower : left < right) : bytesOf left < bytesOf right := by
  -- The first two characters that differ decide, and their bytes compare as they do.
  rw [String.lt_iff_toList_lt] at lower
  rw [bytesOf_eq, bytesOf_eq]
  generalize left.toList = lefts at *
  generalize right.toList = rights at *
  induction lower with
  -- A text that ends is below every longer one, as no character has an empty code.
  | nil =>
    rename_i char rest
    have some : String.utf8EncodeChar char ≠ [] := String.utf8EncodeChar_ne_nil
    obtain ⟨byte, bytes, encoded⟩ := List.exists_cons_of_ne_nil some
    rw [List.flatMap_cons, encoded]
    exact List.Lex.nil
  -- The smaller character has the smaller bytes.
  | rel below =>
    rw [List.flatMap_cons, List.flatMap_cons]
    exact (utf8EncodeChar_below below).append_lt _ _
  -- Equal characters have equal bytes in front.
  | cons below ih =>
    rename_i char lefts rights
    rw [List.flatMap_cons, List.flatMap_cons]
    induction String.utf8EncodeChar char with
    | nil => exact ih
    | cons byte bytes step => exact List.Lex.cons step

end PhpOutline

import Mathlib.Data.List.Basic
import Mathlib.Order.Defs.LinearOrder
import StorageTelemetry.Text.Utf8

namespace StorageTelemetry
namespace Text

/-!
# The order of bytes

Texts are ordered by their characters.  That is also the order of their bytes:
a greater character is written with more bytes, of which the first tells so, or
with as many bytes that differ first where they are greater.
-/

/-! ## Bytes of a text -/

theorem toList_loop_eq (array : ByteArray) (start : Nat) (read : List UInt8) :
    ByteArray.toList.loop array start read = read.reverse ++ array.data.toList.drop start := by
  induction start, read using ByteArray.toList.loop.induct array with
  | case1 start read before ih =>
      have rest : array.data.toList.drop start =
          array.data[start] :: array.data.toList.drop (start + 1) := by
        rw [List.drop_eq_getElem_cons (by simpa using before), Array.getElem_toList]
      rw [ByteArray.toList.loop, if_pos before, ih, rest]
      simp [ByteArray.get!, before]
  | case2 start read after =>
      have none : array.data.toList.drop start = [] :=
        List.drop_of_length_le (by simpa using after)
      rw [ByteArray.toList.loop, if_neg after, none, List.append_nil]

/-- The bytes of a text are those of its characters. -/
theorem bytes_eq (text : String) : bytes text = text.toList.flatMap String.utf8EncodeChar := by
  rw [bytes, ByteArray.toList, toList_loop_eq, String.toUTF8, ← String.utf8Encode_toList,
    List.utf8Encode, List.toList_data_toByteArray]
  rfl

/-! ## Order -/

/-- The bytes of a character come before those of a greater one, whatever
follows them. -/
theorem utf8EncodeChar_lt {c d : Char} (less : c < d) (rest others : List UInt8) :
    String.utf8EncodeChar c ++ rest < String.utf8EncodeChar d ++ others := by
  have values : c.val.toNat < d.val.toNat := less
  have bounded : d.val.toNat < 1114112 := by
    have valid := d.valid
    unfold UInt32.isValidChar Nat.isValidChar at valid
    omega
  unfold String.utf8EncodeChar
  dsimp only
  generalize c.val.toNat = value at *
  generalize d.val.toNat = greater at *
  -- Either the first bytes tell how many there are, or the digits are compared one by one.
  split_ifs <;>
    simp (disch := omega) only [List.cons_append, List.nil_append, List.cons_lt_cons_iff,
      UInt8.lt_iff_toNat_lt, ← UInt8.toNat_inj, UInt8.toNat_ofNat', Nat.mod_eq_of_lt] <;>
    omega

/-- Lists of characters have bytes in the same order. -/
theorem flatMap_utf8EncodeChar_lt {chars others : List Char} (less : chars < others) :
    chars.flatMap String.utf8EncodeChar < others.flatMap String.utf8EncodeChar := by
  induction less with
  | @nil c rest =>
      rw [List.flatMap_nil, List.flatMap_cons]
      cases written : String.utf8EncodeChar c with
      | nil => exact absurd written String.utf8EncodeChar_ne_nil
      | cons first more => exact List.nil_lt_cons _ _
  | cons _ ih =>
      rw [List.flatMap_cons, List.flatMap_cons]
      exact List.append_left_lt ih
  | rel less =>
      rw [List.flatMap_cons, List.flatMap_cons]
      exact utf8EncodeChar_lt less _ _

/-- Texts are in the order of their bytes. -/
theorem bytes_lt_of_lt {text other : String} (less : text < other) : bytes text < bytes other := by
  rw [bytes_eq, bytes_eq]
  exact flatMap_utf8EncodeChar_lt less

end Text
end StorageTelemetry

import CgroupBench.Text.Utf8
import Mathlib.Data.String.Basic

/-!
# Texts in the order of their bytes

Texts are compared by their characters. In UTF-8 that is the order of their bytes as well: a later
character has either more bytes, with a greater one in front, or as many bytes, of which the first
that differs is greater.
-/
namespace CgroupBench.Text.Utf8

theorem toList_loop (bytes : ByteArray) (start : Nat) (before : List UInt8) :
    ByteArray.toList.loop bytes start before =
      before.reverse ++ bytes.data.toList.drop start := by
  fun_induction ByteArray.toList.loop bytes start before with
  | case1 start before inside ih =>
    have inside : start < bytes.data.toList.length := inside
    have byte : bytes.get! start = bytes.data.toList[start] := by
      show bytes.data[start]! = _
      rw [getElem!_pos bytes.data start inside, Array.getElem_toList]
    rw [ih, byte, List.drop_eq_getElem_cons inside, List.reverse_cons, List.append_assoc,
      List.singleton_append]
  | case2 start before outside =>
    rw [List.drop_eq_nil_of_le (Nat.le_of_not_lt outside), List.append_nil]

/-- The bytes of a text are those of its characters, one after another. -/
theorem encode_eq_flatMap (text : String) :
    encode text = text.toList.flatMap String.utf8EncodeChar := by
  rw [encode, ByteArray.toList, toList_loop, String.toUTF8, ← String.utf8Encode_toList]
  simp [List.utf8Encode]

theorem toNat_lt (c : Char) : c.val.toNat < 0x110000 := by
  rcases c.valid with below | ⟨-, below⟩
  · exact Nat.lt_trans below (by decide)
  · exact below

/-- A later character has later bytes, whatever follows either of them. -/
theorem utf8EncodeChar_lt {c d : Char} (less : c < d) (x y : List UInt8) :
    String.utf8EncodeChar c ++ x < String.utf8EncodeChar d ++ y := by
  have less : c.val.toNat < d.val.toNat := less
  have boundC := toNat_lt c
  have boundD := toNat_lt d
  -- each byte but the last holds what is left after another division by 64
  have twice (n : Nat) : n / 4096 = n / 64 / 64 := by omega
  have thrice (n : Nat) : n / 262144 = n / 64 / 64 / 64 := by omega
  rw [String.utf8EncodeChar.eq_1, String.utf8EncodeChar.eq_1]
  split_ifs <;>
    simp only [List.cons_append, List.nil_append, List.cons_lt_cons_iff, UInt8.lt_iff_toNat_lt,
      ← UInt8.toNat_inj, UInt8.toNat_ofNat', Nat.reducePow, twice, thrice] <;>
    omega

theorem flatMap_utf8EncodeChar_lt {front back : List Char} (less : front < back) :
    front.flatMap String.utf8EncodeChar < back.flatMap String.utf8EncodeChar := by
  induction less with
  | @nil c back =>
    obtain ⟨byte, bytes, written⟩ := List.exists_cons_of_ne_nil (String.utf8EncodeChar_ne_nil (c := c))
    rw [List.flatMap_nil, List.flatMap_cons, written]
    exact List.nil_lt_cons ..
  | rel less => exact utf8EncodeChar_lt less _ _
  | cons _ ih => exact List.append_left_lt ih

theorem encode_lt {front back : String} (less : front < back) : encode front < encode back := by
  rw [encode_eq_flatMap, encode_eq_flatMap]
  exact flatMap_utf8EncodeChar_lt (String.lt_iff_toList_lt.mp less)

end CgroupBench.Text.Utf8

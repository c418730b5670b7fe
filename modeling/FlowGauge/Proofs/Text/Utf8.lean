import Mathlib.Tactic.ByContra
import Mathlib.Tactic.SplitIfs

/-! Texts are in the order of their UTF-8 bytes.

A text is compared character by character. The longer the bytes of a character, the greater is the
first of them, and of characters of one length the bytes are in the order of the characters; so the
first character that differs also decides between the bytes. -/
namespace FlowGauge.Text

/-- The bytes of a text in UTF-8. -/
def utf8 (text : String) : List UInt8 :=
  text.toUTF8.data.toList

theorem utf8_eq_flatMap (text : String) :
    utf8 text = text.toList.flatMap String.utf8EncodeChar := by
  rw [utf8, String.toUTF8_eq_toByteArray, ← String.utf8Encode_toList, List.utf8Encode,
    List.data_toByteArray, List.toList_toArray]

theorem ofNat_cons_lt_cons {a b : Nat} (ha : a < 256) (hb : b < 256) (x y : List UInt8) :
    UInt8.ofNat a :: x < UInt8.ofNat b :: y ↔ a < b ∨ a = b ∧ x < y := by
  rw [List.cons_lt_cons_iff, UInt8.lt_iff_toNat_lt, ← UInt8.toNat_inj,
    UInt8.toNat_ofNat_of_lt' ha, UInt8.toNat_ofNat_of_lt' hb]

theorem toNat_val_lt (c : Char) : c.val.toNat < 1114112 := by
  have valid := c.valid
  simp only [UInt32.isValidChar, Nat.isValidChar] at valid
  omega

/-- Whatever comes after them, the bytes of the smaller character are smaller. -/
theorem utf8EncodeChar_append_lt {c d : Char} (h : c < d) (x y : List UInt8) :
    String.utf8EncodeChar c ++ x < String.utf8EncodeChar d ++ y := by
  have less : c.val.toNat < d.val.toNat := h
  have last := toNat_val_lt d
  -- The first of four bytes takes all that is left of the number, so nothing is cut off.
  have leadC : c.val.toNat / 262144 < 8 := by omega
  have leadD : d.val.toNat / 262144 < 8 := by omega
  simp only [String.utf8EncodeChar, Nat.mod_eq_of_lt leadC, Nat.mod_eq_of_lt leadD]
  -- A case for each two lengths; those where the smaller character is the longer one cannot be.
  split_ifs <;>
    simp (disch := omega) only [List.cons_append, List.nil_append, ofNat_cons_lt_cons] <;> omega

theorem flatMap_utf8EncodeChar_lt {cs ds : List Char} (h : cs < ds) :
    cs.flatMap String.utf8EncodeChar < ds.flatMap String.utf8EncodeChar := by
  induction cs generalizing ds with
  | nil =>
    cases ds with
    | nil => exact absurd h (List.lt_irrefl [])
    | cons d ds =>
      obtain ⟨byte, bytes, encoded⟩ :=
        List.exists_cons_of_ne_nil (String.utf8EncodeChar_ne_nil (c := d))
      rw [List.flatMap_nil, List.flatMap_cons, encoded, List.cons_append]
      exact List.nil_lt_cons _ _
  | cons c cs ih =>
    cases ds with
    | nil => exact absurd h (List.not_lt_nil _)
    | cons d ds =>
      rw [List.flatMap_cons, List.flatMap_cons]
      rcases List.cons_lt_cons_iff.mp h with less | ⟨rfl, rest⟩
      · exact utf8EncodeChar_append_lt less _ _
      · exact List.append_left_lt (ih rest)

theorem utf8_lt_of_lt {s t : String} (h : s < t) : utf8 s < utf8 t := by
  rw [utf8_eq_flatMap, utf8_eq_flatMap]
  exact flatMap_utf8EncodeChar_lt (String.lt_iff.mp h)

theorem utf8_lt_iff (s t : String) : utf8 s < utf8 t ↔ s < t := by
  constructor
  · intro less
    by_contra notLess
    by_cases greater : t < s
    · exact List.lt_asymm less (utf8_lt_of_lt greater)
    · obtain rfl : s = t :=
        String.le_antisymm (String.not_lt.mp greater) (String.not_lt.mp notLess)
      exact List.lt_irrefl _ less
  · exact utf8_lt_of_lt

end FlowGauge.Text

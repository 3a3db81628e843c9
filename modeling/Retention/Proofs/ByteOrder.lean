import Mathlib
import Retention.Proofs.Forms

/-!
# The order of bytes

Texts are ordered by their characters, and `Text.bytes_strictMono` says that this is the order of
the bytes that encode them.  No character's bytes are the first bytes of another's, so the first
character in which two texts differ decides about their bytes as well, whatever comes after it
(`Text.encoded_lt`).
-/

namespace Retention.Text

/-- The bytes of a text, as numbers. -/
def bytes (text : String) : List Nat :=
  text.toUTF8.toList.map UInt8.toNat

theorem toList_toUTF8 (text : String) :
    text.toUTF8.toList = text.toList.flatMap String.utf8EncodeChar := by
  rw [toList_eq_data]
  change text.toByteArray.data.toList = _
  rw [← String.utf8Encode_toList, List.utf8Encode, List.toList_data_toByteArray]

/-- The character with the lower number has the lower bytes. -/
theorem encoded_lt {c d : Char} (less : c < d) (xs ys : List UInt8) :
    String.utf8EncodeChar c ++ xs < String.utf8EncodeChar d ++ ys := by
  have number : c.val.toNat < d.val.toNat := UInt32.lt_iff_toNat_lt.mp less
  have valid : d.val.toNat < 1114112 := by
    rcases d.valid with low | high
    · exact Nat.lt_trans low (by decide)
    · exact high.2
  unfold String.utf8EncodeChar
  simp only
  generalize c.val.toNat = m at *
  generalize d.val.toNat = n at *
  -- Numbers differ first in some digit to the base of 64, and a byte after the first holds one.
  have third : m / 64 < n / 64 ∨ m / 64 = n / 64 ∧ m % 64 < n % 64 := by omega
  have second : m / 64 < n / 64 →
      m / 4096 < n / 4096 ∨ m / 4096 = n / 4096 ∧ m / 64 % 64 < n / 64 % 64 := by omega
  have first : m / 4096 < n / 4096 →
      m / 262144 < n / 262144 ∨ m / 262144 = n / 262144 ∧ m / 4096 % 64 < n / 4096 % 64 := by omega
  have top : m / 262144 % 8 = m / 262144 ∧ n / 262144 % 8 = n / 262144 := by omega
  split_ifs
  all_goals
    simp (disch := unfold UInt8.size; omega) only [List.cons_append, List.nil_append,
      List.cons_lt_cons_iff, UInt8.lt_iff_toNat_lt, ← UInt8.toNat_inj, UInt8.toNat_ofNat_of_lt']
    omega

theorem flatMap_encoded_lt {cs ds : List Char} (less : cs < ds) :
    cs.flatMap String.utf8EncodeChar < ds.flatMap String.utf8EncodeChar := by
  induction cs generalizing ds with
  | nil =>
    cases ds with
    | nil => exact (List.lt_irrefl _ less).elim
    | cons d ds =>
      obtain ⟨first, rest, encoded⟩ :=
        List.exists_cons_of_ne_nil (String.utf8EncodeChar_ne_nil (c := d))
      rw [List.flatMap_cons, encoded]
      exact .nil
  | cons c cs ih =>
    cases ds with
    | nil => exact (List.not_lt_nil _ less).elim
    | cons d ds =>
      rw [List.flatMap_cons, List.flatMap_cons]
      rcases List.cons_lt_cons_iff.mp less with smaller | ⟨rfl, later⟩
      · exact encoded_lt smaller _ _
      · exact List.append_left_lt (ih later)

/-- The lesser text has the lesser bytes. -/
theorem toUTF8_lt {a b : String} (less : a < b) : a.toUTF8.toList < b.toUTF8.toList := by
  rw [toList_toUTF8, toList_toUTF8]
  exact flatMap_encoded_lt (String.lt_iff_toList_lt.mp less)

/-- Texts are ordered as their bytes are. -/
theorem bytes_strictMono : StrictMono bytes :=
  fun _ _ less => List.map_lt (fun _ _ => UInt8.lt_iff_toNat_lt.mp) (toUTF8_lt less)

end Retention.Text

import TextTemplate.Text.Encoding

/-!
The order of texts is the order of their bytes.

Texts are compared character by character.  Encodings of characters of the same length differ first in a
digit of their code points, and of two lengths the longer begins with the greater byte; so no comparison of
encodings ever looks past the character in which two texts differ.

* `utf8EncodeChar_append_lt`: the encoding of a lesser character is less, whatever follows it.
* `bytes_lt`: a lesser text has lesser bytes.
-/

namespace TextTemplate.Text

/-- The bytes of a text, one by one. -/
def bytes (text : String) : List UInt8 := text.toUTF8.data.toList

theorem bytes_ofList (cs : List Char) : bytes (String.ofList cs) = cs.flatMap String.utf8EncodeChar := by
  unfold bytes
  rw [String.toUTF8_eq_toByteArray, String.toByteArray_ofList]
  exact List.toList_data_toByteArray

theorem utf8EncodeChar_append_lt {c d : Char} (less : c < d) (rest rest' : List UInt8) :
    String.utf8EncodeChar c ++ rest < String.utf8EncodeChar d ++ rest' := by
  have lessNat : c.val.toNat < d.val.toNat := less
  have bounded := toNat_val_lt d
  have digits (n : Nat) : n / 4096 = n / 64 / 64 ∧ n / 262144 = n / 64 / 64 / 64 := by omega
  unfold String.utf8EncodeChar
  simp only [digits]
  generalize c.val.toNat = v at lessNat
  generalize d.val.toNat = w at lessNat bounded
  -- One case for every pair of lengths.
  repeat' split
  all_goals
    simp only [List.cons_append, List.nil_append, List.cons_lt_cons_iff, UInt8.lt_iff_toNat_lt,
      ← UInt8.toNat_inj, UInt8.toNat_ofNat']
    omega

theorem flatMap_utf8EncodeChar_lt {cs ds : List Char} (less : cs < ds) :
    cs.flatMap String.utf8EncodeChar < ds.flatMap String.utf8EncodeChar := by
  induction less with
  | @nil d ds =>
    obtain ⟨b, bs, encoded⟩ := List.exists_cons_of_ne_nil (String.utf8EncodeChar_ne_nil (c := d))
    rw [List.flatMap_nil, List.flatMap_cons, encoded]
    exact List.nil_lt_cons ..
  | rel less => exact utf8EncodeChar_append_lt less ..
  | cons _ ih => exact List.append_left_lt ih

/-- **Texts are in the order of their bytes.** -/
theorem bytes_lt {s t : String} (less : s < t) : bytes s < bytes t := by
  rw [← String.ofList_toList (s := s), ← String.ofList_toList (s := t), bytes_ofList, bytes_ofList]
  exact flatMap_utf8EncodeChar_lt less

end TextTemplate.Text

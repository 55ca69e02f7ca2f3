import TextTemplate.Text.Slice

/-!
Finding ASCII characters in a text by their bytes.

* `indexOf?_append_cons`, `indexOf?_append_cons_same`: no byte inside another character is taken for an
  ASCII character, so the search for its byte walks over whole characters.
* `getElem?_eq_some_iff`: wherever the byte of an ASCII character stands, the character stands.
-/

namespace TextTemplate.Text

theorem toNat_val_lt (c : Char) : c.val.toNat < 0x110000 := by
  have valid : c.val.toNat.isValidChar := c.valid
  unfold Nat.isValidChar at valid
  omega

/-- An ASCII character shares no byte with another character. -/
theorem eq_of_mem_utf8EncodeChar {c ascii : Char} (small : ascii.val ≤ 127)
    (mem : ascii.toUInt8 ∈ String.utf8EncodeChar c) : c = ascii := by
  have smallNat : ascii.val.toNat ≤ 127 := UInt32.le_iff_toNat_le.1 small
  have byte : ascii.toUInt8.toNat = ascii.val.toNat := by
    change ascii.val.toUInt8.toNat = _
    rw [UInt32.toNat_toUInt8]
    omega
  have bounded := toNat_val_lt c
  have key : ∀ n : Nat, ascii.toUInt8 = UInt8.ofNat n → ascii.val.toNat = n % 256 := by
    intro n h
    rw [← byte, h, UInt8.toNat_ofNat']
  unfold String.utf8EncodeChar at mem
  simp only at mem
  split at mem
  · simp only [List.mem_singleton] at mem
    have := key _ mem
    apply Char.ext
    apply UInt32.toNat_inj.1
    omega
  · exfalso
    split at mem
    · simp only [List.mem_cons, List.not_mem_nil, or_false] at mem
      rcases mem with mem | mem <;> have := key _ mem <;> omega
    · split at mem
      · simp only [List.mem_cons, List.not_mem_nil, or_false] at mem
        rcases mem with mem | mem | mem <;> have := key _ mem <;> omega
      · simp only [List.mem_cons, List.not_mem_nil, or_false] at mem
        rcases mem with mem | mem | mem | mem <;> have := key _ mem <;> omega

/-- The bytes from the end of `before` on are those of what comes after it. -/
theorem getElem?_append_size (before after : String) (k : Nat) :
    (before ++ after).toUTF8[before.utf8ByteSize + k]? = after.toUTF8[k]? := by
  have total : (before ++ after).toUTF8 = before.toUTF8 ++ after.toUTF8 := String.toByteArray_append
  have size : before.toUTF8.size = before.utf8ByteSize := rfl
  rw [total]
  by_cases inside : k < after.toUTF8.size
  · have here : before.utf8ByteSize + k < (before.toUTF8 ++ after.toUTF8).size := by
      rw [ByteArray.size_append]
      omega
    rw [getElem?_pos (before.toUTF8 ++ after.toUTF8) _ here, getElem?_pos after.toUTF8 _ inside,
      ByteArray.getElem_append_right (by omega)]
    simp
  · have past : ¬ before.utf8ByteSize + k < (before.toUTF8 ++ after.toUTF8).size := by
      rw [ByteArray.size_append]
      omega
    rw [getElem?_neg (before.toUTF8 ++ after.toUTF8) _ past, getElem?_neg after.toUTF8 _ inside]

/-- The first bytes of a text are those of its first character. -/
theorem getElem?_ofList_cons {c : Char} {cs : List Char} {k : Nat} (inside : k < c.utf8Size) :
    (String.ofList (c :: cs)).toUTF8[k]? = (String.utf8EncodeChar c)[k]? := by
  have total : (String.ofList (c :: cs)).toUTF8 =
      (String.utf8EncodeChar c).toByteArray ++ cs.utf8Encode := by
    rw [String.toUTF8_eq_toByteArray, String.toByteArray_ofList, List.utf8Encode_cons,
      List.utf8Encode_singleton]
  have size : (String.utf8EncodeChar c).toByteArray.size = c.utf8Size := by
    rw [List.size_toByteArray, String.length_utf8EncodeChar]
  have here : k < ((String.utf8EncodeChar c).toByteArray ++ cs.utf8Encode).size := by
    rw [ByteArray.size_append]
    omega
  have here' : k < (String.utf8EncodeChar c).length := by
    rw [String.length_utf8EncodeChar]
    exact inside
  rw [total, getElem?_pos ((String.utf8EncodeChar c).toByteArray ++ cs.utf8Encode) _ here,
    ByteArray.getElem_append_left (by omega),
    List.getElem_toByteArray, List.getElem?_eq_getElem here']

/-- A byte of an ASCII character in the rest of a text is that character. -/
theorem charAt?_of_getElem? {ascii : Char} (small : ascii.val ≤ 127) (before : String) {cs : List Char}
    {k : Nat}
    (found : (before ++ String.ofList cs).toUTF8[before.utf8ByteSize + k]? = some ascii.toUInt8) :
    charAt? (before ++ String.ofList cs) (before.utf8ByteSize + k) = some ascii := by
  induction cs generalizing before k with
  | nil =>
    rw [getElem?_append_size] at found
    cases found
  | cons c cs ih =>
    have split : before ++ String.ofList (c :: cs) = before ++ String.singleton c ++ String.ofList cs := by
      rw [String.ofList_cons, String.append_assoc]
    by_cases inside : k < c.utf8Size
    · rw [getElem?_append_size, getElem?_ofList_cons inside] at found
      obtain rfl := eq_of_mem_utf8EncodeChar small (List.mem_of_getElem? found)
      have size : c.utf8Size = 1 := Char.utf8Size_eq_one_iff.2 small
      exact charAt?_eq_some_iff.2 ⟨before, String.ofList cs, split, by omega⟩
    · -- The byte stands behind the first character.
      have moved : before.utf8ByteSize + k =
          (before ++ String.singleton c).utf8ByteSize + (k - c.utf8Size) := by
        rw [String.utf8ByteSize_append, String.utf8ByteSize_singleton]
        omega
      rw [split, moved] at found ⊢
      exact ih _ found

/-- **The byte of an ASCII character is that character**, wherever in a text it stands. -/
theorem getElem?_eq_some_iff {text : String} {ascii : Char} (small : ascii.val ≤ 127) {i : Nat} :
    text.toUTF8[i]? = some ascii.toUInt8 ↔ charAt? text i = some ascii := by
  constructor
  · intro found
    rw [← String.ofList_toList (s := text), ← String.empty_append (s := String.ofList text.toList),
      ← Nat.zero_add i] at found ⊢
    exact charAt?_of_getElem? small "" found
  · intro stands
    obtain ⟨before, after, rfl, rfl⟩ := charAt?_eq_some_iff.1 stands
    have size : ascii.utf8Size = 1 := Char.utf8Size_eq_one_iff.2 small
    have here := getElem?_append_size before (String.ofList (ascii :: after.toList)) 0
    rw [getElem?_ofList_cons (by omega), String.utf8EncodeChar_eq_singleton size, String.ofList_cons,
      String.ofList_toList, ← String.append_assoc] at here
    exact here

theorem indexOf?_skip {bytes : ByteArray} {b : UInt8} {start count : Nat}
    (absent : ∀ k, k < count → bytes[start + k]? ≠ some b) (inside : start + count ≤ bytes.size) :
    indexOf? bytes b start = indexOf? bytes b (start + count) := by
  induction count with
  | zero => rfl
  | succ count ih =>
    rw [ih (fun k h => absent k (by omega)) (by omega)]
    have here : start + count < bytes.size := by omega
    have := absent count (by omega)
    rw [getElem?_pos bytes _ here] at this
    rw [indexOf?, dif_pos here, if_neg (by simpa using this)]
    rfl

/-- Searching the byte of an ASCII character passes over every other character. -/
theorem indexOf?_append_cons {before : String} {c ascii : Char} {cs : List Char} (small : ascii.val ≤ 127)
    (other : c ≠ ascii) :
    indexOf? (before ++ String.ofList (c :: cs)).toUTF8 ascii.toUInt8 before.utf8ByteSize =
      indexOf? (before ++ String.ofList (c :: cs)).toUTF8 ascii.toUInt8
        (before.utf8ByteSize + c.utf8Size) := by
  apply indexOf?_skip
  · intro k h found
    rw [getElem?_append_size] at found
    apply other
    rw [getElem?_ofList_cons h] at found
    exact eq_of_mem_utf8EncodeChar small (List.mem_of_getElem? found)
  · rw [String.ofList_cons]
    simp only [String.toUTF8_eq_toByteArray, String.toByteArray_append, ByteArray.size_append,
      String.size_toByteArray, String.utf8ByteSize_singleton]
    omega

/-- Searching the byte of an ASCII character stops at that character. -/
theorem indexOf?_append_cons_same {before : String} {ascii : Char} {cs : List Char}
    (small : ascii.val ≤ 127) :
    indexOf? (before ++ String.ofList (ascii :: cs)).toUTF8 ascii.toUInt8 before.utf8ByteSize =
      some before.utf8ByteSize := by
  have size : ascii.utf8Size = 1 := Char.utf8Size_eq_one_iff.2 small
  have here := getElem?_append_size before (String.ofList (ascii :: cs)) 0
  rw [getElem?_ofList_cons (by omega), String.utf8EncodeChar_eq_singleton size] at here
  exact indexOf?_eq_some_iff.2 ⟨Nat.le_refl _, here, fun j low high => by omega⟩

theorem indexOf?_append_nil {before : String} {b : UInt8} :
    indexOf? (before ++ String.ofList []).toUTF8 b before.utf8ByteSize = none := by
  rw [indexOf?, dif_neg]
  have : (before ++ String.ofList []).toUTF8.size = before.utf8ByteSize := by simp
  omega

end TextTemplate.Text

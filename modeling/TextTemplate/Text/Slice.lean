/-!
Parts of a text addressed by byte offsets.

A request for a part is checked: offsets that are out of range, backwards or inside a character
are refused.

* `slice_eq_ok_iff`: a request succeeds exactly for the middle of a decomposition of the text into
  three texts, measured in bytes.
* `indexOf?_eq_some_iff`: the search finds the first byte.
-/

namespace TextTemplate.Text

/-- A refused request: the offsets leave the text, run backwards or cut a character. -/
structure SliceError where
  start : Nat
  stop : Nat
deriving DecidableEq, Repr

/-- The part of `text` between two byte offsets. -/
def slice (text : String) (start stop : Nat) : Except SliceError String :=
  if h : String.Pos.Raw.IsValid text ⟨start⟩ ∧ String.Pos.Raw.IsValid text ⟨stop⟩ ∧ start ≤ stop then
    .ok (text.extract (text.pos ⟨start⟩ h.1) (text.pos ⟨stop⟩ h.2.1))
  else
    .error ⟨start, stop⟩

/-- The character that starts at a byte offset, if one does. -/
def charAt? (text : String) (offset : Nat) : Option Char :=
  if h : String.Pos.Raw.IsValid text ⟨offset⟩ then
    let pos := text.pos ⟨offset⟩ h
    if inside : pos ≠ text.endPos then some (pos.get inside) else none
  else
    none

/-- Offset of the first byte `b` at or after `start`. -/
def indexOf? (bytes : ByteArray) (b : UInt8) (start : Nat) : Option Nat :=
  if h : start < bytes.size then
    if bytes[start] = b then some start else indexOf? bytes b (start + 1)
  else
    none
termination_by bytes.size - start

/-! ### Slices -/

theorem slice_eq_ok_iff {text part : String} {start stop : Nat} :
    slice text start stop = .ok part ↔
      ∃ before after, text = before ++ part ++ after ∧
        before.utf8ByteSize = start ∧ (before ++ part).utf8ByteSize = stop := by
  constructor
  · intro h
    unfold slice at h
    split at h
    · rename_i valid
      obtain ⟨validStart, validStop, ordered⟩ := valid
      obtain ⟨before, after, split, startEq⟩ := String.Pos.Raw.isValid_iff_exists_append.1 validStart
      obtain ⟨upto, rest, split', stopEq⟩ := String.Pos.Raw.isValid_iff_exists_append.1 validStop
      injection h with h
      have startEq : start = before.utf8ByteSize := congrArg String.Pos.Raw.byteIdx startEq
      have stopEq : stop = upto.utf8ByteSize := congrArg String.Pos.Raw.byteIdx stopEq
      have key : before ++ part = upto := by
        apply String.toByteArray_inj.1
        rw [← h, String.toByteArray_append]
        change _ ++ text.toByteArray.extract start stop = _
        have whole : text.toByteArray.extract 0 stop = upto.toByteArray := by
          rw [split', String.toByteArray_append]
          exact ByteArray.extract_append_eq_left stopEq
        have head : text.toByteArray.extract 0 start = before.toByteArray := by
          rw [split, String.toByteArray_append]
          exact ByteArray.extract_append_eq_left startEq
        rw [← whole, ← head]
        ext1
        simp [ByteArray.data_extract, ordered]
      exact ⟨before, rest, by rw [key]; exact split', startEq.symm, by rw [key, stopEq]⟩
    · cases h
  · rintro ⟨before, after, rfl, rfl, rfl⟩
    have validStart : String.Pos.Raw.IsValid (before ++ part ++ after) ⟨before.utf8ByteSize⟩ :=
      String.Pos.Raw.isValid_iff_exists_append.2 ⟨before, part ++ after, by simp [String.append_assoc], rfl⟩
    have validStop : String.Pos.Raw.IsValid (before ++ part ++ after) ⟨(before ++ part).utf8ByteSize⟩ :=
      String.Pos.Raw.isValid_iff_exists_append.2 ⟨before ++ part, after, rfl, rfl⟩
    have ordered : before.utf8ByteSize ≤ (before ++ part).utf8ByteSize := by
      simp [String.utf8ByteSize_append]
    unfold slice
    rw [dif_pos ⟨validStart, validStop, ordered⟩]
    congr 1
    apply String.toByteArray_inj.1
    change (before ++ part ++ after).toByteArray.extract before.utf8ByteSize
      (before ++ part).utf8ByteSize = part.toByteArray
    rw [String.toByteArray_append, String.utf8ByteSize_append, ByteArray.extract_append]
    have past : after.toByteArray.extract (before.utf8ByteSize - (before ++ part).toByteArray.size)
        (before.utf8ByteSize + part.utf8ByteSize - (before ++ part).toByteArray.size) = ByteArray.empty := by
      simp
    rw [past, String.toByteArray_append]
    exact (ByteArray.append_empty).trans (ByteArray.extract_append_eq_right rfl rfl)

theorem add_size_of_slice {text part : String} {start stop : Nat}
    (taken : slice text start stop = .ok part) : start + part.utf8ByteSize = stop := by
  obtain ⟨before, after, -, rfl, rfl⟩ := slice_eq_ok_iff.1 taken
  rw [String.utf8ByteSize_append]

/-! ### Characters -/

theorem charAt?_eq_some_iff {text : String} {offset : Nat} {c : Char} :
    charAt? text offset = some c ↔
      ∃ before after, text = before ++ String.singleton c ++ after ∧ before.utf8ByteSize = offset := by
  constructor
  · intro h
    unfold charAt? at h
    split at h
    · rename_i valid
      simp only at h
      split at h
      · rename_i inside
        injection h with h
        have splits := String.Pos.splits (text.pos ⟨offset⟩ valid)
        obtain ⟨rest, restEq⟩ := splits.exists_eq_singleton_append inside
        rw [h] at restEq
        refine ⟨_, rest, ?_, (congrArg String.Pos.Raw.byteIdx splits.offset_eq_rawEndPos).symm⟩
        rw [String.append_assoc, ← restEq]
        exact splits.eq_append
      · cases h
    · cases h
  · rintro ⟨before, after, rfl, rfl⟩
    have valid : String.Pos.Raw.IsValid (before ++ String.singleton c ++ after) ⟨before.utf8ByteSize⟩ :=
      String.Pos.Raw.isValid_iff_exists_append.2
        ⟨before, String.singleton c ++ after, String.append_assoc .., rfl⟩
    have splits : (String.pos (before ++ String.singleton c ++ after) ⟨before.utf8ByteSize⟩ valid).Splits
        before (String.singleton c ++ after) := ⟨String.append_assoc .., rfl⟩
    unfold charAt?
    rw [dif_pos valid]
    simp only
    split
    · rename_i inside
      obtain ⟨rest, restEq⟩ := splits.exists_eq_singleton_append inside
      have := congrArg String.toList restEq
      simp at this
      simp [this.1]
    · rename_i outside
      exfalso
      have atEnd := Classical.not_not.1 outside
      rw [atEnd] at splits
      have := congrArg String.toList ((String.splits_endPos _).eq splits).2
      simp at this

theorem lt_size_of_charAt? {text : String} {offset : Nat} {c : Char}
    (stands : charAt? text offset = some c) : offset < text.utf8ByteSize := by
  obtain ⟨before, after, rfl, rfl⟩ := charAt?_eq_some_iff.1 stands
  have positive := c.utf8Size_pos
  rw [String.utf8ByteSize_append, String.utf8ByteSize_append, String.utf8ByteSize_singleton]
  omega

theorem exists_charAt?_of_mem {text : String} {c : Char} (mem : c ∈ text.toList) :
    ∃ offset, charAt? text offset = some c := by
  obtain ⟨before, after, split⟩ := List.append_of_mem mem
  have whole : text = String.ofList before ++ String.singleton c ++ String.ofList after :=
    String.toList_inj.1 (by simp [split])
  exact ⟨_, charAt?_eq_some_iff.2 ⟨_, _, whole, rfl⟩⟩

theorem mem_of_charAt? {text : String} {offset : Nat} {c : Char} (stands : charAt? text offset = some c) :
    c ∈ text.toList := by
  obtain ⟨before, after, rfl, -⟩ := charAt?_eq_some_iff.1 stands
  simp

theorem charAt?_singleton {c d : Char} {k : Nat} (stands : charAt? (String.singleton c) k = some d) :
    k = 0 ∧ d = c := by
  obtain ⟨before, after, split, rfl⟩ := charAt?_eq_some_iff.1 stands
  have single := congrArg String.toList split
  simp only [String.toList_singleton, String.toList_append, List.append_assoc, List.singleton_append] at single
  rcases List.cons_eq_append_iff.1 single with ⟨none, only⟩ | ⟨more, -, none⟩
  · have empty : before = "" := String.toList_inj.1 none
    simp only [List.cons.injEq] at only
    rw [empty]
    exact ⟨rfl, only.1⟩
  · simp at none

/-- A character of two texts in a row stands in the first or in the second. -/
theorem charAt?_append {s t : String} {c : Char} {k : Nat} (stands : charAt? (s ++ t) k = some c) :
    (charAt? s k = some c ∧ k < s.utf8ByteSize) ∨
      (charAt? t (k - s.utf8ByteSize) = some c ∧ s.utf8ByteSize ≤ k) := by
  obtain ⟨before, after, split, rfl⟩ := charAt?_eq_some_iff.1 stands
  have lists := congrArg String.toList split
  simp only [String.toList_append, String.toList_singleton, List.append_assoc, List.singleton_append] at lists
  rcases List.append_eq_append_iff.1 lists with ⟨gap, first, second⟩ | ⟨gap, first, second⟩
  · have beforeEq : before = s ++ String.ofList gap := String.toList_inj.1 (by simp [first])
    have tEq : t = String.ofList gap ++ String.singleton c ++ after := String.toList_inj.1 (by simp [second])
    rw [beforeEq, String.utf8ByteSize_append]
    exact .inr ⟨charAt?_eq_some_iff.2 ⟨_, after, tEq, by omega⟩, by omega⟩
  · cases gap with
    | nil =>
      have sEq : s = before := String.toList_inj.1 (by simp [first])
      have tEq : t = "" ++ String.singleton c ++ after := String.toList_inj.1 (by simpa using second.symm)
      rw [sEq]
      exact .inr ⟨charAt?_eq_some_iff.2 ⟨"", after, tEq, by simp⟩, by omega⟩
    | cons d gap =>
      simp only [List.cons_append, List.cons.injEq] at second
      obtain ⟨rfl, -⟩ := second
      have sEq : s = before ++ String.singleton c ++ String.ofList gap :=
        String.toList_inj.1 (by simp [first])
      have positive := c.utf8Size_pos
      refine .inl ⟨charAt?_eq_some_iff.2 ⟨before, _, sEq, rfl⟩, ?_⟩
      rw [sEq, String.utf8ByteSize_append, String.utf8ByteSize_append, String.utf8ByteSize_singleton]
      omega

/-- A character that stands within a part stands in the part. -/
theorem charAt?_of_slice {text part : String} {start stop i : Nat} {c : Char}
    (taken : slice text start stop = .ok part) (stands : charAt? text i = some c) (low : start ≤ i)
    (high : i < stop) : charAt? part (i - start) = some c := by
  obtain ⟨before, after, rfl, rfl, rfl⟩ := slice_eq_ok_iff.1 taken
  rcases charAt?_append stands with ⟨stands, -⟩ | ⟨-, past⟩
  · rcases charAt?_append stands with ⟨-, early⟩ | ⟨stands, -⟩
    · omega
    · exact stands
  · omega

/-- A character of a part is one of the text. -/
theorem charAt?_add_of_slice {text part : String} {start stop k : Nat} {c : Char}
    (taken : slice text start stop = .ok part) (stands : charAt? part k = some c) :
    charAt? text (start + k) = some c := by
  obtain ⟨before, after, rfl, rfl, -⟩ := slice_eq_ok_iff.1 taken
  obtain ⟨before', after', rfl, rfl⟩ := charAt?_eq_some_iff.1 stands
  refine charAt?_eq_some_iff.2 ⟨before ++ before', after' ++ after, ?_, String.utf8ByteSize_append⟩
  simp only [String.append_assoc]

/-- What follows a character can be taken. -/
theorem exists_slice_of_charAt? {text : String} {offset : Nat} {c : Char}
    (stands : charAt? text offset = some c) :
    ∃ rest, slice text (offset + c.utf8Size) text.utf8ByteSize = .ok rest := by
  obtain ⟨before, after, rfl, rfl⟩ := charAt?_eq_some_iff.1 stands
  refine ⟨after, slice_eq_ok_iff.2 ⟨before ++ String.singleton c, "", ?_, ?_, rfl⟩⟩
  · rw [String.append_empty]
  · rw [String.utf8ByteSize_append, String.utf8ByteSize_singleton]

/-! ### Search -/

theorem le_of_indexOf? {bytes : ByteArray} {b : UInt8} {start i : Nat}
    (h : indexOf? bytes b start = some i) : start ≤ i ∧ i < bytes.size := by
  fun_induction indexOf? bytes b start with
  | case1 start inside found => injection h with h; omega
  | case2 start inside other ih => have := ih h; omega
  | case3 => cases h

theorem indexOf?_eq_some_iff {bytes : ByteArray} {b : UInt8} {start i : Nat} :
    indexOf? bytes b start = some i ↔
      start ≤ i ∧ bytes[i]? = some b ∧ ∀ j, start ≤ j → j < i → bytes[j]? ≠ some b := by
  fun_induction indexOf? bytes b start with
  | case1 start inside found =>
    constructor
    · rintro ⟨⟩
      exact ⟨Nat.le_refl _, by simp [getElem?_pos, inside, found], fun j _ _ => by omega⟩
    · rintro ⟨after, _, least⟩
      rcases Nat.lt_or_ge start i with before | after'
      · exact absurd (by simp [getElem?_pos, inside, found]) (least start (Nat.le_refl _) before)
      · exact congrArg some (by omega)
  | case2 start inside other ih =>
    rw [ih]
    constructor
    · rintro ⟨after, at_, least⟩
      refine ⟨by omega, at_, fun j low high => ?_⟩
      rcases Nat.lt_or_ge start j with past | here
      · exact least j past high
      · have : j = start := by omega
        subst this
        simp [getElem?_pos, inside, other]
    · rintro ⟨after, at_, least⟩
      refine ⟨?_, at_, fun j low high => least j (by omega) high⟩
      rcases Nat.lt_or_ge start i with past | here
      · exact past
      · have : i = start := by omega
        subst this
        simp [getElem?_pos, inside, other] at at_
  | case3 start outside =>
    simp only [reduceCtorEq, false_iff, not_and]
    intro after at_
    have : ¬ i < bytes.size := by omega
    simp [getElem?_neg, this] at at_

end TextTemplate.Text

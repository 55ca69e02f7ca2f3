/-!
Reading bytes as text.

Bytes that are no well-formed text are reported with the place of the first ill-formed part and its
length, or read with U+FFFD in place of every ill-formed part.  An ill-formed part is maximal: it is
the longest start of a character that the bytes spell before they stop making sense.

* `decode_eq_ok_iff`: reading gives a text exactly when the bytes are its encoding.
* `decode_eq_error_iff`: reading fails exactly when the bytes are the encoding of no text.
-/

namespace TextTemplate.Text.Utf8

/-- The first ill-formed part of a byte sequence.  `length` is `none` when the bytes end inside a
character. -/
structure Fault where
  start : Nat
  length : Option Nat
deriving DecidableEq, Repr

def Fault.message : Fault → String
  | ⟨start, some length⟩ => s!"invalid utf-8 sequence of {length} bytes from index {start}"
  | ⟨start, none⟩ => s!"incomplete utf-8 byte sequence from index {start}"

/-- What a lead byte asks for: how many bytes follow it, and the range of the first of them. -/
structure Lead where
  following : Nat
  low : UInt8
  high : UInt8

def Lead.of? (b : UInt8) : Option Lead :=
  if b < 0xC2 then none
  else if b ≤ 0xDF then some ⟨1, 0x80, 0xBF⟩
  else if b = 0xE0 then some ⟨2, 0xA0, 0xBF⟩
  else if b = 0xED then some ⟨2, 0x80, 0x9F⟩
  else if b ≤ 0xEF then some ⟨2, 0x80, 0xBF⟩
  else if b = 0xF0 then some ⟨3, 0x90, 0xBF⟩
  else if b ≤ 0xF3 then some ⟨3, 0x80, 0xBF⟩
  else if b = 0xF4 then some ⟨3, 0x80, 0x8F⟩
  else none

/-- How many of the bytes that stand after a lead byte continue its character. -/
def Lead.continued (lead : Lead) (rest : List UInt8) : Nat :=
  match rest.take lead.following with
  | [] => 0
  | b :: more =>
    if lead.low ≤ b ∧ b ≤ lead.high then
      1 + (more.takeWhile fun c => 0x80 ≤ c ∧ c ≤ 0xBF).length
    else
      0

/-- Length of the ill-formed part that starts at `start`, `none` when the bytes end inside it. -/
def partLength (bytes : ByteArray) (start : Nat) : Option Nat :=
  match bytes[start]?.bind Lead.of? with
  | none => some 1
  | some lead =>
    let rest := (bytes.extract (start + 1) (start + 1 + lead.following)).data.toList
    let length := 1 + lead.continued rest
    if start + length = bytes.size then none else some length

/-- Where reading characters from `start` on stops. -/
def stopFrom (bytes : ByteArray) (start : Nat) : Fault :=
  if start < bytes.size then
    match bytes.utf8DecodeChar? start with
    | some c => stopFrom bytes (start + c.utf8Size)
    | none => ⟨start, partLength bytes start⟩
  else
    ⟨start, none⟩
termination_by bytes.size - start
decreasing_by have := c.utf8Size_pos; omega

/-- The text that the bytes spell, or the first place where they spell none. -/
def decode (bytes : ByteArray) : Except Fault String :=
  if h : bytes.IsValidUTF8 then
    .ok (String.fromUTF8 bytes h)
  else
    .error (stopFrom bytes 0)

/-- The text from `start` on, with U+FFFD for every ill-formed part. -/
def lossyFrom (bytes : ByteArray) (start : Nat) : List Char :=
  if start < bytes.size then
    match bytes.utf8DecodeChar? start with
    | some c => c :: lossyFrom bytes (start + c.utf8Size)
    | none =>
      match partLength bytes start with
      | some length => '\uFFFD' :: lossyFrom bytes (start + max 1 length)
      | none => ['\uFFFD']
  else
    []
termination_by bytes.size - start
decreasing_by
  · have := c.utf8Size_pos; omega
  · omega

def lossy (bytes : ByteArray) : String := String.ofList (lossyFrom bytes 0)

theorem decode_eq_ok_iff {bytes : ByteArray} {text : String} :
    decode bytes = .ok text ↔ bytes = text.toUTF8 := by
  unfold decode
  constructor
  · intro h
    split at h
    · injection h with h
      rw [← h]
      rfl
    · cases h
  · rintro rfl
    rw [String.toUTF8_eq_toByteArray, dif_pos text.isValidUTF8]
    rfl

theorem decode_eq_error_iff {bytes : ByteArray} {fault : Fault} :
    decode bytes = .error fault ↔ (∀ text : String, bytes ≠ text.toUTF8) ∧ fault = stopFrom bytes 0 := by
  constructor
  · intro failed
    constructor
    · intro text spelled
      rw [decode_eq_ok_iff.2 spelled] at failed
      cases failed
    · unfold decode at failed
      split at failed
      · cases failed
      · injection failed with failed
        exact failed.symm
  · rintro ⟨noText, rfl⟩
    unfold decode
    rw [dif_neg]
    intro valid
    exact noText (String.fromUTF8 bytes valid) rfl

end TextTemplate.Text.Utf8

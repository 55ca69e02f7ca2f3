import TextTemplate.Text.Record

/-!
The character that introduces a reference.

* `Marker.ofChar_eq_ok_iff`, `Marker.ofText_eq_ok_iff`: exactly the ASCII punctuation characters other
  than the two braces serve, given alone.
-/

namespace TextTemplate

def openBrace : Char := '\x7b'

def closeBrace : Char := '\x7d'

@[simp] theorem utf8Size_openBrace : openBrace.utf8Size = 1 := rfl

@[simp] theorem utf8Size_closeBrace : closeBrace.utf8Size = 1 := rfl

/-- The printable ASCII characters that are neither letters nor digits nor the blank. -/
def isPunctuation (c : Char) : Bool :=
  ('!' ≤ c && c ≤ '/') || (':' ≤ c && c ≤ '@') || ('[' ≤ c && c ≤ '\u0060') ||
    ('\x7b' ≤ c && c ≤ '~')

def servesAsMarker (c : Char) : Bool := isPunctuation c && c != openBrace && c != closeBrace

/-- A marker is one ASCII punctuation character other than a brace, so it is a single byte, never part
of another character, and never confused with the braces of the long form. -/
structure Marker where
  char : Char
  serves : servesAsMarker char = true
deriving DecidableEq

/-- A text that was offered as a marker and is none. -/
structure InvalidMarker where
  offered : String
deriving DecidableEq, Repr

def InvalidMarker.message (e : InvalidMarker) : String :=
  "invalid marker `" ++ e.offered ++
    "`: expected one ASCII punctuation character other than `\x7b` or `\x7d`"

namespace Marker

instance : Inhabited Marker := ⟨⟨'@', rfl⟩⟩

def byte (m : Marker) : UInt8 := m.char.toUInt8

def ofChar (c : Char) : Except InvalidMarker Marker :=
  if h : servesAsMarker c = true then .ok ⟨c, h⟩ else .error ⟨String.singleton c⟩

def ofText (s : String) : Except InvalidMarker Marker :=
  match s.toList with
  | [c] => ofChar c
  | _ => .error ⟨s⟩

/-- The marker as a text of its own. -/
def text (m : Marker) : String := String.singleton m.char

def record (m : Marker) : Text.Record := .word ("Marker(" ++ Text.Quoted.char m.char ++ ")")

theorem ofChar_eq_ok_iff {c : Char} {m : Marker} :
    ofChar c = .ok m ↔ servesAsMarker c = true ∧ m.char = c := by
  unfold ofChar
  constructor
  · intro h
    split at h
    · rename_i serves
      injection h with h
      exact ⟨serves, by rw [← h]⟩
    · cases h
  · rintro ⟨serves, rfl⟩
    rw [dif_pos serves]

theorem ofText_eq_ok_iff {s : String} {m : Marker} :
    ofText s = .ok m ↔ s = String.singleton m.char := by
  unfold ofText
  constructor
  · intro h
    split at h
    · rename_i c single
      obtain ⟨_, rfl⟩ := ofChar_eq_ok_iff.1 h
      exact String.toList_inj.1 (by simpa using single)
    · cases h
  · intro h
    have single : s.toList = [m.char] := by simp [h]
    rw [single]
    exact ofChar_eq_ok_iff.2 ⟨m.serves, rfl⟩

/-- A marker is one byte of the text. -/
theorem small (m : Marker) : m.char.val ≤ 127 := by
  have serves := m.serves
  simp only [servesAsMarker, isPunctuation, Bool.and_eq_true, Bool.or_eq_true, decide_eq_true_eq] at serves
  have bound {c : Char} (below : m.char ≤ c) (ascii : c.val ≤ 127) : m.char.val ≤ 127 :=
    UInt32.le_trans below ascii
  rcases serves.1.1 with ((range | range) | range) | range
  all_goals exact bound range.2 (by decide)

theorem ne_openBrace (m : Marker) : m.char ≠ openBrace := by
  have serves := m.serves
  simp only [servesAsMarker, Bool.and_eq_true, bne_iff_ne] at serves
  exact serves.1.2

theorem ne_closeBrace (m : Marker) : m.char ≠ closeBrace := by
  have serves := m.serves
  simp only [servesAsMarker, Bool.and_eq_true, bne_iff_ne] at serves
  exact serves.2

@[simp] theorem size_char (m : Marker) : m.char.utf8Size = 1 := Char.utf8Size_eq_one_iff.2 m.small

end Marker
end TextTemplate

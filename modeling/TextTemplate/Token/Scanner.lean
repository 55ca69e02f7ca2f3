import TextTemplate.Token

/-!
Finding the tokens of a text, byte by byte.

The scanner looks for the next marker byte and decides by the byte after it.  A braced name ends at the
first closing brace, whatever lies before that brace; when there is none, scanning goes on right after
the opening brace.

* `next_advances`: every token moves the scanner forward, inside the text.
* `next_ends`: without a token the scanner stays where it is.
-/

namespace TextTemplate

open Text

/-- A text that is being scanned, and the byte offset from which scanning goes on. -/
structure Scanner where
  text : String
  marker : Marker
  pos : Nat
deriving DecidableEq

namespace Scanner

def start (text : String) (marker : Marker) : Scanner := ⟨text, marker, 0⟩

def bytes (s : Scanner) : ByteArray := s.text.toUTF8

/-- The same scanner, further on. -/
def goTo (s : Scanner) (pos : Nat) : Scanner := { s with pos }

/-- The token of a marker and an opening brace at `start`. -/
def braced (s : Scanner) (start : Nat) : Except SliceError (Token × Scanner) :=
  let nameStart := start + 2
  match indexOf? s.bytes closeBrace.toUInt8 nameStart with
  | some nameStop => do
    let name ← slice s.text nameStart nameStop
    .ok (⟨.reference .braced name, start, nameStop + 1⟩, s.goTo (nameStop + 1))
  | none => .ok (⟨.unterminatedBrace, start, nameStart⟩, s.goTo nameStart)

/-- The token of a marker at `start` and the one character after it. -/
def compact (s : Scanner) (start : Nat) : Except SliceError (Token × Scanner) :=
  let nameStart := start + 1
  let nameStop := nameStart + ((charAt? s.text nameStart).elim 1 Char.utf8Size)
  do
    let name ← slice s.text nameStart nameStop
    .ok (⟨.reference .compact name, start, nameStop⟩, s.goTo nameStop)

/-- The token of a marker at `start`. -/
def tokenAt (s : Scanner) (start : Nat) : Except SliceError (Token × Scanner) :=
  match s.bytes[start + 1]? with
  | none => .ok (⟨.unterminatedMarker, start, s.bytes.size⟩, s.goTo s.bytes.size)
  | some b =>
    if b = openBrace.toUInt8 then s.braced start
    else if b = s.marker.byte then .ok (⟨.escape, start, start + 2⟩, s.goTo (start + 2))
    else s.compact start

/-- The next token and the scanner after it; without one the scanner stays. -/
def next (s : Scanner) : Except SliceError (Option Token × Scanner) :=
  match indexOf? s.bytes s.marker.byte s.pos with
  | none => .ok (none, s)
  | some start => do
    let (token, s) ← s.tokenAt start
    .ok (some token, s)

/-! ### Progress -/

theorem size_bytes (s : Scanner) : s.bytes.size = s.text.utf8ByteSize := rfl

theorem stop_le_of_slice {text part : String} {start stop : Nat} (h : slice text start stop = .ok part) :
    start ≤ stop ∧ stop ≤ text.utf8ByteSize := by
  obtain ⟨before, after, rfl, rfl, rfl⟩ := slice_eq_ok_iff.1 h
  simp only [String.utf8ByteSize_append]
  omega

theorem tokenAt_advances {s s' : Scanner} {start : Nat} {token : Token} (inside : start < s.bytes.size)
    (h : s.tokenAt start = .ok (token, s')) :
    token.start = start ∧ start < token.stop ∧ token.stop ≤ s.bytes.size ∧ s' = s.goTo token.stop := by
  unfold tokenAt at h
  split at h
  · injection h with h
    injection h with tokenEq scannerEq
    subst tokenEq scannerEq
    exact ⟨rfl, inside, Nat.le_refl _, rfl⟩
  · rename_i b here
    have inside' : start + 1 < s.bytes.size := by
      rcases Nat.lt_or_ge (start + 1) s.bytes.size with small | large
      · exact small
      · rw [getElem?_neg _ _ (by omega)] at here
        cases here
    split at h
    · unfold braced at h
      simp only at h
      split at h
      · rename_i nameStop found
        have := le_of_indexOf? found
        cases named : slice s.text (start + 2) nameStop with
        | error e => simp [named, bind, Except.bind] at h
        | ok name =>
          simp only [named, bind, Except.bind, Except.ok.injEq, Prod.mk.injEq] at h
          obtain ⟨rfl, rfl⟩ := h
          exact ⟨rfl, by simp only; omega, by simp only; omega, rfl⟩
      · injection h with h
        injection h with tokenEq scannerEq
        subst tokenEq scannerEq
        exact ⟨rfl, by simp only; omega, by simp only; omega, rfl⟩
    · split at h
      · injection h with h
        injection h with tokenEq scannerEq
        subst tokenEq scannerEq
        exact ⟨rfl, by simp only; omega, by simp only; omega, rfl⟩
      · unfold compact at h
        simp only at h
        cases named : slice s.text (start + 1)
            (start + 1 + (charAt? s.text (start + 1)).elim 1 Char.utf8Size) with
        | error e => simp [named, bind, Except.bind] at h
        | ok name =>
          simp only [named, bind, Except.bind, Except.ok.injEq, Prod.mk.injEq] at h
          obtain ⟨rfl, rfl⟩ := h
          have := stop_le_of_slice named
          exact ⟨rfl, by simp only; omega, by rw [size_bytes]; exact this.2, rfl⟩

theorem next_advances {s s' : Scanner} {token : Token} (h : s.next = .ok (some token, s')) :
    s.pos ≤ token.start ∧ token.start < token.stop ∧ token.stop ≤ s.bytes.size ∧
      s' = s.goTo token.stop := by
  unfold next at h
  split at h
  · simp at h
  · rename_i start found
    cases taken : s.tokenAt start with
    | error e => simp [taken, bind, Except.bind] at h
    | ok r =>
      simp only [taken, bind, Except.bind, Except.ok.injEq, Prod.mk.injEq, Option.some.injEq] at h
      obtain ⟨rfl, rfl⟩ := h
      have := le_of_indexOf? found
      obtain ⟨startEq, longer, inside, after⟩ := tokenAt_advances this.2 taken
      exact ⟨by omega, by omega, inside, after⟩

theorem next_ends {s s' : Scanner} (h : s.next = .ok (none, s')) : s' = s := by
  unfold next at h
  split at h
  · simpa [eq_comm] using h
  · rename_i start found
    cases taken : s.tokenAt start with
    | error e => simp [taken, bind, Except.bind] at h
    | ok r => simp [taken, bind, Except.bind] at h

/-- All tokens from where the scanner stands, in text order. -/
def tokens (s : Scanner) : Except SliceError (List Token) :=
  match _h : s.next with
  | .error e => .error e
  | .ok (none, _) => .ok []
  | .ok (some token, rest) => do
    let more ← tokens rest
    .ok (token :: more)
termination_by s.bytes.size - s.pos
decreasing_by
  obtain ⟨after, longer, inside, rfl⟩ := next_advances _h
  change s.bytes.size - token.stop < s.bytes.size - s.pos
  omega

end Scanner

/-- The tokens of a text. -/
def tokensOf (text : String) (marker : Marker) : Except SliceError (List Token) :=
  (Scanner.start text marker).tokens

end TextTemplate

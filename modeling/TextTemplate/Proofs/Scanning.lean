import TextTemplate.Token.Scanner
import TextTemplate.Token.Lexer
import TextTemplate.Text.Encoding

/-!
Scanning the bytes of a text and reading its characters agree.

* `tokensOf_eq_lex`: the scanner finds the tokens that the characters spell, and never asks for a
  slice that is refused.
-/

namespace TextTemplate

/-- The first byte of a character tells whether it is a given ASCII character. -/
theorem first_byte_eq_iff {c ascii : Char} {b : UInt8} (small : ascii.val ≤ 127)
    (first : (String.utf8EncodeChar c)[0]? = some b) : b = ascii.toUInt8 ↔ c = ascii := by
  constructor
  · rintro rfl
    exact Text.eq_of_mem_utf8EncodeChar small (List.mem_of_getElem? first)
  · rintro rfl
    rw [String.utf8EncodeChar_eq_singleton (Char.utf8Size_eq_one_iff.2 small)] at first
    exact (Option.some.inj first).symm

namespace Scanner

/-- The scanner that stands between two parts of a text. -/
def between (marker : Marker) (before : String) (after : List Char) : Scanner :=
  ⟨before ++ String.ofList after, marker, before.utf8ByteSize⟩

theorem append_ofList_cons (before : String) (c : Char) (cs : List Char) :
    before ++ String.ofList (c :: cs) = (before ++ String.singleton c) ++ String.ofList cs := by
  rw [String.ofList_cons, String.append_assoc]

/-- Moving over some characters. -/
theorem goTo_between {marker : Marker} {before : String} (crossed after : List Char) {pos : Nat}
    (h : pos = before.utf8ByteSize + byteLength crossed) :
    (between marker before (crossed ++ after)).goTo pos =
      between marker (before ++ String.ofList crossed) after := by
  subst h
  simp only [between, goTo, String.ofList_append, String.append_assoc, String.utf8ByteSize_append,
    byteLength]

theorem tokens_of_next_none {s s' : Scanner} (h : s.next = .ok (none, s')) : s.tokens = .ok [] := by
  rw [tokens]
  split
  · rename_i failed
    rw [h] at failed
    cases failed
  · rfl
  · rename_i taken
    rw [h] at taken
    cases taken

theorem tokens_of_next_some {s t : Scanner} {token : Token} (h : s.next = .ok (some token, t)) :
    s.tokens = t.tokens.map (token :: ·) := by
  rw [tokens]
  split
  · rename_i failed
    rw [h] at failed
    cases failed
  · rename_i ended
    rw [h] at ended
    cases ended
  · rename_i token' t' taken
    rw [h] at taken
    cases taken
    cases t.tokens <;> rfl

theorem tokens_of_indexOf?_none {s : Scanner} (h : Text.indexOf? s.bytes s.marker.byte s.pos = none) :
    s.tokens = .ok [] :=
  tokens_of_next_none (show s.next = .ok (none, s) by unfold next; rw [h])

theorem tokens_of_indexOf?_some {s : Scanner} {start : Nat}
    (h : Text.indexOf? s.bytes s.marker.byte s.pos = some start) :
    s.tokens = (s.tokenAt start).bind fun (token, t) => t.tokens.map (token :: ·) := by
  have stepped : s.next = (s.tokenAt start).bind fun (token, t) => .ok (some token, t) := by
    unfold next
    rw [h]
    rfl
  cases taken : s.tokenAt start with
  | error e =>
    rw [taken] at stepped
    rw [tokens]
    split
    · rename_i e' failed
      rw [stepped] at failed
      cases failed
      rfl
    · rename_i ended
      rw [stepped] at ended
      cases ended
    · rename_i found
      rw [stepped] at found
      cases found
  | ok r =>
    rw [taken] at stepped
    exact tokens_of_next_some stepped

/-- Only the place of the next marker byte counts. -/
theorem tokens_goTo {s : Scanner} {pos : Nat}
    (same : Text.indexOf? s.bytes s.marker.byte s.pos = Text.indexOf? s.bytes s.marker.byte pos) :
    s.tokens = (s.goTo pos).tokens := by
  cases found : Text.indexOf? s.bytes s.marker.byte s.pos with
  | none =>
    rw [tokens_of_indexOf?_none found]
    exact (tokens_of_indexOf?_none (s := s.goTo pos) (same.symm.trans found)).symm
  | some start =>
    rw [tokens_of_indexOf?_some found]
    exact (tokens_of_indexOf?_some (s := s.goTo pos) (same.symm.trans found)).symm

/-! ### Scanning character by character -/

theorem tokens_between_nil (marker : Marker) (before : String) :
    (between marker before []).tokens = .ok [] :=
  tokens_of_indexOf?_none Text.indexOf?_append_nil

theorem tokens_between_other {marker : Marker} {before : String} {c : Char} {cs : List Char}
    (other : c ≠ marker.char) :
    (between marker before (c :: cs)).tokens = (between marker (before ++ String.singleton c) cs).tokens := by
  have moved : (between marker before (c :: cs)).goTo (before.utf8ByteSize + c.utf8Size) = _ :=
    goTo_between [c] cs (by simp)
  rw [String.singleton_eq_ofList, ← moved]
  exact tokens_goTo (Text.indexOf?_append_cons marker.small other)

theorem tokens_between_marker {marker : Marker} {before : String} {cs : List Char} :
    (between marker before (marker.char :: cs)).tokens =
      ((between marker before (marker.char :: cs)).tokenAt before.utf8ByteSize).bind
        fun (token, t) => t.tokens.map (token :: ·) :=
  tokens_of_indexOf?_some (Text.indexOf?_append_cons_same marker.small)

theorem indexOf?_between {before : String} {ascii : Char} {cs : List Char} (small : ascii.val ≤ 127) :
    Text.indexOf? (before ++ String.ofList cs).toUTF8 ascii.toUInt8 before.utf8ByteSize =
      (splitFirst ascii cs).map fun (name, _) => before.utf8ByteSize + byteLength name := by
  induction cs generalizing before with
  | nil => exact Text.indexOf?_append_nil
  | cons c cs ih =>
    by_cases same : c = ascii
    · subst same
      rw [Text.indexOf?_append_cons_same small]
      simp [splitFirst, byteLength]
    · rw [Text.indexOf?_append_cons small same, append_ofList_cons]
      have := @ih (before ++ String.singleton c)
      rw [String.utf8ByteSize_append, String.utf8ByteSize_singleton] at this
      rw [this, splitFirst, if_neg same]
      cases splitFirst ascii cs with
      | none => rfl
      | some parts =>
        obtain ⟨name, rest⟩ := parts
        simp only [Option.map_some, byteLength, String.ofList_cons, String.utf8ByteSize_append,
          String.utf8ByteSize_singleton]
        congr 1
        omega

/-- The byte after a marker is the first byte of the next character. -/
theorem byte_after_marker {marker : Marker} {before : String} {d : Char} {rest : List Char} :
    (between marker before (marker.char :: d :: rest)).bytes[before.utf8ByteSize + 1]? =
      (String.utf8EncodeChar d)[0]? := by
  have here := Text.getElem?_append_size (before ++ String.singleton marker.char)
    (String.ofList (d :: rest)) 0
  rw [Text.getElem?_ofList_cons d.utf8Size_pos, ← append_ofList_cons, String.utf8ByteSize_append,
    String.utf8ByteSize_singleton, Marker.size_char] at here
  exact here

theorem tokenAt_last {marker : Marker} {before : String} :
    (between marker before [marker.char]).tokenAt before.utf8ByteSize =
      .ok (⟨.unterminatedMarker, before.utf8ByteSize, before.utf8ByteSize + 1⟩,
        between marker (before ++ String.ofList [marker.char]) []) := by
  have size : (between marker before [marker.char]).bytes.size = before.utf8ByteSize + 1 := by
    rw [size_bytes]
    simp [between]
  unfold tokenAt
  rw [getElem?_neg _ _ (by omega), size]
  exact congrArg (fun t => Except.ok (_, t)) (goTo_between [marker.char] [] (by simp))

theorem tokenAt_escape {marker : Marker} {before : String} {rest : List Char} :
    (between marker before (marker.char :: marker.char :: rest)).tokenAt before.utf8ByteSize =
      .ok (⟨.escape, before.utf8ByteSize, before.utf8ByteSize + 2⟩,
        between marker (before ++ String.ofList [marker.char, marker.char]) rest) := by
  have first : (String.utf8EncodeChar marker.char)[0]? = some marker.byte := by
    rw [String.utf8EncodeChar_eq_singleton marker.size_char]
    rfl
  unfold tokenAt
  rw [byte_after_marker, first]
  dsimp only
  rw [if_neg (fun brace => marker.ne_openBrace ((first_byte_eq_iff (by decide) first).1 brace)),
    if_pos (show marker.byte = (between marker before _).marker.byte from rfl)]
  exact congrArg (fun t => Except.ok (_, t))
    (goTo_between [marker.char, marker.char] rest (by simp))

theorem tokenAt_compact {marker : Marker} {before : String} {d : Char} {rest : List Char}
    (notBrace : d ≠ openBrace) (notMarker : d ≠ marker.char) :
    (between marker before (marker.char :: d :: rest)).tokenAt before.utf8ByteSize =
      .ok (⟨.reference .compact (String.singleton d), before.utf8ByteSize,
          before.utf8ByteSize + 1 + d.utf8Size⟩,
        between marker (before ++ String.ofList [marker.char, d]) rest) := by
  have cut : (between marker before (marker.char :: d :: rest)).text =
      (before ++ String.singleton marker.char) ++ String.singleton d ++ String.ofList rest := by
    simp only [between, append_ofList_cons]
  have size : (before ++ String.singleton marker.char).utf8ByteSize = before.utf8ByteSize + 1 := by
    rw [String.utf8ByteSize_append, String.utf8ByteSize_singleton, Marker.size_char]
  have nameAt : Text.charAt? (between marker before (marker.char :: d :: rest)).text
      (before.utf8ByteSize + 1) = some d := Text.charAt?_eq_some_iff.2 ⟨_, _, cut, size⟩
  have name : Text.slice (between marker before (marker.char :: d :: rest)).text (before.utf8ByteSize + 1)
      (before.utf8ByteSize + 1 + d.utf8Size) = .ok (String.singleton d) :=
    Text.slice_eq_ok_iff.2 ⟨_, _, cut, size, by rw [String.utf8ByteSize_append, size,
      String.utf8ByteSize_singleton]⟩
  obtain ⟨b, first⟩ : ∃ b, (String.utf8EncodeChar d)[0]? = some b :=
    ⟨_, List.getElem?_eq_getElem (by rw [String.length_utf8EncodeChar]; exact d.utf8Size_pos)⟩
  unfold tokenAt
  rw [byte_after_marker, first]
  dsimp only
  rw [if_neg (fun brace => notBrace ((first_byte_eq_iff (by decide) first).1 brace)),
    if_neg (show ¬ b = (between marker before _).marker.byte from
      fun same => notMarker ((first_byte_eq_iff marker.small first).1 same))]
  unfold compact
  simp only [nameAt, Option.elim_some, name]
  exact congrArg (fun t => Except.ok (_, t))
    (goTo_between [marker.char, d] rest (by simp; omega))

/-- The search for the end of a braced name. -/
theorem closeBrace_after {marker : Marker} {before : String} {rest : List Char} :
    Text.indexOf? (between marker before (marker.char :: openBrace :: rest)).bytes closeBrace.toUInt8
        (before.utf8ByteSize + 2) =
      (splitFirst closeBrace rest).map fun (name, _) => before.utf8ByteSize + 2 + byteLength name := by
  have found : Text.indexOf? (before ++ String.singleton marker.char ++ String.singleton openBrace ++
      String.ofList rest).toUTF8 closeBrace.toUInt8 _ = _ := indexOf?_between (by decide)
  rw [← append_ofList_cons, ← append_ofList_cons] at found
  simp only [String.utf8ByteSize_append, String.utf8ByteSize_singleton, Marker.size_char] at found
  exact found

theorem tokenAt_brace {marker : Marker} {before : String} {rest : List Char} :
    (between marker before (marker.char :: openBrace :: rest)).tokenAt before.utf8ByteSize =
      (between marker before (marker.char :: openBrace :: rest)).braced before.utf8ByteSize := by
  unfold tokenAt
  rw [byte_after_marker]
  rfl

theorem tokenAt_closed {marker : Marker} {before : String} {rest name after : List Char}
    (closed : splitFirst closeBrace rest = some (name, after)) :
    (between marker before (marker.char :: openBrace :: rest)).tokenAt before.utf8ByteSize =
      .ok (⟨.reference .braced (String.ofList name), before.utf8ByteSize,
          before.utf8ByteSize + 2 + byteLength name + 1⟩,
        between marker
          (before ++ String.ofList (marker.char :: openBrace :: (name ++ [closeBrace]))) after) := by
  have split := (eq_of_splitFirst closed).1
  have cut : (between marker before (marker.char :: openBrace :: rest)).text =
      (before ++ String.ofList [marker.char, openBrace]) ++ String.ofList name ++
        String.ofList (closeBrace :: after) := by
    simp only [between, split, String.append_assoc, ← String.ofList_append]
    rfl
  have size : (before ++ String.ofList [marker.char, openBrace]).utf8ByteSize =
      before.utf8ByteSize + 2 := by
    have : byteLength [marker.char, openBrace] = 2 := by simp
    rw [String.utf8ByteSize_append]
    exact congrArg _ this
  have taken : Text.slice (between marker before (marker.char :: openBrace :: rest)).text
      (before.utf8ByteSize + 2) (before.utf8ByteSize + 2 + byteLength name) = .ok (String.ofList name) :=
    Text.slice_eq_ok_iff.2 ⟨_, _, cut, size, by rw [String.utf8ByteSize_append, size]; rfl⟩
  rw [tokenAt_brace]
  unfold braced
  simp only [closeBrace_after, closed, Option.map_some, taken]
  have spelled : marker.char :: openBrace :: rest =
      (marker.char :: openBrace :: (name ++ [closeBrace])) ++ after := by simp [split]
  rw [spelled, goTo_between _ after (by simp; omega)]
  rfl

theorem tokenAt_unclosed {marker : Marker} {before : String} {rest : List Char}
    (unclosed : splitFirst closeBrace rest = none) :
    (between marker before (marker.char :: openBrace :: rest)).tokenAt before.utf8ByteSize =
      .ok (⟨.unterminatedBrace, before.utf8ByteSize, before.utf8ByteSize + 2⟩,
        between marker (before ++ String.ofList [marker.char, openBrace]) rest) := by
  rw [tokenAt_brace]
  unfold braced
  simp only [closeBrace_after, unclosed, Option.map_none]
  exact congrArg (fun t => Except.ok (_, t))
    (goTo_between [marker.char, openBrace] rest (by simp))

/-- Scanning the bytes of a text finds the tokens that its characters spell. -/
theorem tokens_between (marker : Marker) (before : String) (cs : List Char) :
    (between marker before cs).tokens = .ok (lex marker before.utf8ByteSize cs) := by
  generalize start : before.utf8ByteSize = offset
  fun_induction lex marker offset cs generalizing before with
  | case1 offset => exact tokens_between_nil marker before
  | case2 offset c cs other ih =>
    rw [tokens_between_other other]
    exact ih _ (by simp [start])
  | case3 offset c same =>
    obtain rfl := Classical.not_not.1 same
    rw [tokens_between_marker, tokenAt_last, start]
    change Except.map _ (between marker _ []).tokens = _
    rw [tokens_between_nil]
    rfl
  | case4 offset c same rest name after closed stop ih =>
    obtain rfl := Classical.not_not.1 same
    rw [tokens_between_marker, tokenAt_closed closed, start]
    change Except.map _ (between marker _ after).tokens = _
    rw [ih _ (by
      simp [start, stop]
      have : (String.ofList name).utf8ByteSize = byteLength name := rfl
      omega)]
    rfl
  | case5 offset c same rest unclosed ih =>
    obtain rfl := Classical.not_not.1 same
    rw [tokens_between_marker, tokenAt_unclosed unclosed, start]
    change Except.map _ (between marker _ rest).tokens = _
    rw [ih _ (by simp [start])]
    rfl
  | case6 offset c same rest notBrace ih =>
    obtain rfl := Classical.not_not.1 same
    rw [tokens_between_marker, tokenAt_escape, start]
    change Except.map _ (between marker _ rest).tokens = _
    rw [ih _ (by simp [start])]
    rfl
  | case7 offset c same d rest notBrace notMarker stop ih =>
    obtain rfl := Classical.not_not.1 same
    rw [tokens_between_marker, tokenAt_compact notBrace notMarker, start]
    change Except.map _ (between marker _ rest).tokens = _
    rw [ih _ (by simp [start, stop]; omega)]
    rfl

end Scanner

theorem tokensOf_eq_lex (text : String) (marker : Marker) :
    tokensOf text marker = .ok (lex marker 0 text.toList) := by
  have whole := Scanner.tokens_between marker "" text.toList
  simpa [Scanner.between, tokensOf, Scanner.start] using whole

end TextTemplate

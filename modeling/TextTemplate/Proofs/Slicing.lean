import TextTemplate.Proofs.Resolution

/-!
No part of a text is asked for that the text does not have.

A text is taken apart at byte offsets: the scanner takes what is left to scan and the names it finds, a
diagnostic quotes a reference, and a template is cut between its substitutions.  All these offsets lie between
two characters, because the scanner itself never stands anywhere else.

* `Scanner.Reaches.between`: wherever a scanner comes to, it stands between two parts of its text.
* `slices_succeed`: every part that is asked for can be taken, and tokens and substitutions do not overlap.
-/

namespace TextTemplate

open Text

/-- A part of a text that is not empty and cuts no character. -/
structure Text.IsPart (text : String) (start stop : Nat) : Prop where
  nonempty : start < stop
  inside : stop ≤ text.utf8ByteSize
  startBoundary : String.Pos.Raw.IsValid text ⟨start⟩
  stopBoundary : String.Pos.Raw.IsValid text ⟨stop⟩

theorem Text.isPart_of_slice {text part : String} {start stop : Nat}
    (taken : slice text start stop = .ok part) (nonempty : start < stop) : IsPart text start stop := by
  have inside := (Scanner.stop_le_of_slice taken).2
  unfold slice at taken
  split at taken
  · rename_i valid
    exact ⟨nonempty, inside, valid.1, valid.2.1⟩
  · cases taken

namespace Scanner

/-- The states that a scanner comes to by looking for tokens. -/
inductive Reaches (s : Scanner) : Scanner → Prop where
  | refl : Reaches s s
  | next {t u : Scanner} {token : Option Token} : Reaches s t → t.next = .ok (token, u) → Reaches s u

/-- A scanner can take all that it asks for to find the next token: what is left to scan, what stands behind
the marker, what stands behind an opening brace, and the name. -/
structure Sliceable (s : Scanner) : Prop where
  rest : ∃ rest, slice s.text s.pos s.text.utf8ByteSize = .ok rest
  behindMarker : ∀ start, indexOf? s.bytes s.marker.byte s.pos = some start →
    ∃ rest, slice s.text (start + 1) s.text.utf8ByteSize = .ok rest
  behindBrace : ∀ start, indexOf? s.bytes s.marker.byte s.pos = some start →
    s.bytes[start + 1]? = some openBrace.toUInt8 →
    ∃ rest, slice s.text (start + 2) s.text.utf8ByteSize = .ok rest
  next : ∃ token t, s.next = .ok (token, t)

/-- Where a scanner stands does not count for the token at a given place. -/
theorem tokenAt_goTo (s : Scanner) (pos start : Nat) : (s.goTo pos).tokenAt start = s.tokenAt start := rfl

/-- Reading a token crosses some characters. -/
theorem tokenAt_between (marker : Marker) (before : String) (rest : List Char) :
    ∃ token crossed after, marker.char :: rest = crossed ++ after ∧
      (between marker before (marker.char :: rest)).tokenAt before.utf8ByteSize =
        .ok (token, between marker (before ++ String.ofList crossed) after) := by
  cases rest with
  | nil => exact ⟨_, _, _, rfl, tokenAt_last⟩
  | cons d rest =>
    by_cases brace : d = openBrace
    · subst brace
      cases closed : splitFirst closeBrace rest with
      | none => exact ⟨_, _, _, rfl, tokenAt_unclosed closed⟩
      | some parts =>
        obtain ⟨name, after⟩ := parts
        refine ⟨_, _, _, ?_, tokenAt_closed closed⟩
        rw [(eq_of_splitFirst closed).1]
        simp
    · by_cases same : d = marker.char
      · subst same
        exact ⟨_, _, _, rfl, tokenAt_escape⟩
      · exact ⟨_, _, _, rfl, tokenAt_compact brace same⟩

/-- Looking for the next token crosses some characters, or none. -/
theorem next_between (marker : Marker) (before : String) (cs : List Char) :
    ∃ token crossed after, cs = crossed ++ after ∧
      (between marker before cs).next =
        .ok (token, between marker (before ++ String.ofList crossed) after) := by
  have search : indexOf? (between marker before cs).bytes (between marker before cs).marker.byte
      (between marker before cs).pos =
        (splitFirst marker.char cs).map fun parts => before.utf8ByteSize + byteLength parts.1 :=
    indexOf?_between marker.small
  unfold next
  rw [search]
  cases found : splitFirst marker.char cs with
  | none => exact ⟨none, [], cs, rfl, by simp⟩
  | some parts =>
    obtain ⟨skipped, rest⟩ := parts
    obtain ⟨rfl, -⟩ := eq_of_splitFirst found
    have moved : (between marker before (skipped ++ marker.char :: rest)).goTo _ = _ :=
      goTo_between skipped (marker.char :: rest) rfl
    obtain ⟨token, crossed, after, split, taken⟩ :=
      tokenAt_between marker (before ++ String.ofList skipped) rest
    rw [← moved, tokenAt_goTo, String.utf8ByteSize_append] at taken
    refine ⟨some token, skipped ++ crossed, after, by rw [split, List.append_assoc], ?_⟩
    rw [String.ofList_append, ← String.append_assoc]
    simp only [Option.map_some, byteLength, taken]
    rfl

/-- Wherever a scanner comes to, it stands between two parts of its text. -/
theorem Reaches.between {marker : Marker} {before : String} {cs : List Char} {t : Scanner}
    (reached : (between marker before cs).Reaches t) :
    ∃ crossed after, cs = crossed ++ after ∧ t = .between marker (before ++ String.ofList crossed) after := by
  induction reached with
  | refl => exact ⟨[], cs, rfl, by simp⟩
  | next _ moved ih =>
    obtain ⟨crossed, rest, rfl, rfl⟩ := ih
    obtain ⟨token, crossed', after, rfl, found⟩ := next_between marker (before ++ String.ofList crossed) rest
    rw [found] at moved
    cases moved
    exact ⟨crossed ++ crossed', after, by simp, by rw [String.ofList_append, ← String.append_assoc]⟩

theorem sliceable_between (marker : Marker) (before : String) (cs : List Char) :
    (between marker before cs).Sliceable where
  rest := ⟨String.ofList cs, slice_eq_ok_iff.2 ⟨before, "", by simp [between], rfl, rfl⟩⟩
  behindMarker := by
    intro start found
    have stands := (getElem?_eq_some_iff marker.small).1 (indexOf?_eq_some_iff.1 found).2.1
    simpa using exists_slice_of_charAt? stands
  behindBrace := by
    intro start _ brace
    exact exists_slice_of_charAt? ((getElem?_eq_some_iff (by decide)).1 brace)
  next := by
    obtain ⟨token, _, _, -, found⟩ := next_between marker before cs
    exact ⟨token, _, found⟩

theorem start_eq_between (text : String) (marker : Marker) :
    start text marker = between marker "" text.toList := by
  simp [start, between]

theorem Reaches.sliceable {text : String} {marker : Marker} {s : Scanner}
    (reached : (start text marker).Reaches s) : s.Sliceable := by
  rw [start_eq_between] at reached
  obtain ⟨crossed, after, -, rfl⟩ := reached.between
  exact sliceable_between ..

end Scanner

variable {ε : Type} {marker : Marker} {table : Variables ε}

/-! ### Tokens and substitutions -/

namespace Lexeme

theorem bounds_of_token? {offset : Nat} {l : Lexeme} {token : Token}
    (reported : l.token? marker offset = some token) :
    token.start = offset ∧ token.stop = offset + l.size marker := by
  cases l with
  | plain c => cases reported
  | _ =>
    cases reported
    exact ⟨rfl, rfl⟩

theorem bounds_of_substitution? {offset : Nat} {l : Lexeme} {sub : Substitution ε}
    (replaced : l.substitution? marker table offset = some sub) :
    sub.start = offset ∧ sub.stop = offset + l.size marker := by
  obtain ⟨r, -, rfl⟩ := Option.map_eq_some_iff.1 replaced
  exact ⟨rfl, rfl⟩

end Lexeme

/-- A token can be quoted, and what it quotes is a part of the text. -/
theorem excerpt_of_mem_lex {text : String} {token : Token} (mem : token ∈ lex marker 0 text.toList) :
    IsPart text token.start token.stop ∧ ∃ excerpt, token.excerpt text = .ok excerpt := by
  rw [lex_eq_tokens] at mem
  obtain ⟨p, placed, reported⟩ := List.mem_filterMap.1 mem
  obtain ⟨startEq, stopEq⟩ := Lexeme.bounds_of_token? reported
  have taken := slice_of_mem_place placed
  have positive : 0 < p.2.size marker := p.2.size_pos
  rw [Token.excerpt, startEq, stopEq]
  exact ⟨isPart_of_slice taken (by omega), _, taken⟩

theorem separated_lex (marker : Marker) (cs : List Char) :
    (lex marker 0 cs).Pairwise (·.stop ≤ ·.start) := by
  rw [lex_eq_tokens]
  refine (separated_place marker 0 _).filterMap _ ?_
  intro p q apart token reported token' reported'
  rw [(Lexeme.bounds_of_token? reported).2, (Lexeme.bounds_of_token? reported').1]
  exact apart

theorem isPart_of_mem_substitutionsOf {text : String} {sub : Substitution ε}
    (mem : sub ∈ substitutionsOf marker table (place marker 0 (lexemes marker text.toList))) :
    IsPart text sub.start sub.stop := by
  obtain ⟨p, placed, replaced⟩ := List.mem_filterMap.1 mem
  obtain ⟨startEq, stopEq⟩ := Lexeme.bounds_of_substitution? replaced
  have positive : 0 < p.2.size marker := p.2.size_pos
  rw [startEq, stopEq]
  exact isPart_of_slice (slice_of_mem_place placed) (by omega)

theorem separated_substitutionsOf (marker : Marker) (table : Variables ε) (offset : Nat)
    (ls : List Lexeme) :
    (substitutionsOf marker table (place marker offset ls)).Pairwise (·.stop ≤ ·.start) := by
  refine (separated_place marker offset ls).filterMap _ ?_
  intro p q apart sub replaced sub' replaced'
  rw [(Lexeme.bounds_of_substitution? replaced).2, (Lexeme.bounds_of_substitution? replaced').1]
  exact apart

/-- **Every part of a text that is asked for can be taken.**  Tokens are found in every text; they are parts of
it that can be quoted, one after the other.  Wherever the scanner comes to, it can take what it needs for the
next token.  The substitutions that are looked up, omitted ones among them, are parts of the text one after
the other, and the text can be cut at them.  So no text is refused, by a lenient or by a strict substituter,
because it cannot be cut, and a template is the cut of its text at its substitutions. -/
theorem slices_succeed (s : Substituter ε) (text : String) :
    (∃ tokens, tokensOf text s.marker = .ok tokens ∧ tokens.Pairwise (·.stop ≤ ·.start) ∧
      ∀ token ∈ tokens, IsPart text token.start token.stop ∧
        ∃ excerpt, token.excerpt text = .ok excerpt) ∧
    (∀ scanner, (Scanner.start text s.marker).Reaches scanner → scanner.Sliceable) ∧
    (∃ scanned, s.scan text = .ok scanned ∧ scanned.substitutions.Pairwise (·.stop ≤ ·.start) ∧
      (∀ sub ∈ scanned.substitutions, IsPart text sub.start sub.stop) ∧
      ∃ pieces, Piece.cut text 0 scanned.substitutions = .ok pieces) ∧
    (∀ fault, s.parse text ≠ .error (.uncut fault)) ∧
    ∀ t, s.parse text = .ok t → Piece.cut t.text 0 t.substitutions = .ok t.pieces := by
  refine ⟨⟨_, tokensOf_eq_lex text s.marker, ?_, ?_⟩, ?_, ⟨_, s.scan_eq text, ?_, ?_, ?_⟩, ?_, ?_⟩
  · exact separated_lex s.marker text.toList
  · intro token mem
    exact excerpt_of_mem_lex mem
  · intro scanner reached
    exact reached.sliceable
  · exact separated_substitutionsOf ..
  · intro sub mem
    exact isPart_of_mem_substitutionsOf mem
  · exact ⟨_, s.cut_placed text⟩
  · intro fault refused
    rw [s.parse_eq] at refused
    split at refused
    · cases refused
    · cases refused
  · intro t parsed
    obtain ⟨-, rfl⟩ := Substituter.parse_eq_ok_iff.1 parsed
    rw [s.substitutions_template]
    exact s.cut_placed text

theorem slices_succeed_strays :
    let s : Substituter (Evaluator Buffer Unit) := ⟨{ lenient := true }, ⟨[]⟩⟩
    ∃ t, s.parse "é@é@\x7b€@" = .ok t ∧ Piece.cut t.text 0 t.substitutions = .ok t.pieces ∧
      ∃ token scanner, (Scanner.start "é@é@\x7b€@" s.marker).next = .ok (token, scanner) ∧
        (Scanner.start "é@é@\x7b€@" s.marker).Reaches scanner ∧ scanner.Sliceable := by
  intro s
  obtain ⟨-, reachable, -, -, cut⟩ := slices_succeed s "é@é@\x7b€@"
  have parsed := s.parse_of_lenient rfl "é@é@\x7b€@"
  obtain ⟨token, scanner, found⟩ := (reachable _ .refl).next
  exact ⟨_, parsed, cut _ parsed, token, scanner, found, .next .refl found,
    reachable _ (.next .refl found)⟩

end TextTemplate

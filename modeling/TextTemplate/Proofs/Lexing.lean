import TextTemplate.Proofs.Lexeme
import TextTemplate.Proofs.Scanning

/-!
The tokens of a text, told by rules on its characters.

A rule says what one character, or a marker with what belongs to it, gives; what was read already goes along
with it, and every offset is the length of a part that was read.  No rule looks anything up at an offset.

* `lexes_iff`: the rules derive the tokens that the lexer finds, and no others.
* `tokensOf_eq_ok_iff_lexes`: the scanner, which works on bytes, finds these tokens too.
-/

namespace TextTemplate

/-- The token that the characters `inside` spell behind the characters `before`. -/
def Token.behind (before inside : List Char) (kind : TokenKind) : Token :=
  ⟨kind, byteLength before, byteLength (before ++ inside)⟩

/-- `Lexes marker before rest tokens`: behind the characters `before`, the characters `rest` have the tokens
`tokens`. -/
inductive Lexes (marker : Marker) : List Char → List Char → List Token → Prop where
  | done {before : List Char} : Lexes marker before [] []
  | skip {before rest : List Char} {c : Char} {tokens : List Token} :
      c ≠ marker.char → Lexes marker (before ++ [c]) rest tokens → Lexes marker before (c :: rest) tokens
  /-- A marker is the last character. -/
  | last {before : List Char} :
      Lexes marker before [marker.char] [.behind before [marker.char] .unterminatedMarker]
  /-- A name reaches up to the first closing brace, whatever stands in it. -/
  | braced {before name rest : List Char} {tokens : List Token} :
      closeBrace ∉ name →
      Lexes marker (before ++ marker.char :: openBrace :: (name ++ [closeBrace])) rest tokens →
      Lexes marker before (marker.char :: openBrace :: (name ++ closeBrace :: rest))
        (.behind before (marker.char :: openBrace :: (name ++ [closeBrace]))
          (.reference .braced (String.ofList name)) :: tokens)
  /-- Without a closing brace, what follows the opening brace is read on its own. -/
  | unclosed {before rest : List Char} {tokens : List Token} :
      closeBrace ∉ rest → Lexes marker (before ++ [marker.char, openBrace]) rest tokens →
      Lexes marker before (marker.char :: openBrace :: rest)
        (.behind before [marker.char, openBrace] .unterminatedBrace :: tokens)
  | escape {before rest : List Char} {tokens : List Token} :
      Lexes marker (before ++ [marker.char, marker.char]) rest tokens →
      Lexes marker before (marker.char :: marker.char :: rest)
        (.behind before [marker.char, marker.char] .escape :: tokens)
  | compact {before rest : List Char} {c : Char} {tokens : List Token} :
      c ≠ marker.char → c ≠ openBrace → Lexes marker (before ++ [marker.char, c]) rest tokens →
      Lexes marker before (marker.char :: c :: rest)
        (.behind before [marker.char, c] (.reference .compact (String.singleton c)) :: tokens)

variable {marker : Marker}

/-! ### The lexer, rule by rule -/

theorem splitFirst_eq_none {stop : Char} {cs : List Char} (absent : stop ∉ cs) :
    splitFirst stop cs = none := by
  cases found : splitFirst stop cs with
  | none => rfl
  | some parts =>
    obtain ⟨split, -⟩ := eq_of_splitFirst found
    rw [split] at absent
    simp at absent

/-- A lexeme at the front gives its token, and the characters after it give theirs. -/
theorem lex_of_lexemes {l : Lexeme} {cs rest : List Char} (offset : Nat)
    (read : lexemes marker cs = l :: lexemes marker rest) :
    lex marker offset cs =
      (l.token? marker offset).toList ++ lex marker (offset + l.size marker) rest := by
  rw [lex_eq_tokens, read, filterMap_place_cons, ← lex_eq_tokens]

/-- A lexeme that stands behind some characters ends where they end together. -/
theorem Lexeme.byteLength_add_size (before : List Char) (l : Lexeme) :
    byteLength before + l.size marker = byteLength (before ++ l.spelling marker) := by
  rw [byteLength_append, Lexeme.size]

/-- The rules derive what the lexer finds only. -/
theorem Lexes.eq_lex {before rest : List Char} {tokens : List Token}
    (derived : Lexes marker before rest tokens) : tokens = lex marker (byteLength before) rest := by
  induction derived with
  | done => rw [lex]
  | skip other _ ih =>
    rw [lex_of_lexemes _ (lexemes_plain other _), Lexeme.byteLength_add_size, ih]
    rfl
  | last =>
    rw [lex_eq_tokens, lexemes_last, filterMap_place_cons]
    simp only [Lexeme.token?, Lexeme.byteLength_add_size]
    rfl
  | @braced before name rest _ absent _ ih =>
    have closed : splitFirst closeBrace (name ++ closeBrace :: rest) = some (name, rest) :=
      splitFirst_append absent
    rw [lex_of_lexemes _ (lexemes_braced closed)]
    simp only [Lexeme.token?, Lexeme.byteLength_add_size, Lexeme.spelling, String.toList_ofList]
    rw [ih]
    rfl
  | unclosed absent _ ih =>
    rw [lex_of_lexemes _ (lexemes_unclosed (splitFirst_eq_none absent))]
    simp only [Lexeme.token?, Lexeme.byteLength_add_size]
    rw [ih]
    rfl
  | escape _ ih =>
    rw [lex_of_lexemes _ (lexemes_escape _)]
    simp only [Lexeme.token?, Lexeme.byteLength_add_size]
    rw [ih]
    rfl
  | compact notMarker notBrace _ ih =>
    rw [lex_of_lexemes _ (lexemes_compact notMarker notBrace _)]
    simp only [Lexeme.token?, Lexeme.byteLength_add_size]
    rw [ih]
    rfl

/-- There are tokens for every text. -/
theorem exists_lexes (marker : Marker) (before rest : List Char) :
    ∃ tokens, Lexes marker before rest tokens := by
  fun_induction lexemes marker rest generalizing before with
  | case1 => exact ⟨_, .done⟩
  | case2 c cs other ih =>
    obtain ⟨tokens, derived⟩ := ih (before ++ [c])
    exact ⟨_, .skip other derived⟩
  | case3 c same =>
    obtain rfl := Classical.not_not.1 same
    exact ⟨_, .last⟩
  | case4 c same rest name after closed ih =>
    obtain rfl := Classical.not_not.1 same
    obtain ⟨rfl, absent⟩ := eq_of_splitFirst closed
    obtain ⟨tokens, derived⟩ := ih (before ++ marker.char :: openBrace :: (name ++ [closeBrace]))
    exact ⟨_, .braced absent derived⟩
  | case5 c same rest unclosed ih =>
    obtain rfl := Classical.not_not.1 same
    obtain ⟨tokens, derived⟩ := ih (before ++ [marker.char, openBrace])
    exact ⟨_, .unclosed (not_mem_of_splitFirst unclosed) derived⟩
  | case6 c same rest notBrace ih =>
    obtain rfl := Classical.not_not.1 same
    obtain ⟨tokens, derived⟩ := ih (before ++ [marker.char, marker.char])
    exact ⟨_, .escape derived⟩
  | case7 c same d rest notBrace notMarker ih =>
    obtain rfl := Classical.not_not.1 same
    obtain ⟨tokens, derived⟩ := ih (before ++ [marker.char, d])
    exact ⟨_, .compact notMarker notBrace derived⟩

/-- The rules derive the tokens that the lexer finds, and no others. -/
theorem lexes_iff {before rest : List Char} {tokens : List Token} :
    Lexes marker before rest tokens ↔ tokens = lex marker (byteLength before) rest := by
  constructor
  · intro derived
    exact derived.eq_lex
  · rintro rfl
    obtain ⟨tokens, derived⟩ := exists_lexes marker before rest
    rw [← derived.eq_lex]
    exact derived

/-- **The scanner reads characters**, though it looks at bytes only.  Of every text and for every marker it
finds the tokens of the lexer, which are the ones that the rules on characters derive, with the lengths of
what was read for offsets.  And it never stops inside a character: where the byte of the marker or of a
closing brace stands, the marker or a closing brace stands. -/
theorem tokensOf_eq_ok_iff_lexes (text : String) (marker : Marker) :
    tokensOf text marker = .ok (lex marker 0 text.toList) ∧
    (∀ tokens, tokensOf text marker = .ok tokens ↔ Lexes marker [] text.toList tokens) ∧
    (∀ i, text.toUTF8[i]? = some marker.byte ↔ Text.charAt? text i = some marker.char) ∧
    ∀ i, text.toUTF8[i]? = some closeBrace.toUInt8 ↔ Text.charAt? text i = some closeBrace := by
  refine ⟨tokensOf_eq_lex text marker, ?_, ?_, ?_⟩
  · intro tokens
    rw [tokensOf_eq_lex, lexes_iff, Except.ok.injEq, eq_comm]
    rfl
  · intro i
    exact Text.getElem?_eq_some_iff marker.small
  · intro i
    exact Text.getElem?_eq_some_iff (by decide)

theorem tokensOf_multibyte_names :
    tokensOf "€@é@\x7b@\x7dx@\x7b" default =
      .ok [⟨.reference .compact "é", 3, 6⟩, ⟨.reference .braced "@", 6, 10⟩,
        ⟨.unterminatedBrace, 11, 13⟩] := by
  have derived : Lexes default [] "€@é@\x7b@\x7dx@\x7b".toList
      [⟨.reference .compact "é", 3, 6⟩, ⟨.reference .braced "@", 6, 10⟩, ⟨.unterminatedBrace, 11, 13⟩] := by
    have name : closeBrace ∉ ['@'] := by decide
    have rest : closeBrace ∉ ([] : List Char) := by decide
    exact .skip (by decide) (.compact (by decide) (by decide) (.braced name (.skip (by decide)
      (.unclosed rest .done))))
  exact ((tokensOf_eq_ok_iff_lexes _ default).2.1 _).2 derived

end TextTemplate

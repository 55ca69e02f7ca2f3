import TextTemplate.Proofs.Printing

/-!
References in their long form.

A text is its tokens with the literals between them.  Write every compact reference with braces, and leave all
literals and the other tokens as they are: the text grows and its offsets move, but the same tokens are found in
it, between the same literals.  A name that is a closing brace has no long form, and a brace that was never
closed would find an end in one that was added; where a text has neither, nothing else can happen.

* `weave_literalsOf`: a text is woven of its literals and its tokens.
* `lexemes_longForm`: what is read in the long form is the long form of what was read.
* `parse_longForm`: so the long form is accepted and means what the text does.
-/

namespace TextTemplate

variable {ε γ : Type} {marker : Marker} {table : Variables ε}

namespace TokenKind

/-- A token of this kind as it is written. -/
def written (marker : Marker) : TokenKind → String
  | escape => marker.text ++ marker.text
  | reference .compact name => marker.text ++ name
  | reference .braced name => (Part.reference name).print marker
  | unterminatedMarker => marker.text
  | unterminatedBrace => marker.text ++ String.singleton openBrace

/-- The same kind, with a reference in its long form. -/
def longForm : TokenKind → TokenKind
  | reference _ name => reference .braced name
  | escape => escape
  | unterminatedMarker => unterminatedMarker
  | unterminatedBrace => unterminatedBrace

end TokenKind

/-- The literals of a text from `cursor` on: what lies between the tokens, and before and behind them. -/
def literalsFrom (text : String) (cursor : Nat) : List Token → Except Text.SliceError (List String)
  | [] => do
    let tail ← Text.slice text cursor text.utf8ByteSize
    .ok [tail]
  | token :: tokens => do
    let before ← Text.slice text cursor token.start
    let literals ← literalsFrom text token.stop tokens
    .ok (before :: literals)

/-- Literals with other parts between them. -/
def weave : List String → List String → String
  | [], _ => ""
  | literal :: _, [] => literal
  | literal :: literals, part :: parts => literal ++ part ++ weave literals parts

namespace Lexeme

/-- The kind of token that is reported for a lexeme. -/
def kind? : Lexeme → Option TokenKind
  | plain _ => none
  | escape => some .escape
  | compact c => some (.reference .compact (String.singleton c))
  | braced name => some (.reference .braced name)
  | strayMarker => some .unterminatedMarker
  | strayBrace => some .unterminatedBrace

/-- The same lexeme, with a reference in its long form. -/
def longForm : Lexeme → Lexeme
  | compact c => braced (String.singleton c)
  | l => l

theorem token?_eq_map_kind? (offset : Nat) (l : Lexeme) :
    l.token? marker offset = l.kind?.map fun kind => ⟨kind, offset, offset + l.size marker⟩ := by
  cases l <;> rfl

theorem written_of_kind? {l : Lexeme} {kind : TokenKind} (reported : l.kind? = some kind) :
    kind.written marker = String.ofList (l.spelling marker) := by
  apply String.toList_inj.1
  cases l <;> cases reported <;> simp [TokenKind.written, spelling, Marker.text, Part.print]

end Lexeme

/-- The literals between lexemes, after the characters of one that was begun. -/
def literalsOf : List Char → List Lexeme → List String
  | literal, [] => [String.ofList literal]
  | literal, .plain c :: ls => literalsOf (literal ++ [c]) ls
  | literal, _ :: ls => String.ofList literal :: literalsOf [] ls

/-! ### Literals and tokens -/

/-- A lexeme that is reported ends a literal. -/
theorem literalsOf_cons {l : Lexeme} {kind : TokenKind} (reported : l.kind? = some kind) (literal : List Char)
    (ls : List Lexeme) : literalsOf literal (l :: ls) = String.ofList literal :: literalsOf [] ls := by
  cases l with
  | plain c => cases reported
  | _ => rfl

theorem map_kind_place (marker : Marker) (offset : Nat) (ls : List Lexeme) :
    ((place marker offset ls).filterMap fun p => p.2.token? marker p.1).map (·.kind) =
      ls.filterMap Lexeme.kind? := by
  rw [List.map_filterMap]
  conv_rhs => rw [← map_snd_place marker offset ls, List.filterMap_map]
  refine congrArg (List.filterMap · _) (funext fun p => ?_)
  rw [Lexeme.token?_eq_map_kind?, Option.map_map, Function.comp_apply]
  exact Option.map_id'

theorem map_comp_kind_place {β : Type} (f : TokenKind → β) (marker : Marker) (offset : Nat) (ls : List Lexeme) :
    ((place marker offset ls).filterMap fun p => p.2.token? marker p.1).map (fun token => f token.kind) =
      (ls.filterMap Lexeme.kind?).map f := by
  rw [← map_kind_place marker offset ls, List.map_map]
  rfl

/-- The literals between the tokens of placed lexemes are those between the lexemes. -/
theorem literalsFrom_place {text : String} (before : String) (literal : List Char) {offset : Nat}
    {ls : List Lexeme} (spelled : text = before ++ String.ofList literal ++ String.ofList (spell marker ls))
    (start : (before ++ String.ofList literal).utf8ByteSize = offset) :
    literalsFrom text before.utf8ByteSize
        ((place marker offset ls).filterMap fun p => p.2.token? marker p.1) =
      .ok (literalsOf literal ls) := by
  induction ls generalizing before literal offset with
  | nil =>
    have tail : Text.slice text before.utf8ByteSize text.utf8ByteSize = .ok (String.ofList literal) := by
      refine Text.slice_eq_ok_iff.2 ⟨before, "", ?_, rfl, ?_⟩ <;> simp [spelled]
    simp only [place, List.filterMap_nil, literalsFrom, tail, literalsOf]
    rfl
  | cons l ls ih =>
    rw [spell_cons, String.ofList_append, ← String.append_assoc] at spelled
    have next : (before ++ String.ofList literal ++ String.ofList (l.spelling marker)).utf8ByteSize =
        offset + l.size marker := by
      rw [String.utf8ByteSize_append, start, Lexeme.size, byteLength]
    rw [filterMap_place_cons, Lexeme.token?_eq_map_kind?]
    cases reported : l.kind? with
    | none =>
      -- The lexeme is a plain character, and the literal goes on.
      obtain ⟨c, rfl⟩ : ∃ c, l = .plain c := by cases l <;> first | exact ⟨_, rfl⟩ | cases reported
      refine ih before (literal ++ [c]) ?_ ?_
      · rw [spelled, String.ofList_append, ← String.append_assoc]
        rfl
      · rw [← next, String.ofList_append, String.append_assoc]
        rfl
    | some kind =>
      have literalOk : Text.slice text before.utf8ByteSize offset = .ok (String.ofList literal) :=
        Text.slice_eq_ok_iff.2 ⟨before, _, spelled.trans (String.append_assoc ..), rfl, start⟩
      have rest := ih (before ++ String.ofList literal ++ String.ofList (l.spelling marker)) []
        (by simpa using spelled) (by simpa using next)
      rw [next] at rest
      simp only [Option.map_some, Option.toList_some, List.singleton_append, literalsFrom, literalOk, rest,
        literalsOf_cons reported]
      rfl

/-- **A text is woven of its literals and its tokens.** -/
theorem weave_literalsOf (literal : List Char) (ls : List Lexeme) :
    weave (literalsOf literal ls) ((ls.filterMap Lexeme.kind?).map (·.written marker)) =
      String.ofList (literal ++ spell marker ls) := by
  induction ls generalizing literal with
  | nil => simp [literalsOf, weave]
  | cons l ls ih =>
    cases reported : l.kind? with
    | none =>
      obtain ⟨c, rfl⟩ : ∃ c, l = .plain c := by cases l <;> first | exact ⟨_, rfl⟩ | cases reported
      rw [literalsOf, List.filterMap_cons_none reported, ih, spell_cons, List.append_assoc]
      rfl
    | some kind =>
      rw [literalsOf_cons reported, List.filterMap_cons_some reported, List.map_cons, weave, ih,
        Lexeme.written_of_kind? reported, spell_cons]
      simp only [List.nil_append, String.ofList_append, String.append_assoc]

/-- The literals of a text lie between its lexemes. -/
theorem literalsFrom_tokens (text : String) (marker : Marker) :
    literalsFrom text 0
        ((place marker 0 (lexemes marker text.toList)).filterMap fun p => p.2.token? marker p.1) =
      .ok (literalsOf [] (lexemes marker text.toList)) := by
  have spelled : text = "" ++ String.ofList [] ++ String.ofList (spell marker (lexemes marker text.toList)) := by
    simp [spell_lexemes]
  exact literalsFrom_place "" [] spelled rfl

/-! ### Long forms -/

namespace Lexeme

theorem kind?_longForm (l : Lexeme) : l.longForm.kind? = l.kind?.map TokenKind.longForm := by
  cases l <;> rfl

theorem name?_longForm (l : Lexeme) : l.longForm.name? = l.name? := by
  cases l <;> rfl

theorem write_longForm {table : Variables (Evaluator Buffer γ)} (ctx : γ) (l : Lexeme) :
    l.longForm.write marker table ctx = l.write marker table ctx := by
  cases l <;> rfl

theorem problem?_longForm_eq_none_iff (l : Lexeme) :
    l.longForm.problem? marker table = none ↔ l.problem? marker table = none := by
  cases l with
  | compact c => exact undefined?_eq_none_iff.trans undefined?_eq_none_iff.symm
  | _ => exact Iff.rfl

end Lexeme

theorem filterMap_kind?_longForm (ls : List Lexeme) :
    (ls.map Lexeme.longForm).filterMap Lexeme.kind? = (ls.filterMap Lexeme.kind?).map TokenKind.longForm := by
  rw [List.filterMap_map, List.map_filterMap]
  exact congrArg (List.filterMap · ls) (funext Lexeme.kind?_longForm)

theorem map_written_longForm (ls : List Lexeme) :
    ((ls.map Lexeme.longForm).filterMap Lexeme.kind?).map (·.written marker) =
      (ls.filterMap Lexeme.kind?).map fun kind => kind.longForm.written marker := by
  rw [filterMap_kind?_longForm, List.map_map]
  rfl

theorem literalsOf_longForm (literal : List Char) (ls : List Lexeme) :
    literalsOf literal (ls.map Lexeme.longForm) = literalsOf literal ls := by
  induction ls generalizing literal with
  | nil => rfl
  | cons l ls ih =>
    rw [List.map_cons]
    cases l with
    | plain c => exact ih _
    | _ => exact congrArg (_ :: ·) (ih [])

/-- The lexeme keeps its extent in a text whose compact references are written in their long form: it closes no
brace that was open, and is no open brace itself. -/
def Lexeme.Lengthens (l : Lexeme) : Prop := l ≠ strayBrace ∧ l ≠ compact closeBrace

theorem lengthens_of_kinds {ls : List Lexeme}
    (fit : ∀ kind ∈ ls.filterMap Lexeme.kind?,
      kind ≠ .unterminatedBrace ∧ kind ≠ .reference .compact (String.singleton closeBrace)) :
    ∀ l ∈ ls, l.Lengthens := by
  intro l mem
  have reported {kind : TokenKind} (same : l.kind? = some kind) := fit kind (List.mem_filterMap.2 ⟨l, mem, same⟩)
  constructor
  · rintro rfl
    exact (reported rfl).1 rfl
  · rintro rfl
    exact (reported rfl).2 rfl

/-- A lexeme whose long form is closed is read back in front of others that are. -/
theorem lexemes_longForm_cons {l : Lexeme} {ls : List Lexeme} (closed : l.longForm.Closed marker)
    (rest : lexemes marker (spell marker (ls.map Lexeme.longForm)) = ls.map Lexeme.longForm) :
    lexemes marker (spell marker ((l :: ls).map Lexeme.longForm)) = (l :: ls).map Lexeme.longForm := by
  rw [List.map_cons, spell_cons, lexemes_spelling_append closed, rest]

/-- **What is read in the long form is the long form of what was read.** -/
theorem lexemes_longForm {cs : List Char} (free : ∀ l ∈ lexemes marker cs, l.Lengthens) :
    lexemes marker (spell marker ((lexemes marker cs).map Lexeme.longForm)) =
      (lexemes marker cs).map Lexeme.longForm := by
  fun_induction lexemes marker cs with
  | case1 => exact lexemes_nil
  | case2 c cs other ih =>
    exact lexemes_longForm_cons (.plain other) (ih fun l later => free l (List.mem_cons_of_mem _ later))
  | case3 c same => exact lexemes_last
  | case4 c same rest name after closed ih =>
    have absent : closeBrace ∉ (String.ofList name).toList := by simpa using (eq_of_splitFirst closed).2
    exact lexemes_longForm_cons (.braced absent) (ih fun l later => free l (List.mem_cons_of_mem _ later))
  | case5 c same rest unclosed ih => exact absurd rfl (free .strayBrace List.mem_cons_self).1
  | case6 c same rest notBrace ih =>
    exact lexemes_longForm_cons .escape (ih fun l later => free l (List.mem_cons_of_mem _ later))
  | case7 c same d rest notBrace notMarker ih =>
    have absent : closeBrace ∉ (String.singleton d).toList := by
      have differ := (free (.compact d) List.mem_cons_self).2
      simpa [eq_comm] using differ
    exact lexemes_longForm_cons (.braced absent) (ih fun l later => free l (List.mem_cons_of_mem _ later))

namespace Substituter

variable {s : Substituter ε} {text text' : String}

/-- Texts that are read alike up to the form of their references are accepted alike. -/
theorem exists_parse_longForm
    (read : lexemes s.marker text'.toList = (lexemes s.marker text.toList).map Lexeme.longForm) :
    (∃ t', s.parse text' = .ok t') ↔ ∃ t, s.parse text = .ok t := by
  have fine : s.problems text' = [] ↔ s.problems text = [] := by
    rw [problems_eq_nil_iff, problems_eq_nil_iff, read, List.forall_mem_map]
    exact forall₂_congr fun l _ => l.problem?_longForm_eq_none_iff
  simp only [parse_eq_ok_iff, exists_and_left, exists_eq', and_true, fine]

/-- They refer to the same names. -/
theorem refersTo_longForm
    (read : lexemes s.marker text'.toList = (lexemes s.marker text.toList).map Lexeme.longForm)
    (name : String) : (s.template text').refersTo name = (s.template text).refersTo name := by
  rw [Bool.eq_iff_iff, Template.refersTo_iff, Template.refersTo_iff, names_template, names_template, read,
    List.filterMap_map]
  simp only [Function.comp_def, Lexeme.name?_longForm]

/-- They write the same, into every buffer. -/
theorem expand_longForm {s : Substituter (Evaluator Buffer γ)}
    (read : lexemes s.marker text'.toList = (lexemes s.marker text.toList).map Lexeme.longForm) (ctx : γ) :
    (s.template text').expand ctx = (s.template text).expand ctx := by
  rw [expand_template, expand_template, read, writeLexemes, writeLexemes, List.map_map]
  simp only [Function.comp_def, Lexeme.write_longForm]

end Substituter

/-- **Compact and braced references are interchangeable.**  Every text is woven of its literals and its tokens.
Let no token of a text be an open brace or the compact reference to a closing brace, and write every compact
reference in its long form.  The tokens of the new text are of the same kinds and ask for the same names, and the
same literals lie between them.  The new text is accepted if and only if the old one is; and its template refers
to the same names and writes the same, for every context, from every format and into every buffer. -/
theorem parse_longForm (s : Substituter (Evaluator Buffer γ)) (text : String) :
    ∃ tokens literals, tokensOf text s.marker = .ok tokens ∧ literalsFrom text 0 tokens = .ok literals ∧
      weave literals (tokens.map (·.kind.written s.marker)) = text ∧
      ((∀ token ∈ tokens, token.kind ≠ .unterminatedBrace ∧
          token.kind ≠ .reference .compact (String.singleton closeBrace)) →
        ∃ text' tokens', weave literals (tokens.map (·.kind.longForm.written s.marker)) = text' ∧
          tokensOf text' s.marker = .ok tokens' ∧
          tokens'.map (·.kind) = tokens.map (·.kind.longForm) ∧
          literalsFrom text' 0 tokens' = .ok literals ∧
          ((∃ t', s.parse text' = .ok t') ↔ ∃ t, s.parse text = .ok t) ∧
          ∀ t t', s.parse text = .ok t → s.parse text' = .ok t' →
            (∀ name, t'.refersTo name = t.refersTo name) ∧
            ∀ ctx out, t'.expand ctx out = t.expand ctx out) := by
  generalize found : lexemes s.marker text.toList = ls
  have tokens := tokensOf_eq_place text s.marker
  have literals := literalsFrom_tokens text s.marker
  rw [found] at tokens literals
  refine ⟨_, _, tokens, literals, ?_, ?_⟩
  · rw [map_comp_kind_place (·.written s.marker), weave_literalsOf, ← found, List.nil_append, spell_lexemes,
      String.ofList_toList]
  · intro lengthens
    have free : ∀ l ∈ ls, l.Lengthens := by
      apply lengthens_of_kinds
      rw [← map_kind_place s.marker 0]
      exact List.forall_mem_map.2 lengthens
    let text' := String.ofList (spell s.marker (ls.map Lexeme.longForm))
    have read : lexemes s.marker text'.toList = ls.map Lexeme.longForm := by
      rw [String.toList_ofList, ← found, lexemes_longForm (by rwa [found])]
    have tokens' := tokensOf_eq_place text' s.marker
    have literals' := literalsFrom_tokens text' s.marker
    rw [read] at tokens' literals'
    rw [← found] at read
    refine ⟨text', _, ?_, tokens', ?_, ?_, Substituter.exists_parse_longForm read, ?_⟩
    · rw [map_comp_kind_place fun kind => kind.longForm.written s.marker, ← map_written_longForm,
        ← literalsOf_longForm, weave_literalsOf, List.nil_append]
    · rw [map_kind_place, filterMap_kind?_longForm, map_comp_kind_place]
    · rw [literals', literalsOf_longForm]
    · intro t t' parsed parsed'
      obtain ⟨-, rfl⟩ := Substituter.parse_eq_ok_iff.1 parsed
      obtain ⟨-, rfl⟩ := Substituter.parse_eq_ok_iff.1 parsed'
      constructor
      · exact Substituter.refersTo_longForm read
      · intro ctx out
        rw [Substituter.expand_longForm read]

theorem parse_longForm_one_compact :
    let s : Substituter (Evaluator Buffer Unit) := ⟨{ lenient := true }, ⟨[("x", fun _ => Writer.text "1")]⟩⟩
    ∃ tokens literals, tokensOf "é@x@\x7b@x\x7d@@x@" s.marker = .ok tokens ∧
      (∀ token ∈ tokens, token.kind ≠ .unterminatedBrace ∧
        token.kind ≠ .reference .compact (String.singleton closeBrace)) ∧
      literals = ["é", "", "", "x", ""] ∧
      weave literals (tokens.map (·.kind.longForm.written s.marker)) = "é@\x7bx\x7d@\x7b@x\x7d@@x@" ∧
      ∃ t t', s.parse "é@x@\x7b@x\x7d@@x@" = .ok t ∧ s.parse "é@\x7bx\x7d@\x7b@x\x7d@@x@" = .ok t' ∧
        ∀ ctx out, t'.expand ctx out = t.expand ctx out := by
  intro s
  let ls : List Lexeme := [.plain 'é', .compact 'x', .braced "@x", .escape, .plain 'x']
  have read : lexemes s.marker "é@x@\x7b@x\x7d@@x@".toList = ls ++ [.strayMarker] := by
    have closed : ∀ l ∈ ls, l.Closed s.marker := by decide
    have spelled : "é@x@\x7b@x\x7d@@x@".toList = spell s.marker ls ++ [s.marker.char] := rfl
    rw [spelled, lexemes_spell_append closed, lexemes_last]
  obtain ⟨tokens, literals, scanned, between, -, lengthened⟩ := parse_longForm s "é@x@\x7b@x\x7d@@x@"
  have found := tokensOf_eq_place "é@x@\x7b@x\x7d@@x@" s.marker
  rw [read] at found
  obtain rfl := Except.ok.inj (scanned.symm.trans found)
  have literal := literalsFrom_tokens "é@x@\x7b@x\x7d@@x@" s.marker
  rw [read] at literal
  obtain rfl := Except.ok.inj (between.symm.trans literal)
  have fit : ∀ token ∈ (place s.marker 0 (ls ++ [.strayMarker])).filterMap fun p => p.2.token? s.marker p.1,
      token.kind ≠ .unterminatedBrace ∧
        token.kind ≠ .reference .compact (String.singleton closeBrace) := by decide
  obtain ⟨text', -, woven, -, -, -, -, alike⟩ := lengthened fit
  have long : "é@\x7bx\x7d@\x7b@x\x7d@@x@" = text' := woven
  subst long
  have parsed (text : String) := s.parse_of_lenient rfl text
  exact ⟨_, _, scanned, fit, rfl, woven, _, _, parsed _, parsed _, (alike _ _ (parsed _) (parsed _)).2⟩

end TextTemplate

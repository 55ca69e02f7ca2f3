import Mathlib.Data.List.Basic
import TextTemplate.Proofs.Resolution

/-!
The texts that a strict substituter takes.

* `Lexeme.Accepted`: the pieces of such a text, said without reading one.
* `accepted_iff`: an accepted piece is a closed lexeme that is no problem.
* `parse_strict_iff_derives`: a strict parse succeeds exactly for the texts that are put together from
  accepted pieces, in one way only, and its spans are those of the pieces.
-/

namespace TextTemplate

variable {ε : Type} {marker : Marker} {table : Variables ε}

namespace Lexeme

/-- The pieces of a text without problems: a character other than the marker, the marker twice, the marker
and a character that is a defined name, or the marker and a defined name without a closing brace, between
braces. -/
inductive Accepted (marker : Marker) (table : Variables ε) : Lexeme → Prop where
  | plain {c : Char} : c ≠ marker.char → Accepted marker table (plain c)
  | escape : Accepted marker table escape
  | compact {c : Char} : c ≠ marker.char → c ≠ openBrace →
      table.isDefined (String.singleton c) = true → Accepted marker table (compact c)
  | braced {name : String} : closeBrace ∉ name.toList → table.isDefined name = true →
      Accepted marker table (braced name)

/-- The span of an escape or a reference at `offset`. -/
def span? (marker : Marker) (offset : Nat) (l : Lexeme) : Option Span :=
  match l with
  | escape => some ⟨offset, offset + l.size marker, none⟩
  | compact c => some ⟨offset, offset + l.size marker, some (String.singleton c)⟩
  | braced name => some ⟨offset, offset + l.size marker, some name⟩
  | plain _ | strayMarker | strayBrace => none

theorem undefined?_eq_none_iff {l : Lexeme} {name : String} :
    problem?.undefined? marker table l name = none ↔ table.isDefined name = true := by
  unfold problem?.undefined? Variables.isDefined
  cases table.find? name <;> simp

theorem accepted_iff {l : Lexeme} :
    l.Accepted marker table ↔ l.Closed marker ∧ l.problem? marker table = none := by
  constructor
  · intro accepted
    cases accepted with
    | plain other => exact ⟨.plain other, rfl⟩
    | escape => exact ⟨.escape, rfl⟩
    | compact notMarker notBrace defined =>
      exact ⟨.compact notMarker notBrace, undefined?_eq_none_iff.2 defined⟩
    | braced absent defined => exact ⟨.braced absent, undefined?_eq_none_iff.2 defined⟩
  · rintro ⟨closed, fine⟩
    cases closed with
    | plain other => exact .plain other
    | escape => exact .escape
    | compact notMarker notBrace =>
      exact .compact notMarker notBrace (undefined?_eq_none_iff.1 fine)
    | braced absent => exact .braced absent (undefined?_eq_none_iff.1 fine)

instance (marker : Marker) (table : Variables ε) : DecidablePred (Accepted marker table) := fun l =>
  decidable_of_iff (l.Closed marker ∧ l.problem? marker table = none) accepted_iff.symm

/-- An accepted piece is replaced where it has a span. -/
theorem Accepted.span?_eq {l : Lexeme} (accepted : l.Accepted marker table) (offset : Nat) :
    (l.substitution? marker table offset).bind Substitution.span? = l.span? marker offset := by
  cases accepted with
  | plain other => rfl
  | escape => rfl
  | compact notMarker notBrace defined =>
    obtain ⟨eval, found⟩ := Option.isSome_iff_exists.1 defined
    simp [substitution?, replacement?, Variables.resolve, found, Substitution.span?, span?]
  | braced absent defined =>
    obtain ⟨eval, found⟩ := Option.isSome_iff_exists.1 defined
    simp [substitution?, replacement?, Variables.resolve, found, Substitution.span?, span?]

end Lexeme

namespace Substituter

/-- The pieces are accepted, and put together they are the text. -/
structure Derives (s : Substituter ε) (ls : List Lexeme) (text : String) : Prop where
  accepted : ∀ l ∈ ls, l.Accepted s.marker s.table
  spelled : text = String.ofList (spell s.marker ls)

variable {s : Substituter ε} {text : String} {ls : List Lexeme}

/-- Pieces of a text are read back from it. -/
theorem Derives.lexemes_eq (derives : s.Derives ls text) : lexemes s.marker text.toList = ls := by
  rw [derives.spelled, String.toList_ofList]
  exact lexemes_spell fun l mem => (Lexeme.accepted_iff.1 (derives.accepted l mem)).1

theorem Derives.problems_eq_nil (derives : s.Derives ls text) : s.problems text = [] := by
  rw [problems_eq_nil_iff, derives.lexemes_eq]
  exact fun l mem => (Lexeme.accepted_iff.1 (derives.accepted l mem)).2

theorem derives_lexemes (fine : s.problems text = []) :
    s.Derives (lexemes s.marker text.toList) text where
  accepted := by
    intro l mem
    have noProblem := problems_eq_nil_iff.1 fine l mem
    rcases closed_or_stray_of_mem_lexemes mem with closed | rfl | rfl
    · exact Lexeme.accepted_iff.2 ⟨closed, noProblem⟩
    · cases noProblem
    · cases noProblem
  spelled := by rw [spell_lexemes, String.ofList_toList]

/-- The spans of a text without problems are those of its pieces. -/
theorem Derives.spans_eq (derives : s.Derives ls text) :
    (s.template text).spans = (place s.marker 0 ls).filterMap fun p => p.2.span? s.marker p.1 := by
  unfold Template.spans
  rw [substitutions_template, placed, derives.lexemes_eq, substitutionsOf, List.filterMap_filterMap]
  apply List.filterMap_congr
  intro p placed
  exact (derives.accepted p.2 (mem_of_mem_place placed)).span?_eq p.1

end Substituter

/-- **Strict parsing accepts exactly the grammar.**  A strict parse succeeds if and only if the text can be
put together from accepted pieces.  It can be so in one way only, and the spans of the template are then
the places of its escapes and references, in order. -/
theorem parse_strict_iff_derives {s : Substituter ε} (strict : s.lenient = false) (text : String) :
    ((∃ t, s.parse text = .ok t) ↔ ∃ ls, s.Derives ls text) ∧
    (∀ ls ks, s.Derives ls text → s.Derives ks text → ls = ks) ∧
    ∀ t ls, s.parse text = .ok t → s.Derives ls text →
      t.spans = (place s.marker 0 ls).filterMap fun p => p.2.span? s.marker p.1 := by
  refine ⟨⟨?_, ?_⟩, ?_, ?_⟩
  · rintro ⟨t, parsed⟩
    have fine : s.problems text = [] := by
      simpa [strict] using (Substituter.parse_eq_ok_iff.1 parsed).1
    exact ⟨_, Substituter.derives_lexemes fine⟩
  · rintro ⟨ls, derives⟩
    exact ⟨_, Substituter.parse_of_clean derives.problems_eq_nil⟩
  · intro ls ks first second
    exact first.lexemes_eq.symm.trans second.lexemes_eq
  · intro t ls parsed derives
    obtain ⟨-, rfl⟩ := Substituter.parse_eq_ok_iff.1 parsed
    exact derives.spans_eq

theorem parse_strict_mixed_text :
    let s : Substituter (Evaluator Buffer Unit) := ⟨{}, ⟨[("x", fun _ => Writer.put (.integer 7))]⟩⟩
    let pieces : List Lexeme := [.escape, .plain 'é', .compact 'x', .braced "x", .plain '\x7d']
    s.lenient = false ∧ s.Derives pieces "@@é@x@\x7bx\x7d\x7d" ∧
      ∃ t, s.parse "@@é@x@\x7bx\x7d\x7d" = .ok t ∧
        t.spans = [⟨0, 2, none⟩, ⟨4, 6, some "x"⟩, ⟨6, 10, some "x"⟩] := by
  intro s pieces
  have derives : s.Derives pieces "@@é@x@\x7bx\x7d\x7d" := ⟨by decide, by decide⟩
  obtain ⟨accepts, -, listed⟩ := parse_strict_iff_derives (s := s) rfl "@@é@x@\x7bx\x7d\x7d"
  obtain ⟨t, parsed⟩ := accepts.2 ⟨pieces, derives⟩
  refine ⟨rfl, derives, t, parsed, ?_⟩
  rw [listed t pieces parsed derives]
  decide

end TextTemplate

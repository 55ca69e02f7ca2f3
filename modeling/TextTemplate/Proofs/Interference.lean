import Mathlib.Data.List.Basic
import TextTemplate.Proofs.Padding
import TextTemplate.Proofs.Recording

/-!
What a template owes to one variable.

Until it is expanded, a template asks of a name only whether it is defined; and expanding it runs the
variables that it refers to and no others.  So a host may leave out the work for a variable that a template
does not refer to.

* `Substituter.spans_congr`: what is listed of a text depends on which names are defined, not on what they
  stand for.
* `Substituter.template_congr_of_names`: a template depends on what its own names stand for.
* `parse_agreeExcept`: what two substituters that differ in one variable make of a text.
-/

namespace TextTemplate

variable {ε : Type} {marker : Marker} {table table' : Variables ε}

/-! ### What is listed of a text -/

namespace Lexeme

/-- Only whether its name is defined counts for the span of a lexeme. -/
theorem span?_congr (same : ∀ name, table.isDefined name = table'.isDefined name) (offset : Nat)
    (l : Lexeme) :
    (l.substitution? marker table offset).bind Substitution.span? =
      (l.substitution? marker table' offset).bind Substitution.span? := by
  have resolved (start stop : Nat) (name : String) :
      (Substitution.mk start stop (table.resolve name)).span? =
        (Substitution.mk start stop (table'.resolve name)).span? := by
    unfold Variables.resolve
    rcases Variables.find?_cases (same name) with ⟨eval, eval', found, found'⟩ | ⟨none, none'⟩
    · rw [found, found']
      rfl
    · rw [none, none']
  cases l with
  | compact c => exact resolved ..
  | braced name => exact resolved ..
  | plain c => rfl
  | escape => rfl
  | strayMarker => rfl
  | strayBrace => rfl

/-- A lexeme is replaced by what its name stands for. -/
theorem substitution?_congr {l : Lexeme}
    (same : ∀ name, l.name? = some name → table.find? name = table'.find? name) (offset : Nat) :
    l.substitution? marker table offset = l.substitution? marker table' offset := by
  have resolved (name : String) (asks : l.name? = some name) : table.resolve name = table'.resolve name := by
    unfold Variables.resolve
    rw [same name asks]
  have replaced : l.replacement? table = l.replacement? table' := by
    cases l with
    | compact c => exact congrArg some (resolved _ rfl)
    | braced name => exact congrArg some (resolved name rfl)
    | plain c => rfl
    | escape => rfl
    | strayMarker => rfl
    | strayBrace => rfl
  rw [substitution?, substitution?, replaced]

end Lexeme

namespace Substituter

variable {s s' : Substituter ε}

theorem spans_congr (marker : s.marker = s'.marker)
    (same : ∀ name, s.isDefined name = s'.isDefined name) (text : String) :
    (s.template text).spans = (s'.template text).spans := by
  simp only [Template.spans, substitutions_template, substitutionsOf, List.filterMap_filterMap,
    placed_congr marker, marker]
  exact congrArg (List.filterMap · _) (funext fun p => p.2.span?_congr same p.1)

/-- Where two substituters agree on all that a text asks for, they make the same template of it. -/
theorem template_congr_of_names (marker : s'.marker = s.marker)
    (defined : ∀ name, s.isDefined name = s'.isDefined name) {text : String}
    (same : ∀ l ∈ lexemes s.marker text.toList, ∀ name, l.name? = some name →
      s.table.find? name = s'.table.find? name) :
    s'.template text = s.template text := by
  have replaced : substitutionsOf s.marker s'.table (s.placed text) =
      substitutionsOf s.marker s.table (s.placed text) :=
    List.filterMap_congr fun p mem =>
      (Lexeme.substitution?_congr (same p.2 (mem_of_mem_place mem)) p.1).symm
  refine template_congr marker ?_
  rw [scan_eq, scan_eq, placed_congr marker, marker, replaced, problems_congr marker.symm defined]

/-- A defined name that a lexeme of the text asks for is referred to. -/
theorem refersTo_of_mem {text : String} {l : Lexeme} {name : String}
    (mem : l ∈ lexemes s.marker text.toList) (asks : l.name? = some name)
    (defined : s.isDefined name = true) : (s.template text).refersTo name = true := by
  rw [Template.refersTo_iff, names_template]
  refine List.mem_filterMap.2 ⟨l, mem, ?_⟩
  rw [asks]
  exact Option.filter_some_pos defined

end Substituter

/-- The references to a name are the places where its variable is run. -/
theorem Template.refersTo_iff_reference (t : Template ε) (name : String) :
    t.refersTo name = true ↔ ∃ sub ∈ t.substitutions, ∃ eval, sub.replacement = .reference name eval := by
  rw [refersTo, List.any_eq_true]
  refine exists_congr fun sub => and_congr_right fun _ => ?_
  obtain ⟨start, stop, replacement⟩ := sub
  cases replacement with
  | marker => simp [Replacement.refersTo]
  | omitted => simp [Replacement.refersTo]
  | reference other eval => simp [Replacement.refersTo]

/-! ### Two substituters -/

/-- The same texts are read by both, in the same way, and both define the same names; but `name` may stand
for different things. -/
structure Substituter.AgreeExcept (name : String) (s s' : Substituter ε) : Prop where
  marker : s.marker = s'.marker
  lenient : s.lenient = s'.lenient
  isDefined : ∀ other, s.isDefined other = s'.isDefined other
  find?_eq : ∀ other, other ≠ name → s.table.find? other = s'.table.find? other

variable {σ γ : Type} [Sink σ]

/-- Two templates that list the same and refer to the same names.  If `name` is not among these, they write
the same, for every context, from every format and into every sink. -/
structure Template.AlikeExcept (name : String) (t t' : Template (Evaluator σ γ)) : Prop where
  spans : t.spans = t'.spans
  diagnostics : t.diagnostics = t'.diagnostics
  refersTo : ∀ other, t.refersTo other = t'.refersTo other
  expand : t.refersTo name = false → ∀ ctx out, t.expand ctx out = t'.expand ctx out

theorem Substituter.AgreeExcept.template {s s' : Substituter (Evaluator σ γ)} {name : String}
    (agree : s.AgreeExcept name s') (text : String) :
    Template.AlikeExcept name (s.template text) (s'.template text) where
  spans := spans_congr agree.marker agree.isDefined text
  diagnostics := problems_congr agree.marker agree.isDefined text
  refersTo other := by
    rw [Bool.eq_iff_iff, Template.refersTo_iff, Template.refersTo_iff,
      spans_congr agree.marker agree.isDefined text]
  expand := by
    intro silent ctx out
    rw [template_congr_of_names agree.marker.symm agree.isDefined fun l mem other asks => ?_]
    by_cases same : other = name
    · subst same
      -- The text asks for the name and does not refer to it, so it is defined by neither.
      rcases Variables.find?_cases (agree.isDefined other) with ⟨eval, -, found, -⟩ | ⟨none, none'⟩
      · have refers := refersTo_of_mem mem asks (Option.isSome_iff_exists.2 ⟨eval, found⟩)
        rw [silent] at refers
        cases refers
      · rw [none, none']
    · exact agree.find?_eq other same

/-- **A variable that is not referred to does not matter.**  Let two substituters differ in what one name
stands for.  They refuse the same texts for the same problems, and their templates of any other text list
the same spans and diagnostics and refer to the same names.  The names referred to are those of the spans,
and those of the variables that are run.  If the one name is not among them, the templates write the same,
whatever it stands for.  And let the variables of the first substituter note their calls.  The text then gives
the template whose variables do so, which comes to the same with the calls beside it; and if the expansion ends
well, every variable was called as often as its name stands among the spans. -/
theorem parse_agreeExcept {s s' : Substituter (Evaluator σ γ)} {name : String} (agree : s.AgreeExcept name s')
    (text : String) :
    (∀ e, s.parse text = .error e ↔ s'.parse text = .error e) ∧
    ∀ t, s.parse text = .ok t →
      (∃ t', s'.parse text = .ok t' ∧ t.AlikeExcept name t') ∧
      (∀ other, t.refersTo other = true ↔ ∃ span ∈ t.spans, span.name = some other) ∧
      (∀ other, t.refersTo other = true ↔ ∃ sub ∈ t.substitutions, ∃ eval,
        sub.replacement = .reference other eval ∧ s.table.find? other = some eval) ∧
      s.recorded.parse text = .ok t.recorded ∧
      ∀ ctx out, t.recorded.expand ctx out.recording =
          ((t.expand ctx out).1, (t.expand ctx out).2.withCalls (t.calls ctx out)) ∧
        ((t.expand ctx out).1 = .ok () → ∀ other,
          (t.calls ctx out).countP (·.name = other) = t.spans.countP (·.name = some other)) := by
  have same := Substituter.problems_congr agree.marker agree.isDefined text
  refine ⟨fun e => ?_, fun t parsed => ⟨?_, fun other => ?_, fun other => ?_, ?_, fun ctx out => ⟨?_, ?_⟩⟩⟩
  · rw [s.parse_eq, s'.parse_eq, ← same, ← agree.lenient]
    split
    · rfl
    · exact ⟨nofun, nofun⟩
  · obtain ⟨tolerated, rfl⟩ := Substituter.parse_eq_ok_iff.1 parsed
    rw [same, agree.lenient] at tolerated
    exact ⟨_, Substituter.parse_eq_ok_iff.2 ⟨tolerated, rfl⟩, agree.template text⟩
  · exact (t.refersTo_iff other).trans List.mem_filterMap
  · obtain ⟨-, rfl⟩ := Substituter.parse_eq_ok_iff.1 parsed
    rw [Template.refersTo_iff_reference]
    constructor
    · rintro ⟨sub, mem, eval, refers⟩
      exact ⟨sub, mem, eval, refers, Substituter.find?_of_reference mem refers⟩
    · rintro ⟨sub, mem, eval, refers, -⟩
      exact ⟨sub, mem, eval, refers⟩
  · rw [Substituter.parse_recorded, parsed]
    rfl
  · exact t.expand_recorded ctx out
  · intro done other
    exact Template.countP_calls done other

theorem parse_agreeExcept_broken_variable :
    let seven : Evaluator Buffer Unit := fun _ => Writer.put (.integer 7)
    let broken : Evaluator Buffer Unit := fun _ => Writer.fail (.failed "broken")
    let s : Substituter (Evaluator Buffer Unit) := ⟨{ lenient := true }, ⟨[("n", seven), ("x", seven)]⟩⟩
    let s' : Substituter (Evaluator Buffer Unit) := ⟨{ lenient := true }, ⟨[("n", broken), ("x", seven)]⟩⟩
    let start : Output Buffer := ⟨.growing ByteArray.empty, {}⟩
    s.AgreeExcept "n" s' ∧
      (∃ t t', s.parse "@x@@n@\x7bn" = .ok t ∧ s'.parse "@x@@n@\x7bn" = .ok t' ∧
        t.refersTo "n" = false ∧ t.expand () start = t'.expand () start) ∧
      ∃ t, s.parse "@n@x@n" = .ok t ∧ t.refersTo "n" = true ∧ (t.expand () start).1 = .ok () ∧
        (t.calls () start).countP (·.name = "n") = 2 := by
  intro seven broken s s' start
  have agree : s.AgreeExcept "n" s' := by
    refine ⟨rfl, rfl, fun other => ?_, fun other differ => ?_⟩
    · simp only [s, s', Substituter.isDefined, Variables.isDefined, Variables.find?, Variables.lookup_cons]
      split <;> rfl
    · simp only [s, s', Variables.find?, Variables.lookup_cons, if_neg differ]
  have closed : ∀ l ∈ [.compact 'x', .escape, .plain 'n'], Lexeme.Closed s.marker l := by decide
  have rest : lexemes s.marker [s.marker.char, openBrace, 'n'] = [.strayBrace, .plain 'n'] := by
    rw [lexemes_unclosed rfl, lexemes_plain (by decide), lexemes_nil]
  have read : lexemes s.marker "@x@@n@\x7bn".toList =
      [.compact 'x', .escape, .plain 'n', .strayBrace, .plain 'n'] := by
    have whole := lexemes_spell_append closed [s.marker.char, openBrace, 'n']
    rwa [rest] at whole
  have closedTwice : ∀ l ∈ [.compact 'n', .compact 'x', .compact 'n'], Lexeme.Closed s.marker l := by decide
  have readTwice : lexemes s.marker "@n@x@n".toList = [.compact 'n', .compact 'x', .compact 'n'] :=
    lexemes_spell closedTwice
  have parsed := s.parse_of_lenient rfl
  obtain ⟨⟨t', parsed', alike⟩, -⟩ := (parse_agreeExcept agree "@x@@n@\x7bn").2 _ (parsed _)
  obtain ⟨-, -, -, -, noted⟩ := (parse_agreeExcept agree "@n@x@n").2 _ (parsed _)
  have silent : (s.template "@x@@n@\x7bn").refersTo "n" = false := by
    rw [Bool.eq_false_iff, ne_eq, Template.refersTo_iff, s.names_template, read]
    decide
  have refers : (s.template "@n@x@n").refersTo "n" = true := by
    rw [Template.refersTo_iff, s.names_template, readTwice]
    decide
  have done : ((s.template "@n@x@n").expand () start).1 = .ok () := by
    have printed (content : ByteArray) :
        (seven ()).isolated ⟨.growing content, {}⟩ = (.ok (), ⟨.growing (content ++ "7".toUTF8), {}⟩) := by
      have put := (Writer.put_eq (.integer 7) ⟨.growing content, {}⟩).trans (Writer.bytes_growing _ _ _)
      simp only [Writer.isolated, seven, put]
      rfl
    rw [s.expand_template, readTwice]
    change (Writer.all [(seven ()).isolated, (seven ()).isolated, (seven ()).isolated] start).1 = _
    simp only [Writer.all, Writer.bind_apply, printed, start]
    rfl
  have twice : (s.template "@n@x@n").spans.countP (·.name = some "n") = 2 := by
    rw [Template.spans, s.substitutions_template, Substituter.placed, readTwice]
    rfl
  exact ⟨agree, ⟨_, t', parsed _, parsed', silent, alike.expand silent () start⟩, _, parsed _, refers, done,
    ((noted () start).2 done "n").trans twice⟩

end TextTemplate

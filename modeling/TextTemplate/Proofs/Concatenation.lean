import TextTemplate.Proofs.Expansion

/-!
Texts in a row.

A text whose markers and braces all find their ends is read the same whatever stands after it, and the text
after it is read as if it stood alone.  Only the offsets of the second text grow, by the length of the first.

* `Substituter.placed_append`: the lexemes of two texts are those of the first and then those of the second.
* `scan_append`: so are the substitutions and the diagnostics, and with them what is accepted and what is
  written.
-/

namespace TextTemplate

variable {ε : Type} {marker : Marker} {table : Variables ε}

/-! ### Later offsets -/

def Span.shift (length : Nat) (s : Span) : Span :=
  { s with start := length + s.start, stop := length + s.stop }

def Substitution.shift (length : Nat) (s : Substitution ε) : Substitution ε :=
  { s with start := length + s.start, stop := length + s.stop }

def Diagnostic.shift (length : Nat) (d : Diagnostic) : Diagnostic :=
  { d with offset := length + d.offset }

/-- The scan of a text that stands behind `length` bytes of another. -/
def Scan.shift (length : Nat) (scanned : Scan ε) : Scan ε :=
  ⟨scanned.substitutions.map (.shift length), scanned.diagnostics.map (.shift length)⟩

theorem Substitution.span?_shift (length : Nat) (s : Substitution ε) :
    (s.shift length).span? = s.span?.map (.shift length) := by
  obtain ⟨start, stop, replacement⟩ := s
  cases replacement <;> rfl

theorem Lexeme.substitution?_add (length offset : Nat) (l : Lexeme) :
    l.substitution? marker table (length + offset) =
      (l.substitution? marker table offset).map (.shift length) := by
  simp only [substitution?, Option.map_map, Function.comp_def, Substitution.shift, Nat.add_assoc]

theorem Lexeme.diagnostic?_add (length offset : Nat) (l : Lexeme) :
    l.diagnostic? marker table (length + offset) =
      (l.diagnostic? marker table offset).map (.shift length) := by
  simp only [diagnostic?, Option.map_map, Function.comp_def, Diagnostic.shift]

theorem substitutionsOf_place_add (length offset : Nat) (ls : List Lexeme) :
    substitutionsOf marker table (place marker (length + offset) ls) =
      (substitutionsOf marker table (place marker offset ls)).map (.shift length) := by
  simp only [substitutionsOf, place_add, List.filterMap_map, List.map_filterMap, Function.comp_def,
    Lexeme.substitution?_add]

theorem diagnosticsOf_place_add (length offset : Nat) (ls : List Lexeme) :
    diagnosticsOf marker table (place marker (length + offset) ls) =
      (diagnosticsOf marker table (place marker offset ls)).map (.shift length) := by
  simp only [diagnosticsOf, place_add, List.filterMap_map, List.map_filterMap, Function.comp_def,
    Lexeme.diagnostic?_add]

/-! ### Texts without strays -/

/-- No marker and no brace was left without its end; undefined references may have been found. -/
def Scan.Terminated (scanned : Scan ε) : Prop :=
  ∀ d ∈ scanned.diagnostics, d.problem ≠ .unterminatedMarker ∧ d.problem ≠ .unterminatedBrace

instance (scanned : Scan ε) : Decidable scanned.Terminated :=
  inferInstanceAs (Decidable (∀ d ∈ scanned.diagnostics, _))

namespace Substituter

variable {s : Substituter ε} {text text' : String}

theorem not_stray_of_terminated
    (terminated : ∀ d ∈ s.problems text,
      d.problem ≠ .unterminatedMarker ∧ d.problem ≠ .unterminatedBrace) :
    ∀ l ∈ lexemes s.marker text.toList, ¬ l.IsStray := by
  intro l mem stray
  rw [← map_snd_place s.marker 0 (lexemes s.marker text.toList)] at mem
  obtain ⟨⟨offset, l⟩, placed, rfl⟩ := List.mem_map.1 mem
  have found {d : Diagnostic} (said : l.diagnostic? s.marker s.table offset = some d) :
      d ∈ s.problems text := List.mem_filterMap.2 ⟨(offset, l), placed, said⟩
  rcases stray with rfl | rfl
  · exact (terminated _ (found rfl)).1 rfl
  · exact (terminated _ (found rfl)).2 rfl

theorem lexemes_append_text (noStray : ∀ l ∈ lexemes s.marker text.toList, ¬ l.IsStray) (text' : String) :
    lexemes s.marker (text ++ text').toList =
      lexemes s.marker text.toList ++ lexemes s.marker text'.toList := by
  rw [String.toList_append, lexemes_append noStray]

theorem placed_append (noStray : ∀ l ∈ lexemes s.marker text.toList, ¬ l.IsStray) (text' : String) :
    s.placed (text ++ text') =
      s.placed text ++ place s.marker (text.utf8ByteSize + 0) (lexemes s.marker text'.toList) := by
  rw [placed, lexemes_append_text noStray, place_append, spell_lexemes, byteLength,
    String.ofList_toList, Nat.zero_add]
  rfl

theorem substitutions_append (noStray : ∀ l ∈ lexemes s.marker text.toList, ¬ l.IsStray)
    (text' : String) :
    substitutionsOf s.marker s.table (s.placed (text ++ text')) =
      substitutionsOf s.marker s.table (s.placed text) ++
        (substitutionsOf s.marker s.table (s.placed text')).map (.shift text.utf8ByteSize) := by
  rw [placed_append noStray, placed, placed, ← substitutionsOf_place_add]
  exact List.filterMap_append

theorem problems_append (noStray : ∀ l ∈ lexemes s.marker text.toList, ¬ l.IsStray) (text' : String) :
    s.problems (text ++ text') =
      s.problems text ++ (s.problems text').map (.shift text.utf8ByteSize) := by
  unfold problems
  rw [placed_append noStray, placed, placed, ← diagnosticsOf_place_add]
  exact List.filterMap_append

/-- The second text goes on where the first leaves off, in whatever buffer it is. -/
theorem expand_append {γ : Type} {s : Substituter (Evaluator Buffer γ)} {text : String}
    (noStray : ∀ l ∈ lexemes s.marker text.toList, ¬ l.IsStray) (text' : String) (ctx : γ) :
    (s.template (text ++ text')).expand ctx =
      (do (s.template text).expand ctx; (s.template text').expand ctx) := by
  simp only [expand_template, lexemes_append_text noStray, writeLexemes_append]

end Substituter

/-- One template is two others in a row: it lists what they list, the second after the text of the first,
and it writes what they write, the second only if the first did not fail. -/
structure Template.Joins {γ : Type} (first second whole : Template (Evaluator Buffer γ)) : Prop where
  substitutions : whole.substitutions =
    first.substitutions ++ second.substitutions.map (.shift first.text.utf8ByteSize)
  spans : whole.spans = first.spans ++ second.spans.map (.shift first.text.utf8ByteSize)
  diagnostics : whole.diagnostics =
    first.diagnostics ++ second.diagnostics.map (.shift first.text.utf8ByteSize)
  expand : ∀ ctx, whole.expand ctx = (do first.expand ctx; second.expand ctx)

theorem Substituter.joins_template {γ : Type} {s : Substituter (Evaluator Buffer γ)} {text : String}
    (noStray : ∀ l ∈ lexemes s.marker text.toList, ¬ l.IsStray) (text' : String) :
    Template.Joins (s.template text) (s.template text') (s.template (text ++ text')) where
  substitutions := by
    simp only [substitutions_template]
    exact substitutions_append noStray text'
  spans := by
    simp only [Template.spans, substitutions_template, substitutions_append noStray,
      List.filterMap_append, List.filterMap_map, List.map_filterMap, Function.comp_def,
      Substitution.span?_shift]
    rfl
  diagnostics := problems_append noStray text'
  expand := expand_append noStray text'

/-- **Texts in a row are read one after the other**, if no marker and no brace of the first is left without
its end.  The scan of the two is the scan of the first and that of the second behind it.  So they are
accepted together if and only if each is accepted, and the template of the two is their templates in a
row, for every context, every format and every buffer, also one that runs out in the middle of a literal. -/
theorem scan_append {γ : Type} (s : Substituter (Evaluator Buffer γ)) (text text' : String) :
    ∃ first second, s.scan text = .ok first ∧ s.scan text' = .ok second ∧
      (first.Terminated →
        s.scan (text ++ text') = .ok (first.append (second.shift text.utf8ByteSize)) ∧
        ((∃ t, s.parse (text ++ text') = .ok t) ↔
          (∃ t, s.parse text = .ok t) ∧ ∃ t', s.parse text' = .ok t') ∧
        ∀ t t' whole, s.parse text = .ok t → s.parse text' = .ok t' →
          s.parse (text ++ text') = .ok whole → Template.Joins t t' whole) := by
  refine ⟨_, _, s.scan_eq text, s.scan_eq text', ?_⟩
  intro terminated
  have noStray := Substituter.not_stray_of_terminated terminated
  refine ⟨?_, ?_, ?_⟩
  · rw [s.scan_eq, Substituter.substitutions_append noStray, Substituter.problems_append noStray]
    rfl
  · simp only [Substituter.parse_eq_ok_iff, exists_and_left, exists_eq', and_true,
      Substituter.problems_append noStray, List.append_eq_nil_iff, List.map_eq_nil_iff]
    exact and_or_right
  · intro t t' whole parsed parsed' parsedWhole
    obtain ⟨-, rfl⟩ := Substituter.parse_eq_ok_iff.1 parsed
    obtain ⟨-, rfl⟩ := Substituter.parse_eq_ok_iff.1 parsed'
    obtain ⟨-, rfl⟩ := Substituter.parse_eq_ok_iff.1 parsedWhole
    exact Substituter.joins_template noStray text'

theorem scan_append_undefined :
    let s : Substituter (Evaluator Buffer Unit) :=
      ⟨{ lenient := true }, ⟨[("x", fun _ => Writer.put (.integer 7))]⟩⟩
    ∃ first second t t' whole, s.scan "é@y" = .ok first ∧ first.Terminated ∧ s.scan "@x@" = .ok second ∧
      s.scan "é@y@x@" = .ok (first.append (second.shift 4)) ∧
      s.parse "é@y" = .ok t ∧ s.parse "@x@" = .ok t' ∧ s.parse "é@y@x@" = .ok whole ∧
      Template.Joins t t' whole := by
  intro s
  obtain ⟨first, second, scanned, scanned', joined⟩ := scan_append s "é@y" "@x@"
  have closed : ∀ l ∈ [.plain 'é', .compact 'y'], Lexeme.Closed s.marker l := by decide
  have read : lexemes s.marker "é@y".toList = [.plain 'é', .compact 'y'] := lexemes_spell closed
  have terminated : first.Terminated := by
    rw [s.scan_eq, Substituter.problems, Substituter.placed, read] at scanned
    obtain rfl := Except.ok.inj scanned
    decide
  obtain ⟨scannedBoth, -, joins⟩ := joined terminated
  have parsed (text : String) := s.parse_of_lenient rfl text
  exact ⟨first, second, _, _, _, scanned, terminated, scanned', scannedBoth, parsed _, parsed _, parsed _,
    joins _ _ _ (parsed _) (parsed _) (parsed _)⟩

end TextTemplate

import TextTemplate.Proofs.Recording

/-!
Strict and lenient substituters.

The two read a text in the same way and find the same problems.  They differ in what becomes of a text that
has any, and in how gravely its problems are logged.

* `Substituter.scan_withLeniency`, `Substituter.template_withLeniency`: nothing that is read off a text depends
  on leniency.
* `parse_leniency`: what a strict substituter makes of a text, told by the template of a lenient one.
-/

namespace TextTemplate

variable {ε : Type}

namespace Substituter

/-- The same substituter, lenient or strict. -/
def withLeniency (s : Substituter ε) (lenient : Bool) : Substituter ε :=
  { s with config := { s.config with lenient } }

variable (s : Substituter ε) (lenient : Bool) (text : String)

theorem problems_withLeniency : (s.withLeniency lenient).problems text = s.problems text := rfl

theorem template_withLeniency : (s.withLeniency lenient).template text = s.template text := rfl

theorem scan_withLeniency : (s.withLeniency lenient).scan text = s.scan text := by
  rw [scan_eq, scan_eq]
  rfl

theorem parse_lenient_eq : (s.withLeniency true).parse text = .ok (s.template text) :=
  (s.withLeniency true).parse_of_lenient rfl text

/-- A strict substituter takes a text without problems as a lenient one does, and refuses any other. -/
theorem parse_strict_eq : (s.withLeniency false).parse text =
    if s.problems text = [] then .ok (s.template text) else .error (.rejected (s.problems text)) := by
  rw [parse_eq, problems_withLeniency, template_withLeniency]
  by_cases fine : s.problems text = []
  · rw [if_neg (fun refused => refused.1 fine), if_pos fine]
  · rw [if_pos ⟨fine, rfl⟩, if_neg fine]

theorem parse_strict_iff {s : Substituter ε} {text : String} :
    (∃ t, (s.withLeniency false).parse text = .ok t) ↔ s.problems text = [] := by
  rw [parse_strict_eq]
  split <;> simp [*]

end Substituter

/-- **Strict and lenient substituters differ in the outcome only.**  The lenient one gives a template `t` of
every text.  The strict one gives a template if and only if `t` has no diagnostics, and then gives `t`
itself, so that nothing listed by it or written by it differs.  Otherwise it refuses the text for the
diagnostics of `t`, and expanding the text once calls no variable and leaves sink and format as they are.
Both log the messages of these diagnostics, as errors and as warnings. -/
theorem parse_leniency {σ γ : Type} [Sink σ] (s : Substituter (Evaluator σ γ)) (text : String) :
    ∃ t, (s.withLeniency true).parse text = .ok t ∧
      ((∃ t', (s.withLeniency false).parse text = .ok t') ↔ t.diagnostics = []) ∧
      (∀ t', (s.withLeniency false).parse text = .ok t' → t' = t ∧ t.diagnostics = []) ∧
      (t.diagnostics ≠ [] → ∃ e, (s.withLeniency false).parse text = .error e ∧
        e.diagnostics = t.diagnostics ∧ ∀ ctx out,
          (s.withLeniency false).expand text ctx out = (.error (.parse e), out) ∧
          (s.withLeniency false).calls text ctx out = []) ∧
      ((s.withLeniency false).read text).entries = t.diagnostics.map (fun d => ⟨.error, d.message⟩) ∧
      ((s.withLeniency true).read text).entries = t.diagnostics.map fun d => ⟨.warn, d.message⟩ := by
  have strict := s.parse_strict_eq text
  have taken (t' : Template (Evaluator σ γ)) (parsed : (s.withLeniency false).parse text = .ok t') :
      t' = s.template text ∧ s.problems text = [] := by
    rw [strict] at parsed
    split at parsed
    · rename_i fine
      cases parsed
      exact ⟨rfl, fine⟩
    · cases parsed
  refine ⟨s.template text, s.parse_lenient_eq text, ⟨?_, ?_⟩, taken, ?_, ?_, ?_⟩
  · rintro ⟨t', parsed⟩
    exact (taken t' parsed).2
  · intro fine
    exact ⟨_, strict.trans (if_pos fine)⟩
  · intro faulty
    have refused := strict.trans (if_neg faulty)
    exact ⟨_, refused, rfl, fun ctx out =>
      ⟨Substituter.expand_of_refused refused ctx out, Substituter.calls_of_refused refused ctx out⟩⟩
  · exact (s.withLeniency false).entries_read text
  · exact (s.withLeniency true).entries_read text

theorem parse_leniency_late_problem :
    let s : Substituter (Evaluator Buffer Unit) := ⟨{}, ⟨[("x", fun _ => Writer.put (.integer 7))]⟩⟩
    ∃ t e, (s.withLeniency true).parse "@x@y" = .ok t ∧
      t.diagnostics = [⟨.undefinedVariable "y" "@y", 2, '@'⟩] ∧ t.diagnostics ≠ [] ∧
      (s.withLeniency false).parse "@x@y" = .error e ∧ e.diagnostics = t.diagnostics ∧
      (∀ out, (s.withLeniency false).expand "@x@y" () out = (.error (.parse e), out)) ∧
      ∃ t', (s.withLeniency true).parse "@x" = .ok t' ∧ (s.withLeniency false).parse "@x" = .ok t' := by
  intro s
  have closed : ∀ l ∈ [.compact 'x', .compact 'y'], Lexeme.Closed s.marker l := by decide
  have read : lexemes s.marker "@x@y".toList = [.compact 'x', .compact 'y'] := lexemes_spell closed
  have readAlone : lexemes s.marker "@x".toList = [.compact 'x'] :=
    lexemes_spell fun l mem => closed l (List.mem_cons.2 (.inl (List.mem_singleton.1 mem)))
  obtain ⟨t, parsed, -, -, refuses, -, -⟩ := parse_leniency s "@x@y"
  obtain ⟨t', parsedAlone, accepts, same, -, -, -⟩ := parse_leniency s "@x"
  have found : t.diagnostics = [⟨.undefinedVariable "y" "@y", 2, '@'⟩] := by
    obtain ⟨-, rfl⟩ := Substituter.parse_eq_ok_iff.1 parsed
    change s.problems "@x@y" = _
    rw [Substituter.problems, Substituter.placed, read]
    rfl
  have clean : t'.diagnostics = [] := by
    obtain ⟨-, rfl⟩ := Substituter.parse_eq_ok_iff.1 parsedAlone
    change s.problems "@x" = _
    rw [Substituter.problems, Substituter.placed, readAlone]
    rfl
  have faulty : t.diagnostics ≠ [] := by simp [found]
  obtain ⟨e, refused, listed, unwritten⟩ := refuses faulty
  obtain ⟨t'', taken⟩ := accepts.2 clean
  obtain ⟨rfl, -⟩ := same t'' taken
  exact ⟨t, e, parsed, found, faulty, refused, listed, fun out => (unwritten () out).1,
    t'', parsedAlone, taken⟩

end TextTemplate

import TextTemplate.Proofs.Leniency
import TextTemplate.Proofs.Reconstruction

/-!
One more variable.

Scanning decides what the tokens of a text are before any name is looked up, so a new definition moves no token.
The references that asked for the name in vain are given its variable, the diagnostics that said so go away, and
all else stays.

* `Lexeme.substitution?_gains`, `Lexeme.problem?_gains`: what the new name changes for a single lexeme.
* `Substituter.scan_gains`: what it changes for a scan can be read off the scan without it.
* `scan_define`: so texts that were accepted keep their templates, and of the others those are accepted in
  which nothing was missing but the new name.
-/

namespace TextTemplate

variable {ε : Type} {marker : Marker} {table table' : Variables ε} {name : String} {eval : ε}

/-- A reference to `name` was found, and `name` is not defined. -/
def Problem.misses (name : String) : Problem → Bool
  | undefinedVariable other _ => other = name
  | unterminatedMarker | unterminatedBrace => false

@[simp] theorem Problem.misses_undefinedVariable (name other excerpt : String) :
    (undefinedVariable other excerpt).misses name = decide (other = name) := rfl

/-- The substitution once `name` stands for `eval`: an omitted reference that was reported as one to `name` is
replaced, and every other substitution is left alone. -/
def Substitution.supply (name : String) (eval : ε) (diagnostics : List Diagnostic)
    (sub : Substitution ε) : Substitution ε :=
  if sub.isOmitted && diagnostics.any fun d => d.offset = sub.start && d.problem.misses name then
    { sub with replacement := .reference name eval }
  else sub

/-- The scan once `name` stands for `eval`. -/
def Scan.supply (name : String) (eval : ε) (scanned : Scan ε) : Scan ε where
  substitutions := scanned.substitutions.map (.supply name eval scanned.diagnostics)
  diagnostics := scanned.diagnostics.filter fun d => !d.problem.misses name

/-- Where nothing is missing, nothing is supplied. -/
theorem Scan.supply_of_clean {scanned : Scan ε} (clean : scanned.diagnostics = []) :
    scanned.supply name eval = scanned := by
  obtain ⟨substitutions, diagnostics⟩ := scanned
  obtain rfl : diagnostics = [] := clean
  have unchanged : Substitution.supply name eval [] = id := by
    funext sub
    simp [Substitution.supply]
  simp [Scan.supply, unchanged]

/-! ### A name that is gained -/

/-- `table'` is `table` with one more name, which stands for `eval`. -/
structure Variables.Gains (table : Variables ε) (name : String) (eval : ε)
    (table' : Variables ε) : Prop where
  absent : table.find? name = none
  find?_eq : ∀ other, table'.find? other = if other = name then some eval else table.find? other

theorem Variables.gains_insert (fresh : table.isDefined name = false) (eval : ε) :
    table.Gains name eval (table.insert name eval) where
  absent := by simpa [isDefined] using fresh
  find?_eq _ := find?_insert fresh

namespace Lexeme

/-- What is said of a lexeme that asks for the new name goes away. -/
theorem problem?_gains (gains : table.Gains name eval table') (l : Lexeme) :
    l.problem? marker table' = (l.problem? marker table).filter fun p => !p.misses name := by
  have asked (other : String) : problem?.undefined? marker table' l other =
      (problem?.undefined? marker table l other).filter fun p => !p.misses name := by
    unfold problem?.undefined?
    rw [gains.find?_eq]
    by_cases same : other = name
    · subst same
      simp [gains.absent, Option.filter]
    · rw [if_neg same]
      cases table.find? other <;> simp [Option.filter, same]
  cases l with
  | compact c => exact asked _
  | braced other => exact asked other
  | plain c => rfl
  | escape => rfl
  | strayMarker => rfl
  | strayBrace => rfl

/-- A lexeme that asks for the new name is replaced by it, every other as it was. -/
theorem replacement?_gains (gains : table.Gains name eval table') (l : Lexeme) :
    l.replacement? table' =
      if l.name? = some name then some (.reference name eval) else l.replacement? table := by
  have resolved (other : String) :
      table'.resolve other = if other = name then .reference name eval else table.resolve other := by
    unfold Variables.resolve
    rw [gains.find?_eq]
    by_cases same : other = name <;> simp [same]
  cases l with
  | compact c => simp [replacement?, name?, resolved, apply_ite some]
  | braced other => simp [replacement?, name?, resolved, apply_ite some]
  | plain c => rfl
  | escape => rfl
  | strayMarker => rfl
  | strayBrace => rfl

/-- Told by the diagnostics that go with it, a lexeme is supplied with the new name if it asks for it. -/
theorem substitution?_gains (gains : table.Gains name eval table') (l : Lexeme) (offset : Nat)
    {diagnostics : List Diagnostic}
    (told : (diagnostics.any fun d => d.offset = offset && d.problem.misses name) =
      (l.problem? marker table).any (·.misses name)) :
    l.substitution? marker table' offset =
      (l.substitution? marker table offset).map (.supply name eval diagnostics) := by
  obtain ⟨r, p, replaced, said, outcome⟩ := l.exists_looksUp marker table
  rw [said] at told
  rw [substitution?, substitution?, l.replacement?_gains gains, replaced]
  cases outcome with
  | plain => rfl
  | strayMarker => rfl
  | strayBrace => rfl
  | escape => rfl
  | @defined _ other _ asks found =>
    have differ : other ≠ name := by
      rintro rfl
      rw [gains.absent] at found
      cases found
    simp [asks, differ, Substitution.supply, Substitution.isOmitted]
  | @undefined _ other asks absent =>
    simp only [Option.any_some, Problem.misses_undefinedVariable] at told
    by_cases same : other = name
    · simp [asks, same, Substitution.supply, Substitution.isOmitted, told]
    · simp [asks, same, Substitution.supply, Substitution.isOmitted, told]

end Lexeme

namespace Substituter

variable {s s' : Substituter ε}

/-- The diagnostics of a text tell of each of its lexemes what is said of it. -/
theorem any_problems {text : String} {p : Nat × Lexeme} (mem : p ∈ s.placed text) (test : Problem → Bool) :
    ((s.problems text).any fun d => d.offset = p.1 && test d.problem) =
      (p.2.problem? s.marker s.table).any test := by
  rw [Bool.eq_iff_iff, List.any_eq_true, Option.any_eq_true]
  constructor
  · rintro ⟨d, listed, told⟩
    obtain ⟨q, placed, reported⟩ := List.mem_filterMap.1 listed
    obtain ⟨problem, said, rfl⟩ := Option.map_eq_some_iff.1 reported
    rw [Bool.and_eq_true, decide_eq_true_eq] at told
    -- Lexemes at the same place are the same one.
    obtain rfl : q = p := eq_of_key_eq (ascending_place s.marker 0 _) placed mem told.1
    exact ⟨problem, said, told.2⟩
  · rintro ⟨problem, said, told⟩
    refine ⟨⟨problem, p.1, s.marker.char⟩, List.mem_filterMap.2 ⟨p, mem, ?_⟩, ?_⟩
    · rw [Lexeme.diagnostic?, said]
      rfl
    · simp [told]

theorem substitutions_gains (config : s'.config = s.config) (gains : s.table.Gains name eval s'.table)
    (text : String) :
    substitutionsOf s'.marker s'.table (s'.placed text) =
      (substitutionsOf s.marker s.table (s.placed text)).map (.supply name eval (s.problems text)) := by
  have marker : s'.marker = s.marker := congrArg Config.marker config
  rw [placed_congr marker, marker, substitutionsOf, substitutionsOf, List.map_filterMap]
  apply List.filterMap_congr
  intro p mem
  exact p.2.substitution?_gains gains p.1 (any_problems mem (Problem.misses name))

theorem problems_gains (config : s'.config = s.config) (gains : s.table.Gains name eval s'.table)
    (text : String) :
    s'.problems text = (s.problems text).filter fun d => !d.problem.misses name := by
  have marker : s'.marker = s.marker := congrArg Config.marker config
  have each (p : Nat × Lexeme) : p.2.diagnostic? s.marker s'.table p.1 =
      (p.2.diagnostic? s.marker s.table p.1).filter fun d => !d.problem.misses name := by
    rw [Lexeme.diagnostic?, Lexeme.diagnostic?, p.2.problem?_gains gains]
    cases p.2.problem? s.marker s.table with
    | none => rfl
    | some problem => cases told : problem.misses name <;> simp [Option.filter, told]
  rw [problems, problems, diagnosticsOf, diagnosticsOf, List.filter_filterMap, placed_congr marker,
    marker]
  exact congrArg (List.filterMap · _) (funext each)

/-- **A scan with one more name** is the scan without it, supplied with the name. -/
theorem scan_gains (config : s'.config = s.config) (gains : s.table.Gains name eval s'.table)
    (text : String) :
    s'.scan text =
      .ok (Scan.supply name eval
        ⟨substitutionsOf s.marker s.table (s.placed text), s.problems text⟩) := by
  rw [scan_eq, substitutions_gains config gains, problems_gains config gains]
  rfl

/-- No template refers to a name that is not defined. -/
theorem refersTo_of_undefined (undefined : s.isDefined name = false) (text : String) :
    (s.template text).refersTo name = false := by
  rw [Bool.eq_false_iff, ne_eq, Template.refersTo_iff, names_template, List.mem_filterMap]
  rintro ⟨l, -, asks⟩
  have defined := (Option.filter_eq_some_iff.1 asks).2
  exact Bool.eq_false_iff.1 undefined defined

/-- A new name can be defined. -/
theorem exists_define (fresh : s.isDefined name = false) (eval : ε) :
    ∃ s', s.define name eval = .ok s' ∧ s'.config = s.config ∧ s.table.Gains name eval s'.table :=
  ⟨_, s.define_of_fresh fresh eval, rfl, Variables.gains_insert fresh eval⟩

end Substituter

/-- **A definition takes nothing away.**  Define a name that is not defined yet.  The scan of any text is then
the scan before it, supplied with the name: all substitutions lie where they did, escapes and resolved
references are what they were, the omitted references that were reported to ask for the name stand for it, and
the diagnostics that reported them are gone.  So a text that was accepted is accepted with the same template,
which does not refer to the name; and a text that was refused is accepted if and only if nothing was wrong with
it but references to the name. -/
theorem scan_define {s : Substituter ε} {name : String} (fresh : s.isDefined name = false)
    (eval : ε) :
    ∃ s', s.define name eval = .ok s' ∧ ∀ text, ∃ scanned,
      s.scan text = .ok scanned ∧ s'.scan text = .ok (scanned.supply name eval) ∧
      (∀ t, (s.withLeniency false).parse text = .ok t →
        (s'.withLeniency false).parse text = .ok t ∧ t.refersTo name = false) ∧
      ∀ e, (s.withLeniency false).parse text = .error e →
        ((∃ t, (s'.withLeniency false).parse text = .ok t) ↔
          ∀ d ∈ e.diagnostics, d.problem.misses name = true) := by
  obtain ⟨s', defined, config, gains⟩ := s.exists_define fresh eval
  refine ⟨s', defined, fun text => ?_⟩
  have scanned := Substituter.scan_gains config gains text
  refine ⟨_, s.scan_eq text, scanned, ?_, ?_⟩
  · intro t parsed
    have clean : s.problems text = [] := Substituter.parse_strict_iff.1 ⟨t, parsed⟩
    obtain ⟨-, rfl⟩ := Substituter.parse_eq_ok_iff.1 parsed
    rw [Scan.supply_of_clean clean, ← s.scan_eq] at scanned
    refine ⟨?_, s.refersTo_of_undefined fresh text⟩
    rw [← parsed]
    apply Substituter.parse_congr
    · change s'.marker = s.marker
      exact congrArg Config.marker config
    · rfl
    · rw [Substituter.scan_withLeniency, Substituter.scan_withLeniency, scanned]
  · intro e refused
    have found : e.diagnostics = (s.withLeniency false).problems text :=
      Substituter.diagnostics_of_refused refused
    rw [Substituter.parse_strict_iff, Substituter.problems_gains config gains, found,
      s.problems_withLeniency]
    simp

theorem scan_define_one_of_two_missing :
    let seven : Evaluator Buffer Unit := fun _ => Writer.put (.integer 7)
    let nine : Evaluator Buffer Unit := fun _ => Writer.put (.integer 9)
    let s : Substituter (Evaluator Buffer Unit) := ⟨{}, ⟨[("x", seven)]⟩⟩
    s.isDefined "y" = false ∧ ∃ s', s.define "y" nine = .ok s' ∧
      s'.scan "@x@y@z" = .ok ⟨[⟨0, 2, .reference "x" seven⟩, ⟨2, 4, .reference "y" nine⟩, ⟨4, 6, .omitted⟩],
        [⟨.undefinedVariable "z" "@z", 4, '@'⟩]⟩ ∧
      (∃ e, (s.withLeniency false).parse "@x@y@z" = .error e ∧
        ¬ ∃ t, (s'.withLeniency false).parse "@x@y@z" = .ok t) ∧
      (∃ e, (s.withLeniency false).parse "@x@y" = .error e ∧
        ∃ t, (s'.withLeniency false).parse "@x@y" = .ok t) ∧
      ∃ t, (s.withLeniency false).parse "@x" = .ok t ∧ (s'.withLeniency false).parse "@x" = .ok t := by
  intro seven nine s
  have fresh : s.isDefined "y" = false := by decide
  let asked : List Lexeme := [.compact 'x', .compact 'y', .compact 'z']
  have closed : ∀ l ∈ asked, Lexeme.Closed s.marker l := by decide
  have read {text : String} (n : Nat) (spelled : text.toList = spell s.marker (asked.take n)) :
      s.placed text = place s.marker 0 (asked.take n) := by
    rw [Substituter.placed, spelled, lexemes_spell fun l mem => closed l (List.mem_of_mem_take mem)]
  have found {text : String} (n : Nat) (spelled : text.toList = spell s.marker (asked.take n)) :
      s.problems text = diagnosticsOf s.marker s.table (place s.marker 0 (asked.take n)) := by
    rw [Substituter.problems, read n spelled]
  have both : s.problems "@x@y@z" =
      [⟨.undefinedVariable "y" "@y", 2, '@'⟩, ⟨.undefinedVariable "z" "@z", 4, '@'⟩] := found 3 rfl
  have one : s.problems "@x@y" = [⟨.undefinedVariable "y" "@y", 2, '@'⟩] := found 2 rfl
  have clean : s.problems "@x" = [] := found 1 rfl
  have refused (text : String) (faulty : s.problems text ≠ []) :
      (s.withLeniency false).parse text = .error (.rejected (s.problems text)) :=
    (s.parse_strict_eq text).trans (if_neg faulty)
  obtain ⟨s', defined, grown⟩ := scan_define fresh nine
  refine ⟨fresh, s', defined, ?_, ?_, ?_, ?_⟩
  · obtain ⟨scanned, before, after, -, -⟩ := grown "@x@y@z"
    rw [s.scan_eq, both, read 3 rfl] at before
    cases before
    exact after
  · obtain ⟨-, -, -, -, repaired⟩ := grown "@x@y@z"
    have faulty := refused "@x@y@z" (by simp [both])
    refine ⟨_, faulty, ?_⟩
    rw [repaired _ faulty, ParseError.diagnostics, both]
    decide
  · obtain ⟨-, -, -, -, repaired⟩ := grown "@x@y"
    have faulty := refused "@x@y" (by simp [one])
    refine ⟨_, faulty, ?_⟩
    rw [repaired _ faulty, ParseError.diagnostics, one]
    decide
  · obtain ⟨t, parsed⟩ := Substituter.parse_strict_iff.2 clean
    obtain ⟨-, -, -, kept, -⟩ := grown "@x"
    exact ⟨t, parsed, (kept t parsed).1⟩

end TextTemplate

import TextTemplate.Proofs.Resolution

/-!
Reading does not look at what names stand for.

A table may let its names stand for anything: what a text comes to then is the same as before, with the other
things in their places.  So a host may wrap the variables of a substituter, and what it observes of them is what
the templates of that substituter do with its own.

* `Substituter.problems_congr`: what is wrong with a text depends on which names are defined.
* `Substituter.template_map`: a text is taken apart in the same way.
* `Substituter.parse_map`: it is accepted in the same way.
-/

namespace TextTemplate

variable {ε ε' : Type}

/-! ### Names that are defined -/

section Defined

variable {marker : Marker} {table : Variables ε} {table' : Variables ε'}

/-- A name is bound in both tables or in none. -/
theorem Variables.find?_cases {name : String} (same : table.isDefined name = table'.isDefined name) :
    (∃ eval eval', table.find? name = some eval ∧ table'.find? name = some eval') ∨
      table.find? name = none ∧ table'.find? name = none := by
  unfold isDefined at same
  cases found : table.find? name with
  | some eval =>
    rw [found] at same
    obtain ⟨eval', found'⟩ := Option.isSome_iff_exists.1 same.symm
    exact .inl ⟨eval, eval', rfl, found'⟩
  | none =>
    rw [found] at same
    exact .inr ⟨rfl, Option.isNone_iff_eq_none.1 (by simpa using same.symm)⟩

/-- Only whether its name is defined counts for what is wrong with a lexeme. -/
theorem Lexeme.problem?_congr (same : ∀ name, table.isDefined name = table'.isDefined name) (l : Lexeme) :
    l.problem? marker table = l.problem? marker table' := by
  have asked (name : String) :
      problem?.undefined? marker table l name = problem?.undefined? marker table' l name := by
    unfold problem?.undefined?
    rcases Variables.find?_cases (same name) with ⟨eval, eval', found, found'⟩ | ⟨none, none'⟩
    · rw [found, found']
    · rw [none, none']
  cases l with
  | compact c => exact asked _
  | braced name => exact asked name
  | plain c => rfl
  | escape => rfl
  | strayMarker => rfl
  | strayBrace => rfl

end Defined

theorem Substituter.problems_congr {s : Substituter ε} {s' : Substituter ε'} (marker : s.marker = s'.marker)
    (same : ∀ name, s.isDefined name = s'.isDefined name) (text : String) : s.problems text = s'.problems text := by
  simp only [problems, diagnosticsOf, placed_congr marker, marker, Lexeme.diagnostic?, Lexeme.problem?_congr same]

/-! ### Names that stand for something else -/

namespace Replacement

/-- The same replacement, with another thing for the name of a reference to stand for. -/
def map (f : String → ε → ε') : Replacement ε → Replacement ε'
  | marker => marker
  | reference name eval => reference name (f name eval)
  | omitted => omitted

end Replacement

def Substitution.map (f : String → ε → ε') (s : Substitution ε) : Substitution ε' :=
  ⟨s.start, s.stop, s.replacement.map f⟩

def Piece.map (f : String → ε → ε') : Piece ε → Piece ε'
  | literal text => literal text
  | substitution s => substitution (s.map f)

def Template.map (f : String → ε → ε') (t : Template ε) : Template ε' :=
  ⟨t.text, t.marker, t.pieces.map (Piece.map f), t.diagnostics⟩

def Variables.map (f : String → ε → ε') (table : Variables ε) : Variables ε' :=
  ⟨table.entries.map fun entry => (entry.1, f entry.1 entry.2)⟩

def Substituter.map (f : String → ε → ε') (s : Substituter ε) : Substituter ε' := ⟨s.config, s.table.map f⟩

variable (f : String → ε → ε')

/-! ### Lexemes -/

theorem Variables.find?_map (table : Variables ε) (name : String) :
    (table.map f).find? name = (table.find? name).map (f name) := by
  unfold Variables.find? Variables.map
  induction table.entries with
  | nil => rfl
  | cons entry entries ih =>
    rw [List.map_cons, lookup_cons, lookup_cons, ih]
    by_cases same : name = entry.1
    · rw [if_pos same, if_pos same, same]
      rfl
    · rw [if_neg same, if_neg same]

theorem Variables.isDefined_map (table : Variables ε) (name : String) :
    (table.map f).isDefined name = table.isDefined name := by
  rw [isDefined, find?_map, Option.isSome_map, isDefined]

theorem Variables.resolve_map (table : Variables ε) (name : String) :
    (table.map f).resolve name = (table.resolve name).map f := by
  unfold resolve
  rw [find?_map]
  cases table.find? name <;> rfl

namespace Lexeme

variable (marker : Marker) (table : Variables ε)

theorem replacement?_map (l : Lexeme) :
    l.replacement? (table.map f) = (l.replacement? table).map (Replacement.map f) := by
  cases l with
  | compact c => exact congrArg some (table.resolve_map f _)
  | braced name => exact congrArg some (table.resolve_map f name)
  | plain c => rfl
  | escape => rfl
  | strayMarker => rfl
  | strayBrace => rfl

theorem substitution?_map (offset : Nat) (l : Lexeme) :
    l.substitution? marker (table.map f) offset = (l.substitution? marker table offset).map (Substitution.map f) := by
  unfold substitution?
  rw [replacement?_map, Option.map_map, Option.map_map]
  rfl

end Lexeme

theorem piecesOf_map (marker : Marker) (table : Variables ε) (literal : List Char) (placed : List (Nat × Lexeme)) :
    piecesOf marker (table.map f) literal placed = (piecesOf marker table literal placed).map (Piece.map f) := by
  induction placed generalizing literal with
  | nil => rfl
  | cons p placed ih =>
    simp only [piecesOf, Lexeme.substitution?_map]
    cases p.2.substitution? marker table p.1 with
    | none => exact ih _
    | some s => simp only [Option.map_some, ih, List.map_cons, Piece.map]

/-! ### Texts -/

namespace Substituter

variable (s : Substituter ε) (text : String)

/-- The same problems are found. -/
theorem problems_map : (s.map f).problems text = s.problems text := by
  have marker : (s.map f).marker = s.marker := rfl
  exact problems_congr marker (s.table.isDefined_map f) text

/-- The same template is made, with the other things in their places. -/
theorem template_map : (s.map f).template text = (s.template text).map f := by
  unfold template Template.map
  rw [problems_map, ← piecesOf_map]
  rfl

/-- **What names stand for has no say in what becomes of a text.** -/
theorem parse_map : (s.map f).parse text = (s.parse text).map (Template.map f) := by
  rw [parse_eq, parse_eq, problems_map, template_map, apply_ite (Except.map (Template.map f))]
  rfl

end Substituter
end TextTemplate

import TextTemplate.Proofs.Grammar
import TextTemplate.Proofs.Emission

/-!
Writing the parts of a template down so that they are read back.

Every marker of a literal is doubled, and a reference takes its long form.  Then each part is a row of
accepted pieces, and as these are read back one by one, no piece of one part reaches into the next: not a
doubled marker at the end of a literal, nor a brace or another reference that a literal only looks like.

* `derives_printAll`: printed parts derive their text.
* `parse_printAll`: parsing the printed parts gives a template that means them.
-/

namespace TextTemplate

/-- A part of a template that is not written down yet. -/
inductive Part where
  /-- A text that stands for itself. -/
  | literal (text : String)
  /-- What the named variable writes. -/
  | reference (name : String)
deriving DecidableEq, Repr

variable {ε γ : Type} {marker : Marker} {table : Variables ε}

/-- How a character of a literal is read back once its markers are doubled. -/
def Lexeme.ofChar (marker : Marker) (c : Char) : Lexeme :=
  if c = marker.char then .escape else .plain c

namespace Part

/-- A literal with every marker doubled, or a reference in its long form. -/
def print (marker : Marker) : Part → String
  | literal text => String.ofList (text.toList.flatMap fun c => if c = marker.char then [c, c] else [c])
  | reference name => marker.text ++ String.singleton openBrace ++ name ++ String.singleton closeBrace

/-- The name of a reference. -/
def name? : Part → Option String
  | literal _ => none
  | reference name => some name

/-- The characters of a literal. -/
def chars : Part → List Char
  | literal text => text.toList
  | reference _ => []

/-- Literals may be any text; a name has to be defined and must not close its own braces. -/
inductive Printable (table : Variables ε) : Part → Prop where
  | literal (text : String) : Printable table (literal text)
  | reference {name : String} : closeBrace ∉ name.toList → table.isDefined name = true →
      Printable table (reference name)

instance (table : Variables ε) : DecidablePred (Printable table) := fun
  | literal text => .isTrue (.literal text)
  | reference name =>
    decidable_of_iff (closeBrace ∉ name.toList ∧ table.isDefined name = true)
      ⟨fun fit => .reference fit.1 fit.2, fun | .reference absent defined => ⟨absent, defined⟩⟩

/-- Writes a literal as it stands, and a reference as what its name stands for. -/
def write (table : Variables (Evaluator Buffer γ)) (ctx : γ) : Part → Writer Buffer Unit
  | literal text => Writer.text text
  | reference name => table.write ctx name

/-- What a part puts out. -/
def emission (table : Variables (Evaluator Buffer γ)) (ctx : γ) (format : Format) : Part → Emission
  | literal text => .ofString text
  | reference name => table.emission ctx format name

/-- How a printed part is read back. -/
def lexemes (marker : Marker) : Part → List Lexeme
  | literal text => text.toList.map (Lexeme.ofChar marker)
  | reference name => [.braced name]

end Part

/-- The parts, printed one after the other. -/
def printAll (marker : Marker) : List Part → String
  | [] => ""
  | p :: parts => p.print marker ++ printAll marker parts

/-! ### What a printed part is read as -/

theorem Lexeme.spelling_ofChar (c : Char) :
    (ofChar marker c).spelling marker = if c = marker.char then [c, c] else [c] := by
  unfold ofChar
  by_cases same : c = marker.char
  · simp [same, spelling]
  · simp [same, spelling]

theorem Lexeme.accepted_ofChar (c : Char) : (ofChar marker c).Accepted marker table := by
  unfold ofChar
  split
  · exact .escape
  · exact .plain ‹_›

theorem Lexeme.write_ofChar {table : Variables (Evaluator Buffer γ)} (ctx : γ) (c : Char) :
    (ofChar marker c).write marker table ctx = Writer.text (String.singleton c) := by
  unfold ofChar
  split
  · rename_i same
    rw [same]
    rfl
  · rw [String.singleton_eq_ofList]
    rfl

namespace Part

theorem spell_lexemes (p : Part) : spell marker (p.lexemes marker) = (p.print marker).toList := by
  cases p with
  | literal text =>
    simp only [spell, lexemes, print, List.flatMap_map, Lexeme.spelling_ofChar, String.toList_ofList]
  | reference name => simp [spell, lexemes, print, Lexeme.spelling, Marker.text]

theorem Printable.accepted {p : Part} (printable : p.Printable table) :
    ∀ l ∈ p.lexemes marker, l.Accepted marker table := by
  intro l mem
  cases printable with
  | literal text =>
    obtain ⟨c, -, rfl⟩ := List.mem_map.1 mem
    exact Lexeme.accepted_ofChar c
  | reference absent defined =>
    obtain rfl := List.mem_singleton.1 mem
    exact .braced absent defined

/-- The references of a printed part are its own. -/
theorem names_lexemes (p : Part) : (p.lexemes marker).filterMap Lexeme.name? = p.name?.toList := by
  cases p with
  | reference name => rfl
  | literal text =>
    simp only [lexemes, name?, List.filterMap_map, Option.toList_none, List.filterMap_eq_nil_iff]
    intro c _
    simp only [Function.comp, Lexeme.ofChar]
    split <;> rfl

/-- There is an escape for every marker of a literal. -/
theorem count_escape_lexemes (p : Part) :
    (p.lexemes marker).count .escape = p.chars.count marker.char := by
  cases p with
  | reference name => rfl
  | literal text =>
    simp only [lexemes, chars, List.count_eq_countP, List.countP_map]
    apply List.countP_congr
    intro c _
    simp only [Function.comp, Lexeme.ofChar]
    split <;> simp_all

/-- A printed part writes the part: a literal character by character. -/
theorem writeLexemes_lexemes {table : Variables (Evaluator Buffer γ)} (ctx : γ) (p : Part) :
    writeLexemes marker table ctx (p.lexemes marker) = p.write table ctx := by
  cases p with
  | reference name => exact bind_pure_unit
  | literal text =>
    have written (cs : List Char) :
        writeLexemes marker table ctx (cs.map (Lexeme.ofChar marker)) = Writer.text (String.ofList cs) := by
      induction cs with
      | nil => exact Writer.text_empty.symm
      | cons c cs ih =>
        rw [String.ofList_cons, Writer.text_append, ← ih, ← Lexeme.write_ofChar ctx c]
        rfl
    have whole := written text.toList
    rw [String.ofList_toList] at whole
    exact whole

end Part

/-! ### Printed parts in a row -/

theorem spell_flatMap_lexemes (parts : List Part) :
    String.ofList (spell marker (parts.flatMap (·.lexemes marker))) = printAll marker parts := by
  induction parts with
  | nil => rfl
  | cons p parts ih =>
    rw [List.flatMap_cons, spell_append, String.ofList_append, p.spell_lexemes, String.ofList_toList, ih]
    rfl

/-- **Printed parts derive their text.** -/
theorem Substituter.derives_printAll {s : Substituter ε} {parts : List Part}
    (printable : ∀ p ∈ parts, p.Printable s.table) :
    s.Derives (parts.flatMap (·.lexemes s.marker)) (printAll s.marker parts) where
  accepted := by
    intro l mem
    obtain ⟨p, listed, found⟩ := List.mem_flatMap.1 mem
    exact (printable p listed).accepted l found
  spelled := (spell_flatMap_lexemes parts).symm

theorem names_flatMap_lexemes (parts : List Part) :
    (parts.flatMap (·.lexemes marker)).filterMap Lexeme.name? = parts.filterMap Part.name? := by
  rw [List.filterMap_flatMap, List.filterMap_eq_flatMap_toList]
  simp only [Part.names_lexemes]

theorem count_escape_flatMap_lexemes (parts : List Part) :
    (parts.flatMap (·.lexemes marker)).count .escape = (parts.flatMap Part.chars).count marker.char := by
  rw [List.count_flatMap, List.count_flatMap]
  simp only [Function.comp_def, Part.count_escape_lexemes]

theorem writeLexemes_flatMap_lexemes {table : Variables (Evaluator Buffer γ)} (ctx : γ) (parts : List Part) :
    writeLexemes marker table ctx (parts.flatMap (·.lexemes marker)) =
      Writer.all (parts.map (Part.write table ctx)) := by
  simp only [writeLexemes_flatMap, Part.writeLexemes_lexemes]

/-! ### The spans of a derived text -/

/-- The spans with a name are those of the references. -/
theorem names_spans (offset : Nat) (ls : List Lexeme) :
    ((place marker offset ls).filterMap fun p => p.2.span? marker p.1).filterMap Span.name =
      ls.filterMap Lexeme.name? := by
  induction ls generalizing offset with
  | nil => rfl
  | cons l ls ih =>
    rw [filterMap_place_cons, List.filterMap_append, ih, List.filterMap_cons]
    cases l <;> rfl

/-- The spans without a name are those of the escapes. -/
theorem countP_spans (offset : Nat) (ls : List Lexeme) :
    ((place marker offset ls).filterMap fun p => p.2.span? marker p.1).countP (·.name.isNone) =
      ls.count .escape := by
  induction ls generalizing offset with
  | nil => rfl
  | cons l ls ih =>
    rw [filterMap_place_cons, List.countP_append, ih, List.count_cons, Nat.add_comm]
    cases l <;> rfl

/-! ### Meaning -/

/-- The template has no problems, lists the references of the parts in their order and an escape for every
marker in their literals, and writes what the parts write: into every buffer, and so with the parts' own
outputs in a row where no variable looks at the buffer. -/
structure Template.Means (s : Substituter (Evaluator Buffer γ)) (parts : List Part)
    (t : Template (Evaluator Buffer γ)) : Prop where
  diagnostics : t.diagnostics = []
  names : t.spans.filterMap Span.name = parts.filterMap Part.name?
  escapes : t.spans.countP (·.name.isNone) = (parts.flatMap Part.chars).count s.marker.char
  refersTo : ∀ name, t.refersTo name = true ↔ .reference name ∈ parts
  expand : ∀ ctx, t.expand ctx = Writer.all (parts.map (Part.write s.table ctx))
  growing : s.table.Appends → ∀ ctx format content, t.expand ctx ⟨.growing content, format⟩ =
    ((Emission.concat (parts.map (Part.emission s.table ctx format))).result,
      ⟨.growing (content ++ (Emission.concat (parts.map (Part.emission s.table ctx format))).bytes), format⟩)

theorem Part.emits_write {table : Variables (Evaluator Buffer γ)} (blind : table.Appends) (ctx : γ) (format : Format)
    (p : Part) :
    (p.write table ctx).Emits format (p.emission table ctx format).result
      (p.emission table ctx format).bytes format := by
  cases p with
  | literal text => exact Writer.emits_bytes _ format
  | reference name => exact table.emits_write blind ctx format name

theorem mem_names_iff {name : String} {parts : List Part} :
    name ∈ parts.filterMap Part.name? ↔ .reference name ∈ parts := by
  rw [List.mem_filterMap]
  constructor
  · rintro ⟨p, listed, named⟩
    cases p with
    | literal text => cases named
    | reference other =>
      cases named
      exact listed
  · intro listed
    exact ⟨_, listed, rfl⟩

/-- The template of printed parts means them. -/
theorem Substituter.means_template {s : Substituter (Evaluator Buffer γ)} {parts : List Part}
    (printable : ∀ p ∈ parts, p.Printable s.table) :
    (s.template (printAll s.marker parts)).Means s parts := by
  have derives := s.derives_printAll printable
  have listed : (s.template (printAll s.marker parts)).spans.filterMap Span.name =
      parts.filterMap Part.name? := by
    rw [derives.spans_eq, names_spans, names_flatMap_lexemes]
  have written (ctx : γ) : (s.template (printAll s.marker parts)).expand ctx =
      Writer.all (parts.map (Part.write s.table ctx)) := by
    rw [s.expand_template, derives.lexemes_eq, writeLexemes_flatMap_lexemes]
  constructor
  · exact derives.problems_eq_nil
  · exact listed
  · rw [derives.spans_eq, countP_spans, count_escape_flatMap_lexemes]
  · intro name
    rw [Template.refersTo_iff, listed, mem_names_iff]
  · exact written
  · intro blind ctx format content
    rw [written]
    exact Writer.emits_all (fun p _ => Part.emits_write blind ctx format p) content

/-- **Printing and parsing back keeps the meaning**, for every list of literals and defined names that have
no closing brace, whether the substituter is strict or not.  And a literal alone is expanded to itself,
whatever the variables are. -/
theorem parse_printAll (s : Substituter (Evaluator Buffer γ)) :
    (∀ parts : List Part, (∀ p ∈ parts, p.Printable s.table) →
      ∃ t, s.parse (printAll s.marker parts) = .ok t ∧ t.Means s parts) ∧
    ∀ text : String, ∃ t, s.parse (printAll s.marker [.literal text]) = .ok t ∧
      ∀ ctx, t.expandToText ctx = .ok text := by
  have parsed {parts : List Part} (printable : ∀ p ∈ parts, p.Printable s.table) :
      s.parse (printAll s.marker parts) = .ok (s.template (printAll s.marker parts)) :=
    Substituter.parse_of_clean (Substituter.means_template printable).diagnostics
  constructor
  · intro parts printable
    exact ⟨_, parsed printable, Substituter.means_template printable⟩
  · intro text
    have printable : ∀ p ∈ [Part.literal text], p.Printable s.table := by
      intro p mem
      obtain rfl := List.mem_singleton.1 mem
      exact .literal text
    refine ⟨_, parsed printable, ?_⟩
    intro ctx
    have alone : (s.template (printAll s.marker [.literal text])).expand ctx = Writer.text text := by
      rw [(Substituter.means_template printable).expand]
      exact bind_pure_unit
    apply Template.expandToText_of_emits
    rw [alone]
    exact Writer.emits_bytes _ {}

theorem parse_printAll_marker_runs :
    let s : Substituter (Evaluator Buffer Unit) := ⟨{}, ⟨[("x", fun _ => Writer.put (.integer 7))]⟩⟩
    let parts : List Part := [.literal "a@", .reference "x", .literal "@\x7bx\x7d"]
    (∀ p ∈ parts, p.Printable s.table) ∧ s.table.Appends ∧
      ∃ t, s.parse "a@@@\x7bx\x7d@@\x7bx\x7d" = .ok t ∧ t.Means s parts ∧
        t.expand () ⟨.growing ByteArray.empty, {}⟩ = (.ok (), ⟨.growing "a@7@\x7bx\x7d".toUTF8, {}⟩) := by
  intro s parts
  have printable : ∀ p ∈ parts, p.Printable s.table := by decide
  have blind : s.table.Appends := by
    apply Variables.appends_of_entries
    intro entry mem ctx
    obtain rfl := List.mem_singleton.1 mem
    exact Writer.appends_put _
  obtain ⟨t, parsed, means⟩ := (parse_printAll s).1 parts printable
  refine ⟨printable, blind, t, parsed, means, ?_⟩
  have seven : s.table.emission () {} "x" = .ofString "7" := Writer.emission_put (.integer 7) {}
  rw [means.growing blind]
  simp only [parts, List.map_cons, List.map_nil, Part.emission, seven]
  rfl

end TextTemplate

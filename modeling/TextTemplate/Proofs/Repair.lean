import TextTemplate.Proofs.Leniency
import TextTemplate.Proofs.Printing

/-!
Texts with their problems taken out.

A lenient substituter drops undefined references and keeps stray markers as text.  The same can be said in
the text itself: without the references, and with every stray marker doubled, it is a text that a strict
substituter takes, and it means what the first one meant.  No lexeme of the edited text reaches over a
place that was edited, since all of them are closed.

* `repairFrom_place`: the edits, made at byte offsets, are edits of the lexemes.
* `parse_repair`: the repaired text is taken by a strict substituter and expanded as the first one is by a
  lenient one.
-/

namespace TextTemplate

variable {ε γ : Type} {marker : Marker} {table : Variables ε}

/-! ### Repairing a text -/

/-- What is put in front of a problem: a stray marker is doubled. -/
def Diagnostic.patch (d : Diagnostic) : String :=
  match d.problem with
  | .unterminatedMarker | .unterminatedBrace => String.singleton d.marker
  | .undefinedVariable _ _ => ""

/-- Where the text goes on: an undefined reference is left out. -/
def Diagnostic.resume (d : Diagnostic) : Nat :=
  match d.problem with
  | .unterminatedMarker | .unterminatedBrace => d.offset
  | .undefinedVariable _ excerpt => d.offset + excerpt.utf8ByteSize

/-- The text from `cursor` on, with the given problems repaired. -/
def repairFrom (text : String) (cursor : Nat) : List Diagnostic → Except Text.SliceError String
  | [] => Text.slice text cursor text.utf8ByteSize
  | d :: ds => do
    let before ← Text.slice text cursor d.offset
    let rest ← repairFrom text d.resume ds
    .ok (before ++ d.patch ++ rest)

/-- The text of a template, with the problems that were tolerated repaired. -/
def Template.repair (t : Template ε) : Except Text.SliceError String := repairFrom t.text 0 t.diagnostics

theorem repairFrom_cons {text before rest : String} {cursor : Nat} {d : Diagnostic} {ds : List Diagnostic}
    (kept : Text.slice text cursor d.offset = .ok before) (later : repairFrom text d.resume ds = .ok rest) :
    repairFrom text cursor (d :: ds) = .ok (before ++ d.patch ++ rest) := by
  rw [repairFrom, kept, later]
  rfl

/-! ### Repairing lexemes -/

namespace Lexeme

/-- What a lexeme becomes: a stray marker becomes an escape, and an undefined reference goes away. -/
def repaired (marker : Marker) (table : Variables ε) (l : Lexeme) : List Lexeme :=
  match l.problem? marker table with
  | none => [l]
  | some .unterminatedMarker => [escape]
  | some .unterminatedBrace => [escape, plain openBrace]
  | some (.undefinedVariable _ _) => []

/-- All that is left after the repair of a lexeme that was read is accepted. -/
theorem accepted_of_mem_repaired {l k : Lexeme} (read : l.Closed marker ∨ l.IsStray)
    (mem : k ∈ l.repaired marker table) : k.Accepted marker table := by
  unfold repaired at mem
  split at mem
  · rename_i fine
    obtain rfl := List.mem_singleton.1 mem
    rcases read with closed | rfl | rfl
    · exact accepted_iff.2 ⟨closed, fine⟩
    · cases fine
    · cases fine
  · obtain rfl := List.mem_singleton.1 mem
    exact .escape
  · rcases List.mem_pair.1 mem with rfl | rfl
    · exact .escape
    · exact .plain marker.ne_openBrace.symm
  · cases mem

theorem repaired_of_fine {l : Lexeme} (fine : l.problem? marker table = none) :
    l.repaired marker table = [l] := by
  rw [repaired, fine]

/-- The defined names that are asked for stay. -/
theorem names_repaired (l : Lexeme) :
    (l.repaired marker table).filterMap (fun k => k.name?.filter table.isDefined) =
      (l.name?.filter table.isDefined).toList := by
  cases said : l.problem? marker table with
  | none =>
    rw [repaired_of_fine said, List.filterMap_cons]
    cases l.name?.filter table.isDefined <;> rfl
  | some p =>
    rw [repaired, said]
    cases faulty_of_problem? said with
    | strayMarker => rfl
    | strayBrace => rfl
    | undefined asks undefined => simp [asks, Variables.isDefined, undefined]

theorem write_of_name? {table : Variables (Evaluator Buffer γ)} {l : Lexeme} {name : String}
    (asks : l.name? = some name) (ctx : γ) :
    l.write marker table ctx = table.write ctx name := by
  cases l <;> cases asks <;> rfl

/-- The repair of a lexeme writes what the lexeme wrote. -/
theorem writeLexemes_repaired {table : Variables (Evaluator Buffer γ)} (ctx : γ) (l : Lexeme) :
    writeLexemes marker table ctx (l.repaired marker table) = l.write marker table ctx := by
  cases said : l.problem? marker table with
  | none =>
    rw [repaired_of_fine said]
    exact bind_pure_unit
  | some p =>
    rw [repaired, said]
    cases faulty_of_problem? said with
    | strayMarker => exact bind_pure_unit.trans (congrArg Writer.text String.singleton_eq_ofList)
    | strayBrace =>
      have parts : String.ofList [marker.char, openBrace] = marker.text ++ String.ofList [openBrace] :=
        String.ofList_cons
      change (do Writer.text marker.text; (do Writer.text (String.ofList [openBrace]); pure ())) =
        Writer.text (String.ofList [marker.char, openBrace])
      rw [parts, Writer.text_append, bind_pure_unit]
    | undefined asks undefined =>
      rw [write_of_name? asks, Variables.write, undefined]
      rfl

end Lexeme

/-! ### Repaired texts -/

/-- Edits at the offsets of problems are edits of the lexemes that stand there. -/
theorem repairFrom_place {text : String} (before : String) (literal : List Char) {offset : Nat}
    {ls : List Lexeme} (spelled : text = before ++ String.ofList literal ++ String.ofList (spell marker ls))
    (start : (before ++ String.ofList literal).utf8ByteSize = offset) :
    repairFrom text before.utf8ByteSize (diagnosticsOf marker table (place marker offset ls)) =
      .ok (String.ofList (literal ++ spell marker (ls.flatMap (·.repaired marker table)))) := by
  induction ls generalizing before literal offset with
  | nil =>
    have tail : Text.slice text before.utf8ByteSize text.utf8ByteSize = .ok (String.ofList literal) := by
      refine Text.slice_eq_ok_iff.2 ⟨before, "", ?_, rfl, ?_⟩ <;> simp [spelled]
    simpa [place, diagnosticsOf, repairFrom] using tail
  | cons l ls ih =>
    have literalOk : Text.slice text before.utf8ByteSize offset = .ok (String.ofList literal) :=
      Text.slice_eq_ok_iff.2 ⟨before, _, spelled, rfl, start⟩
    rw [spell_cons, String.ofList_append, ← String.append_assoc] at spelled
    have next : (before ++ String.ofList literal ++ String.ofList (l.spelling marker)).utf8ByteSize =
        offset + l.size marker := by
      rw [String.utf8ByteSize_append, start, Lexeme.size, byteLength]
    simp only [diagnosticsOf, filterMap_place_cons, List.flatMap_cons, spell_append] at ih ⊢
    cases said : l.problem? marker table with
    | none =>
      -- The lexeme stays as it stands, and the literal goes on.
      have kept : l.diagnostic? marker table offset = none := by
        rw [Lexeme.diagnostic?, said]
        rfl
      rw [kept, Lexeme.repaired_of_fine said, spell_cons, spell_nil, List.append_nil, ← List.append_assoc]
      refine ih before (literal ++ l.spelling marker) ?_ ?_
      · rw [spelled, String.ofList_append, ← String.append_assoc]
      · rw [← next, String.ofList_append, String.append_assoc]
    | some p =>
      have reported : l.diagnostic? marker table offset = some ⟨p, offset, marker.char⟩ := by
        rw [Lexeme.diagnostic?, said]
        rfl
      -- The text goes on with a stray itself, behind the patch, but with what follows a reference.
      have copied := ih (before ++ String.ofList literal) (l.spelling marker) spelled next
      have leftOut := ih (before ++ String.ofList literal ++ String.ofList (l.spelling marker)) []
        (by simpa using spelled) (by simpa using next)
      rw [start] at copied
      rw [next] at leftOut
      rw [reported, Lexeme.repaired, said]
      cases Lexeme.faulty_of_problem? said with
      | strayMarker =>
        refine (repairFrom_cons literalOk copied).trans (congrArg Except.ok (String.toList_inj.1 ?_))
        simp [Diagnostic.patch, Lexeme.spelling]
      | strayBrace =>
        refine (repairFrom_cons literalOk copied).trans (congrArg Except.ok (String.toList_inj.1 ?_))
        simp [Diagnostic.patch, Lexeme.spelling]
      | undefined asks undefined =>
        refine (repairFrom_cons literalOk leftOut).trans (congrArg Except.ok (String.toList_inj.1 ?_))
        simp [Diagnostic.patch]

namespace Substituter

variable (s : Substituter ε) (text : String)

/-- The lexemes of a text, repaired. -/
def repairedLexemes : List Lexeme :=
  (lexemes s.marker text.toList).flatMap (·.repaired s.marker s.table)

/-- The text that the repaired lexemes spell. -/
def repaired : String := String.ofList (spell s.marker (s.repairedLexemes text))

theorem repair_template : (s.template text).repair = .ok (s.repaired text) :=
  repairFrom_place "" [] (by rw [spell_lexemes, String.ofList_toList]; rfl) rfl

theorem derives_repaired : s.Derives (s.repairedLexemes text) (s.repaired text) where
  accepted := by
    intro k mem
    obtain ⟨l, read, left⟩ := List.mem_flatMap.1 mem
    exact Lexeme.accepted_of_mem_repaired (closed_or_stray_of_mem_lexemes read) left
  spelled := rfl

theorem repaired_of_fine (fine : s.problems text = []) : s.repaired text = text := by
  have same : s.repairedLexemes text = lexemes s.marker text.toList := by
    have each := List.flatMap_congr fun l mem => Lexeme.repaired_of_fine (problems_eq_nil_iff.1 fine l mem)
    rw [repairedLexemes, each]
    simp
  rw [repaired, same, spell_lexemes, String.ofList_toList]

/-- The repaired text asks for the same defined names. -/
theorem names_repaired : (s.template (s.repaired text)).spans.filterMap Span.name =
    (s.template text).spans.filterMap Span.name := by
  rw [names_template, names_template, (s.derives_repaired text).lexemes_eq, repairedLexemes,
    List.filterMap_flatMap, List.filterMap_eq_flatMap_toList]
  simp only [Lexeme.names_repaired]

/-- The repaired text writes the same, into every buffer. -/
theorem expand_repaired (s : Substituter (Evaluator Buffer γ)) (text : String) (ctx : γ) :
    (s.template (s.repaired text)).expand ctx = (s.template text).expand ctx := by
  rw [expand_template, expand_template, (s.derives_repaired text).lexemes_eq, repairedLexemes,
    writeLexemes_flatMap]
  simp only [Lexeme.writeLexemes_repaired]
  rfl

end Substituter

/-- **Lenient expansion is strict expansion of the repaired text.**  Repair the text of a lenient template:
leave every undefined reference out, and double the marker of every stray.  The strict substituter takes the
repaired text, and finds nothing wrong with it.  Its template refers to the same names and writes the same,
for every context, from every format and into every buffer.  A text without problems is its own repair. -/
theorem parse_repair (s : Substituter (Evaluator Buffer γ)) (text : String) :
    ∃ t repaired t', (s.withLeniency true).parse text = .ok t ∧ t.repair = .ok repaired ∧
      (s.withLeniency false).parse repaired = .ok t' ∧ t'.diagnostics = [] ∧
      (∀ name, t'.refersTo name = t.refersTo name) ∧
      (∀ ctx out, t'.expand ctx out = t.expand ctx out) ∧
      (t.diagnostics = [] → repaired = text) := by
  have fine := (s.derives_repaired text).problems_eq_nil
  refine ⟨s.template text, s.repaired text, s.template (s.repaired text), s.parse_lenient_eq text,
    s.repair_template text, ?_, fine, ?_, ?_, s.repaired_of_fine text⟩
  · rw [s.parse_strict_eq, if_pos fine]
  · intro name
    rw [Bool.eq_iff_iff, Template.refersTo_iff, Template.refersTo_iff, s.names_repaired text]
  · intro ctx out
    rw [s.expand_repaired text]

theorem parse_repair_all_problems :
    let s : Substituter (Evaluator Buffer Unit) := ⟨{}, ⟨[("x", fun _ => Writer.put (.integer 7))]⟩⟩
    ∃ t t', (s.withLeniency true).parse "a@x@y@\x7b@" = .ok t ∧ t.repair = .ok "a@x@@\x7b@@" ∧
      (s.withLeniency false).parse "a@x@@\x7b@@" = .ok t' ∧ t'.diagnostics = [] ∧
      (∀ out, t'.expand () out = t.expand () out) ∧
      (s.withLeniency true).parse "a@x@@\x7b@@" = .ok t' ∧ t'.repair = .ok "a@x@@\x7b@@" := by
  intro s
  have closed : ∀ l ∈ [.plain 'a', .compact 'x', .compact 'y'], Lexeme.Closed s.marker l := by decide
  have rest : lexemes s.marker [s.marker.char, openBrace, s.marker.char] = [.strayBrace, .strayMarker] := by
    rw [lexemes_unclosed rfl, lexemes_last]
  have read : lexemes s.marker "a@x@y@\x7b@".toList =
      [.plain 'a', .compact 'x', .compact 'y', .strayBrace, .strayMarker] := by
    have whole := lexemes_spell_append closed [s.marker.char, openBrace, s.marker.char]
    rwa [rest] at whole
  have spelled : s.repaired "a@x@y@\x7b@" = "a@x@@\x7b@@" := by
    rw [Substituter.repaired, Substituter.repairedLexemes, read]
    rfl
  obtain ⟨t, repaired, t', parsed, repairs, parsed', clean, -, same, -⟩ := parse_repair s "a@x@y@\x7b@"
  obtain rfl : repaired = "a@x@@\x7b@@" := by
    obtain ⟨-, rfl⟩ := Substituter.parse_eq_ok_iff.1 parsed
    exact (Except.ok.inj ((s.repair_template _).symm.trans repairs)).symm.trans spelled
  obtain ⟨again, repaired, -, parsedAgain, repairsAgain, -, -, -, -, own⟩ :=
    parse_repair s "a@x@@\x7b@@"
  obtain rfl : again = t' := by
    obtain ⟨-, rfl⟩ := Substituter.parse_eq_ok_iff.1 parsed'
    exact (Substituter.parse_eq_ok_iff.1 parsedAgain).2.symm
  rw [own clean] at repairsAgain
  exact ⟨t, again, parsed, repairs, parsed', clean, same (), parsedAgain, repairsAgain⟩

end TextTemplate

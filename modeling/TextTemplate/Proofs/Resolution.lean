import TextTemplate.Proofs.Scanning
import TextTemplate.Proofs.Lexeme
import TextTemplate.Substituter

/-!
What a substituter makes of the lexemes of a text.

Every lexeme is looked up on its own: it may be replaced, it may be a problem, and an undefined reference
is both.  The scan of a text, and the template cut from it, are the placed lexemes looked up one by one,
with the characters between two replacements gathered into one literal.

* `Logged.foldlM_visit_place`: looking tokens up finds and logs what their lexemes say.
* `scan_eq`: a scan never fails, and finds what the lexemes of the text say.
* `parse_eq`: no slice is refused while a template is cut, so a text is refused for its problems only.
-/

namespace TextTemplate

variable {ε : Type} {marker : Marker} {table : Variables ε}

/-- What stands in place of a reference to `name`. -/
def Variables.resolve (table : Variables ε) (name : String) : Replacement ε :=
  match table.find? name with
  | some eval => .reference name eval
  | none => .omitted

namespace Lexeme

/-- What stands in place of a lexeme; plain characters and strays stay as they are. -/
def replacement? (table : Variables ε) : Lexeme → Option (Replacement ε)
  | escape => some .marker
  | compact c => some (table.resolve (String.singleton c))
  | braced name => some (table.resolve name)
  | plain _ | strayMarker | strayBrace => none

/-- What is wrong with a lexeme. -/
def problem? (marker : Marker) (table : Variables ε) (l : Lexeme) : Option Problem :=
  match l with
  | strayMarker => some .unterminatedMarker
  | strayBrace => some .unterminatedBrace
  | plain _ | escape => none
  | compact c => undefined? (String.singleton c)
  | braced name => undefined? name
where
  undefined? (name : String) : Option Problem :=
    match table.find? name with
    | some _ => none
    | none => some (.undefinedVariable name (String.ofList (l.spelling marker)))

/-- All that looking a lexeme up can come to: what replaces it, and what is wrong with it. -/
inductive LooksUp (marker : Marker) (table : Variables ε) :
    Lexeme → Option (Replacement ε) → Option Problem → Prop where
  | plain {c : Char} : LooksUp marker table (plain c) none none
  | escape : LooksUp marker table escape (some .marker) none
  | defined {l : Lexeme} {name : String} {eval : ε} : l.name? = some name →
      table.find? name = some eval → LooksUp marker table l (some (.reference name eval)) none
  | undefined {l : Lexeme} {name : String} : l.name? = some name → table.find? name = none →
      LooksUp marker table l (some .omitted)
        (some (.undefinedVariable name (String.ofList (l.spelling marker))))
  | strayMarker : LooksUp marker table strayMarker none (some .unterminatedMarker)
  | strayBrace : LooksUp marker table strayBrace none (some .unterminatedBrace)

theorem looksUp_reference (marker : Marker) (table : Variables ε) {l : Lexeme} {name : String}
    (asks : l.name? = some name) :
    LooksUp marker table l (some (table.resolve name)) (problem?.undefined? marker table l name) := by
  unfold Variables.resolve problem?.undefined?
  cases found : table.find? name with
  | none => exact .undefined asks found
  | some eval => exact .defined asks found

theorem looksUp (marker : Marker) (table : Variables ε) (l : Lexeme) :
    LooksUp marker table l (l.replacement? table) (l.problem? marker table) := by
  cases l with
  | plain c => exact .plain
  | escape => exact .escape
  | strayMarker => exact .strayMarker
  | strayBrace => exact .strayBrace
  | compact c => exact looksUp_reference marker table rfl
  | braced name => exact looksUp_reference marker table rfl

theorem exists_looksUp (marker : Marker) (table : Variables ε) (l : Lexeme) :
    ∃ r p, l.replacement? table = r ∧ l.problem? marker table = p ∧ LooksUp marker table l r p :=
  ⟨_, _, rfl, rfl, l.looksUp marker table⟩

/-- The problems that a lexeme can be. -/
inductive Faulty (marker : Marker) (table : Variables ε) : Lexeme → Problem → Prop where
  | strayMarker : Faulty marker table strayMarker .unterminatedMarker
  | strayBrace : Faulty marker table strayBrace .unterminatedBrace
  | undefined {l : Lexeme} {name : String} : l.name? = some name → table.find? name = none →
      Faulty marker table l (.undefinedVariable name (String.ofList (l.spelling marker)))

theorem faulty_of_problem? {l : Lexeme} {p : Problem} (said : l.problem? marker table = some p) :
    Faulty marker table l p := by
  obtain ⟨r, q, -, found, outcome⟩ := l.exists_looksUp marker table
  obtain rfl : some p = q := said.symm.trans found
  cases outcome with
  | strayMarker => exact .strayMarker
  | strayBrace => exact .strayBrace
  | undefined asks absent => exact .undefined asks absent

def substitution? (marker : Marker) (table : Variables ε) (offset : Nat) (l : Lexeme) :
    Option (Substitution ε) :=
  (l.replacement? table).map fun r => ⟨offset, offset + l.size marker, r⟩

def diagnostic? (marker : Marker) (table : Variables ε) (offset : Nat) (l : Lexeme) :
    Option Diagnostic :=
  (l.problem? marker table).map fun p => ⟨p, offset, marker.char⟩

end Lexeme

/-- What placed lexemes are replaced by. -/
def substitutionsOf (marker : Marker) (table : Variables ε) (placed : List (Nat × Lexeme)) :
    List (Substitution ε) :=
  placed.filterMap fun p => p.2.substitution? marker table p.1

/-- What is wrong with placed lexemes. -/
def diagnosticsOf (marker : Marker) (table : Variables ε) (placed : List (Nat × Lexeme)) :
    List Diagnostic :=
  placed.filterMap fun p => p.2.diagnostic? marker table p.1

/-- The placed lexemes as pieces of a template, after the characters of a literal that was begun. -/
def piecesOf (marker : Marker) (table : Variables ε) : List Char → List (Nat × Lexeme) → List (Piece ε)
  | literal, [] => [.literal (String.ofList literal)]
  | literal, p :: placed =>
    match p.2.substitution? marker table p.1 with
    | some s => .literal (String.ofList literal) :: .substitution s :: piecesOf marker table [] placed
    | none => piecesOf marker table (literal ++ p.2.spelling marker) placed

/-! ### Scans -/

/-- The tokens of a text are those of its lexemes. -/
theorem tokensOf_eq_place (text : String) (marker : Marker) :
    tokensOf text marker =
      .ok ((place marker 0 (lexemes marker text.toList)).filterMap fun p => p.2.token? marker p.1) := by
  rw [tokensOf_eq_lex, lex_eq_tokens]

theorem Lexeme.token?_eq_none_iff {offset : Nat} {l : Lexeme} :
    l.token? marker offset = none ↔ ∃ c, l = plain c := by
  cases l <;> simp [token?]

/-! ### What was found and logged -/

theorem Scan.append_empty (found : Scan ε) : found.append .empty = found := by
  simp only [append, empty, List.append_nil]

namespace Logged

variable {level : Level} {so : Logged ε}

/-- The state of the loop when more was found.  Every problem among it was logged. -/
def after (so : Logged ε) (level : Level) (found : Scan ε) : Logged ε :=
  ⟨so.scan.append found, so.entries ++ found.diagnostics.map fun d => ⟨level, d.message⟩⟩

theorem after_empty : so.after level .empty = so := by
  rw [after, Scan.append_empty]
  exact congrArg (Logged.mk _) (List.append_nil _)

theorem after_append (found later : Scan ε) :
    (so.after level found).after level later = so.after level (found.append later) := by
  simp only [after, Scan.append, List.map_append, List.append_assoc]

theorem replace_eq (token : Token) (r : Replacement ε) :
    so.replace token r = so.after level ⟨[⟨token.start, token.stop, r⟩], []⟩ :=
  congrArg (Logged.mk _) (List.append_nil _).symm

/-- An undefined reference is replaced and reported at once. -/
theorem report_replace_eq (marker : Marker) (token : Token) (r : Replacement ε) (p : Problem) :
    (so.replace token r).report level marker token p =
      so.after level ⟨[⟨token.start, token.stop, r⟩], [⟨p, token.start, marker.char⟩]⟩ := by
  rw [replace_eq]
  exact after_append _ ⟨[], [_]⟩

/-- A lexeme that the scanner reports is looked up as it should be, and logged if there is anything wrong with
it. -/
theorem visit_of_token? (level : Level) (so : Logged ε) (table : Variables ε) {before : String} (rest : String)
    {l : Lexeme} {token : Token} (reported : l.token? marker before.utf8ByteSize = some token) :
    visit level (before ++ String.ofList (l.spelling marker) ++ rest) marker table so token =
      .ok (so.after level ⟨(l.substitution? marker table before.utf8ByteSize).toList,
        (l.diagnostic? marker table before.utf8ByteSize).toList⟩) := by
  have excerpt : Text.slice (before ++ String.ofList (l.spelling marker) ++ rest) before.utf8ByteSize
      (before.utf8ByteSize + l.size marker) = .ok (String.ofList (l.spelling marker)) :=
    Text.slice_eq_ok_iff.2 ⟨before, rest, rfl, rfl, String.utf8ByteSize_append⟩
  cases l with
  | plain c => cases reported
  | escape =>
    cases reported
    exact congrArg Except.ok (replace_eq ..)
  | strayMarker => cases reported; rfl
  | strayBrace => cases reported; rfl
  | compact c =>
    cases reported
    simp only [visit, Lexeme.substitution?, Lexeme.diagnostic?, Lexeme.replacement?,
      Lexeme.problem?, Lexeme.problem?.undefined?, Variables.resolve]
    cases table.find? (String.singleton c) with
    | some eval => exact congrArg Except.ok (replace_eq ..)
    | none =>
      simp only [Token.excerpt, excerpt]
      exact congrArg Except.ok (report_replace_eq ..)
  | braced name =>
    cases reported
    simp only [visit, Lexeme.substitution?, Lexeme.diagnostic?, Lexeme.replacement?,
      Lexeme.problem?, Lexeme.problem?.undefined?, Variables.resolve]
    cases table.find? name with
    | some eval => exact congrArg Except.ok (replace_eq ..)
    | none =>
      simp only [Token.excerpt, excerpt]
      exact congrArg Except.ok (report_replace_eq ..)

/-- **The loop finds and logs what the lexemes say**, from any state on. -/
theorem foldlM_visit_place {text : String} (before : String) {offset : Nat} {ls : List Lexeme}
    (spelled : text = before ++ String.ofList (spell marker ls)) (start : before.utf8ByteSize = offset) :
    ((place marker offset ls).filterMap fun p => p.2.token? marker p.1).foldlM
        (visit level text marker table) so =
      .ok (so.after level ⟨substitutionsOf marker table (place marker offset ls),
        diagnosticsOf marker table (place marker offset ls)⟩) := by
  induction ls generalizing before offset so with
  | nil => exact congrArg Except.ok after_empty.symm
  | cons l ls ih =>
    rw [spell_cons, String.ofList_append, ← String.append_assoc] at spelled
    have next : (before ++ String.ofList (l.spelling marker)).utf8ByteSize = offset + l.size marker := by
      rw [String.utf8ByteSize_append, start, Lexeme.size, byteLength]
    simp only [substitutionsOf, diagnosticsOf, filterMap_place_cons] at ih ⊢
    cases reported : l.token? marker offset with
    | none =>
      obtain ⟨c, rfl⟩ := Lexeme.token?_eq_none_iff.1 reported
      exact ih _ spelled next
    | some token =>
      subst start
      have first := visit_of_token? level so table (String.ofList (spell marker ls)) reported
      rw [← spelled] at first
      simp only [Option.toList_some, List.singleton_append, List.foldlM_cons, first]
      refine (ih _ spelled next).trans ?_
      rw [after_append]
      rfl

end Logged

/-! ### Templates -/

theorem Piece.cut_place {text : String} (before : String) (literal : List Char) {offset : Nat} {ls : List Lexeme}
    (spelled : text = before ++ String.ofList literal ++ String.ofList (spell marker ls))
    (start : (before ++ String.ofList literal).utf8ByteSize = offset) :
    Piece.cut text before.utf8ByteSize (substitutionsOf marker table (place marker offset ls)) =
      .ok (piecesOf marker table literal (place marker offset ls)) := by
  induction ls generalizing before literal offset with
  | nil =>
    have tail : Text.slice text before.utf8ByteSize text.utf8ByteSize = .ok (String.ofList literal) := by
      refine Text.slice_eq_ok_iff.2 ⟨before, "", ?_, rfl, ?_⟩ <;> simp [spelled]
    simp only [place, substitutionsOf, List.filterMap_nil, Piece.cut, tail, piecesOf]
    rfl
  | cons l ls ih =>
    rw [spell_cons, String.ofList_append, ← String.append_assoc] at spelled
    have next : (before ++ String.ofList literal ++ String.ofList (l.spelling marker)).utf8ByteSize =
        offset + l.size marker := by
      rw [String.utf8ByteSize_append, start, Lexeme.size, byteLength]
    simp only [substitutionsOf, filterMap_place_cons] at ih ⊢
    simp only [place, piecesOf]
    cases replaced : l.substitution? marker table offset with
    | none =>
      -- The lexeme stays as it stands, and the literal goes on.
      refine ih before (literal ++ l.spelling marker) ?_ ?_
      · rw [spelled, String.ofList_append, ← String.append_assoc]
      · rw [← next, String.ofList_append, String.append_assoc]
    | some s =>
      obtain ⟨r, -, rfl⟩ := Option.map_eq_some_iff.1 replaced
      have literalOk : Text.slice text before.utf8ByteSize offset = .ok (String.ofList literal) :=
        Text.slice_eq_ok_iff.2 ⟨before, _, spelled.trans (String.append_assoc ..), rfl, start⟩
      have rest := ih (before ++ String.ofList literal ++ String.ofList (l.spelling marker)) []
        (by simpa using spelled) (by simpa using next)
      rw [next] at rest
      simp only [Option.toList_some, List.singleton_append, Piece.cut, literalOk, rest]
      rfl

/-- A cut without substitutions is one literal. -/
theorem Piece.cut_nil_eq_ok_iff {text : String} {cursor : Nat} {pieces : List (Piece ε)} :
    Piece.cut text cursor [] = .ok pieces ↔
      ∃ tail, Text.slice text cursor text.utf8ByteSize = .ok tail ∧ pieces = [.literal tail] := by
  rw [Piece.cut]
  cases Text.slice text cursor text.utf8ByteSize with
  | error e => simp [bind, Except.bind]
  | ok tail => simp [bind, Except.bind, eq_comm]

/-- A cut at a substitution is a literal, the substitution, and a cut of what follows it. -/
theorem Piece.cut_cons_eq_ok_iff {text : String} {cursor : Nat} {s : Substitution ε}
    {subs : List (Substitution ε)} {pieces : List (Piece ε)} :
    Piece.cut text cursor (s :: subs) = .ok pieces ↔
      ∃ before rest, Text.slice text cursor s.start = .ok before ∧
        Piece.cut text s.stop subs = .ok rest ∧
        pieces = .literal before :: .substitution s :: rest := by
  rw [Piece.cut]
  cases Text.slice text cursor s.start with
  | error e => simp [bind, Except.bind]
  | ok before =>
    cases Piece.cut text s.stop subs with
    | error e => simp [bind, Except.bind]
    | ok rest => simp [bind, Except.bind, eq_comm]

theorem Piece.substitutions_of_cut {text : String} {cursor : Nat} {subs : List (Substitution ε)}
    {pieces : List (Piece ε)} (cut : Piece.cut text cursor subs = .ok pieces) :
    pieces.filterMap Piece.substitution? = subs := by
  induction subs generalizing cursor pieces with
  | nil =>
    obtain ⟨tail, -, rfl⟩ := Piece.cut_nil_eq_ok_iff.1 cut
    rfl
  | cons s subs ih =>
    obtain ⟨before, rest, -, later, rfl⟩ := Piece.cut_cons_eq_ok_iff.1 cut
    exact congrArg (s :: ·) (ih later)

/-! ### Names -/

/-- What a substitution stands for is what its span names. -/
theorem Substitution.refersTo_iff {s : Substitution ε} {name : String} :
    s.replacement.refersTo name = true ↔ s.span?.bind Span.name = some name := by
  obtain ⟨start, stop, replacement⟩ := s
  cases replacement <;> simp [Replacement.refersTo, span?]

/-- The variables that a template refers to are those of its spans. -/
theorem Template.refersTo_iff (t : Template ε) (name : String) :
    t.refersTo name = true ↔ name ∈ t.spans.filterMap Span.name := by
  simp only [refersTo, List.any_eq_true, Substitution.refersTo_iff, spans, List.filterMap_filterMap,
    List.mem_filterMap]

/-- Only a defined name is listed. -/
theorem Variables.name_resolve (table : Variables ε) (start stop : Nat) (name : String) :
    (Substitution.mk start stop (table.resolve name)).span?.bind Span.name =
      (some name).filter table.isDefined := by
  unfold Variables.resolve
  cases found : table.find? name <;> simp [Substitution.span?, Option.filter, isDefined, found]

theorem Lexeme.name_substitution? (l : Lexeme) (offset : Nat) :
    (l.substitution? marker table offset).bind (fun sub => sub.span?.bind Span.name) =
      l.name?.filter table.isDefined := by
  cases l with
  | compact c => exact table.name_resolve ..
  | braced name => exact table.name_resolve ..
  | plain c => rfl
  | escape => rfl
  | strayMarker => rfl
  | strayBrace => rfl

namespace Substituter

/-- The lexemes of a text where they stand. -/
def placed (s : Substituter ε) (text : String) : List (Nat × Lexeme) :=
  place s.marker 0 (lexemes s.marker text.toList)

/-- The problems of a text, in text order. -/
def problems (s : Substituter ε) (text : String) : List Diagnostic :=
  diagnosticsOf s.marker s.table (s.placed text)

/-- The template of a text, whatever its problems. -/
def template (s : Substituter ε) (text : String) : Template ε :=
  ⟨text, s.marker, piecesOf s.marker s.table [] (s.placed text), s.problems text⟩

theorem placed_congr {ε' : Type} {s : Substituter ε} {s' : Substituter ε'} (marker : s.marker = s'.marker)
    (text : String) : s.placed text = s'.placed text := by
  rw [placed, placed, marker]

/-- **A scan looks the lexemes of the text up**, logs what is wrong with them, and never fails. -/
theorem scanLogged_eq (s : Substituter ε) (text : String) :
    s.scanLogged text =
      .ok ⟨⟨substitutionsOf s.marker s.table (s.placed text), s.problems text⟩,
        (s.problems text).map fun d => ⟨s.problemLevel, d.message⟩⟩ := by
  have spelled : text = "" ++ String.ofList (spell s.marker (lexemes s.marker text.toList)) := by
    simp [spell_lexemes]
  unfold scanLogged Logged.ofText
  rw [tokensOf_eq_place]
  exact Logged.foldlM_visit_place "" spelled rfl

theorem scan_eq (s : Substituter ε) (text : String) :
    s.scan text = .ok ⟨substitutionsOf s.marker s.table (s.placed text), s.problems text⟩ := by
  rw [scan, scanLogged_eq]
  rfl

theorem cut_placed (s : Substituter ε) (text : String) :
    Piece.cut text 0 (substitutionsOf s.marker s.table (s.placed text)) = .ok (s.template text).pieces :=
  Piece.cut_place "" [] (by simp [spell_lexemes]) rfl

/-- **A text is refused for its problems only**, and only by a strict substituter. -/
theorem parse_eq (s : Substituter ε) (text : String) :
    s.parse text =
      if s.problems text ≠ [] ∧ s.lenient = false then .error (.rejected (s.problems text))
      else .ok (s.template text) := by
  unfold parse read
  rw [scanLogged_eq]
  simp only [compile, cut_placed, Bool.and_eq_true, Bool.not_eq_true', List.isEmpty_eq_false_iff, ne_eq]
  rfl

/-- What becomes of a text depends on its scan, and of the substituter on nothing but the marker and the
leniency. -/
theorem template_congr {s s' : Substituter ε} (marker : s'.marker = s.marker) {text : String}
    (scanned : s'.scan text = s.scan text) : s'.template text = s.template text := by
  rw [scan_eq, scan_eq] at scanned
  obtain ⟨replaced, found⟩ := Scan.mk.inj (Except.ok.inj scanned)
  have cut := s'.cut_placed text
  rw [replaced, cut_placed] at cut
  have pieces : (s.template text).pieces = (s'.template text).pieces := Except.ok.inj cut
  have eta (s : Substituter ε) :
      s.template text = ⟨text, s.marker, (s.template text).pieces, s.problems text⟩ := rfl
  rw [eta s, eta s', pieces, found, marker]

theorem parse_congr {s s' : Substituter ε} (marker : s'.marker = s.marker) (lenient : s'.lenient = s.lenient)
    {text : String} (scanned : s'.scan text = s.scan text) : s'.parse text = s.parse text := by
  have found : s'.problems text = s.problems text := congrArg Template.diagnostics (template_congr marker scanned)
  rw [parse_eq, parse_eq, found, lenient, template_congr marker scanned]

theorem parse_eq_ok_iff {s : Substituter ε} {text : String} {t : Template ε} :
    s.parse text = .ok t ↔ (s.problems text = [] ∨ s.lenient = true) ∧ s.template text = t := by
  rw [parse_eq]
  split
  · rename_i refused
    simp [refused]
  · rename_i tolerated
    have : s.problems text = [] ∨ s.lenient = true := by
      rw [← Bool.not_eq_false]
      exact Decidable.or_iff_not_imp_left.2 fun faulty strict => tolerated ⟨faulty, strict⟩
    simp [this]

/-- What is refused is refused for the problems of the text. -/
theorem diagnostics_of_refused {s : Substituter ε} {text : String} {e : ParseError}
    (refused : s.parse text = .error e) : e.diagnostics = s.problems text := by
  rw [parse_eq] at refused
  split at refused
  · cases refused
    rfl
  · cases refused

/-- What is logged of a text: its problems, in text order. -/
theorem entries_read (s : Substituter ε) (text : String) :
    (s.read text).entries = (s.problems text).map fun d => ⟨s.problemLevel, d.message⟩ := by
  unfold read
  rw [scanLogged_eq]

/-- Problems are found in text order, no two at the same place. -/
theorem ascending_problems (s : Substituter ε) (text : String) :
    (s.problems text).Pairwise (·.offset < ·.offset) := by
  refine (ascending_place s.marker 0 _).filterMap _ fun p q less d found d' found' => ?_
  obtain ⟨-, -, rfl⟩ := Option.map_eq_some_iff.1 found
  obtain ⟨-, -, rfl⟩ := Option.map_eq_some_iff.1 found'
  exact less

/-- A text without problems has a template, whoever reads it. -/
theorem parse_of_clean {s : Substituter ε} {text : String} (clean : s.problems text = []) :
    s.parse text = .ok (s.template text) := parse_eq_ok_iff.2 ⟨.inl clean, rfl⟩

/-- A lenient substituter gives a template for every text. -/
theorem parse_of_lenient {s : Substituter ε} (lenient : s.lenient = true) (text : String) :
    s.parse text = .ok (s.template text) := parse_eq_ok_iff.2 ⟨.inr lenient, rfl⟩

theorem problems_eq_nil_iff {s : Substituter ε} {text : String} :
    s.problems text = [] ↔
      ∀ l ∈ lexemes s.marker text.toList, l.problem? s.marker s.table = none := by
  unfold problems diagnosticsOf
  rw [List.filterMap_eq_nil_iff]
  constructor
  · intro none_placed l mem
    rw [← map_snd_place s.marker 0 (lexemes s.marker text.toList)] at mem
    obtain ⟨p, placed, rfl⟩ := List.mem_map.1 mem
    exact Option.map_eq_none_iff.1 (none_placed p placed)
  · intro none_read p placed
    exact Option.map_eq_none_iff.2 (none_read p.2 (mem_of_mem_place placed))

theorem substitutions_template (s : Substituter ε) (text : String) :
    (s.template text).substitutions = substitutionsOf s.marker s.table (s.placed text) :=
  Piece.substitutions_of_cut (s.cut_placed text)

/-- A reference of a parsed template stands for what the table says. -/
theorem find?_of_reference {s : Substituter ε} {text name : String}
    {sub : Substitution ε} {eval : ε} (mem : sub ∈ (s.template text).substitutions)
    (refers : sub.replacement = .reference name eval) : s.table.find? name = some eval := by
  have resolved {asked : String} (found : s.table.resolve asked = .reference name eval) :
      s.table.find? name = some eval := by
    unfold Variables.resolve at found
    split at found
    · cases found
      assumption
    · cases found
  rw [substitutions_template] at mem
  obtain ⟨⟨offset, l⟩, -, replaced⟩ := List.mem_filterMap.1 mem
  obtain ⟨r, found, rfl⟩ := Option.map_eq_some_iff.1 replaced
  obtain rfl : r = _ := refers
  cases l with
  | plain c => cases found
  | strayMarker => cases found
  | strayBrace => cases found
  | escape => cases found
  | compact c => exact resolved (Option.some.inj found)
  | braced asked => exact resolved (Option.some.inj found)

/-- A template lists the defined names that its text asks for. -/
theorem names_template (s : Substituter ε) (text : String) :
    (s.template text).spans.filterMap Span.name =
      (lexemes s.marker text.toList).filterMap fun l => l.name?.filter s.table.isDefined := by
  rw [Template.spans, substitutions_template, substitutionsOf, List.filterMap_filterMap,
    List.filterMap_filterMap, ← map_snd_place s.marker 0 (lexemes s.marker text.toList), List.filterMap_map]
  exact congrArg (List.filterMap · _) (funext fun p => p.2.name_substitution? p.1)

end Substituter
end TextTemplate

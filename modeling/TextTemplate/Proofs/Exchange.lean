import TextTemplate.Proofs.Definitions
import TextTemplate.Proofs.Emission

/-!
The choice of the marker.

Exchange two markers wherever they stand, in a text and in the names of the variables, and configure the one in
place of the other.  Neither is a brace and both are one byte long, so every lexeme keeps its place and its kind,
and whatever is found by comparing names is still found.

* `lexemes_map_swap`: the exchanged text is read as the exchanged lexemes.
* `Substituter.scan_exchange`, `Substituter.template_exchange`: so its scan and its template are those of the
  text, exchanged.
* `parse_exchange`: what a substituter with another marker makes of the exchanged text.
-/

namespace TextTemplate

variable {ε γ : Type}

namespace Marker

/-- Exchanges two markers, and leaves all other characters alone. -/
def swap (p q : Marker) : Equiv.Perm Char := Equiv.swap p.char q.char

variable (p q : Marker)

@[simp] theorem swap_char : p.swap q p.char = q.char := Equiv.swap_apply_left ..

theorem swap_eq_char_iff {c : Char} : p.swap q c = q.char ↔ c = p.char := by
  rw [← swap_char, (p.swap q).apply_eq_iff_eq]

@[simp] theorem swap_openBrace : p.swap q openBrace = openBrace :=
  Equiv.swap_apply_of_ne_of_ne p.ne_openBrace.symm q.ne_openBrace.symm

@[simp] theorem swap_closeBrace : p.swap q closeBrace = closeBrace :=
  Equiv.swap_apply_of_ne_of_ne p.ne_closeBrace.symm q.ne_closeBrace.symm

theorem swap_eq_openBrace_iff {c : Char} : p.swap q c = openBrace ↔ c = openBrace := by
  conv_lhs => rw [← swap_openBrace p q, (p.swap q).apply_eq_iff_eq]

theorem swap_eq_closeBrace_iff {c : Char} : p.swap q c = closeBrace ↔ c = closeBrace := by
  conv_lhs => rw [← swap_closeBrace p q, (p.swap q).apply_eq_iff_eq]

/-- A marker is as long as any other. -/
@[simp] theorem utf8Size_swap (c : Char) : (p.swap q c).utf8Size = c.utf8Size := by
  unfold swap
  rw [Equiv.swap_apply_def]
  split
  · rename_i here
    rw [here, size_char, size_char]
  · split
    · rename_i there
      rw [there, size_char, size_char]
    · rfl

end Marker

/-- A text with two markers exchanged. -/
def exchangeText (p q : Marker) (text : String) : String := String.ofList (text.toList.map (p.swap q))

variable (p q : Marker)

@[simp] theorem toList_exchangeText (text : String) : (exchangeText p q text).toList = text.toList.map (p.swap q) :=
  String.toList_ofList

/-- Every text is an exchanged one. -/
theorem exchangeText_involutive : Function.Involutive (exchangeText p q) := by
  intro text
  have back : p.swap q ∘ p.swap q = id := congrArg DFunLike.coe (Equiv.swap_swap p.char q.char)
  rw [exchangeText, toList_exchangeText, List.map_map, back, List.map_id, String.ofList_toList]

theorem exchangeText_injective : Function.Injective (exchangeText p q) := (exchangeText_involutive p q).injective

theorem exchangeText_ofList (cs : List Char) :
    exchangeText p q (String.ofList cs) = String.ofList (cs.map (p.swap q)) := by
  rw [exchangeText, String.toList_ofList]

theorem exchangeText_singleton (c : Char) :
    exchangeText p q (String.singleton c) = String.singleton (p.swap q c) := by
  rw [String.singleton_eq_ofList, exchangeText_ofList, List.map_singleton, ← String.singleton_eq_ofList]

/-! ### What is exchanged -/

/-- The same lexeme of the exchanged text. -/
def Lexeme.exchange : Lexeme → Lexeme
  | plain c => plain (p.swap q c)
  | compact c => compact (p.swap q c)
  | braced name => braced (exchangeText p q name)
  | escape => escape
  | strayMarker => strayMarker
  | strayBrace => strayBrace

def Problem.exchange : Problem → Problem
  | undefinedVariable name excerpt =>
    undefinedVariable (exchangeText p q name) (exchangeText p q excerpt)
  | unterminatedMarker => unterminatedMarker
  | unterminatedBrace => unterminatedBrace

/-- The same diagnostic of the exchanged text, at the same offset. -/
def Diagnostic.exchange (d : Diagnostic) : Diagnostic := ⟨d.problem.exchange p q, d.offset, p.swap q d.marker⟩

/-- The same replacement under the exchanged name; what a variable writes is not touched. -/
def Replacement.exchange : Replacement ε → Replacement ε
  | marker => marker
  | reference name eval => reference (exchangeText p q name) eval
  | omitted => omitted

/-- The same substitution of the exchanged text, between the same offsets. -/
def Substitution.exchange (sub : Substitution ε) : Substitution ε :=
  ⟨sub.start, sub.stop, sub.replacement.exchange p q⟩

def Scan.exchange (scanned : Scan ε) : Scan ε :=
  ⟨scanned.substitutions.map (·.exchange p q), scanned.diagnostics.map (·.exchange p q)⟩

def Piece.exchange : Piece ε → Piece ε
  | literal text => literal (exchangeText p q text)
  | substitution sub => substitution (sub.exchange p q)

/-- The template of the exchanged text; its escapes write `q` if they wrote `p`. -/
def Template.exchange (t : Template ε) : Template ε :=
  ⟨exchangeText p q t.text, Equiv.swap p q t.marker, t.pieces.map (·.exchange p q),
    t.diagnostics.map (·.exchange p q)⟩

def ParseError.exchange : ParseError → ParseError
  | rejected diagnostics => rejected (diagnostics.map (·.exchange p q))
  | uncut fault => uncut fault

/-- A substituter with the marker `q`, for which the variables were defined anew under the exchanged names. -/
def Substituter.exchange (s : Substituter ε) (q : Marker) : Substituter ε :=
  ((Substituter.ofConfig { s.config with marker := q }).defineAll
    (s.table.entries.map fun entry => (exchangeText s.marker q entry.1, entry.2))).2

/-- The variable of the piece, if it has one, does not look at the buffer. -/
def Piece.Appends (ctx : γ) : Piece (Evaluator Buffer γ) → Prop
  | literal _ => True
  | substitution sub =>
    match sub.replacement with
    | .reference _ eval => (eval ctx).Appends
    | .marker | .omitted => True

/-- What a piece puts out, with its literals as `render` has them and `marker` for an escape. -/
def Piece.emission (render : String → String) (marker : Marker) (ctx : γ) (format : Format) :
    Piece (Evaluator Buffer γ) → Emission
  | literal text => .ofString (render text)
  | substitution sub =>
    match sub.replacement with
    | .marker => .ofString marker.text
    | .reference _ eval => (eval ctx).emission format
    | .omitted => .nothing

/-! ### Reading -/

/-- The end of a name is found where it was. -/
theorem splitFirst_map_swap (cs : List Char) :
    splitFirst closeBrace (cs.map (p.swap q)) =
      (splitFirst closeBrace cs).map (Prod.map (·.map (p.swap q)) (·.map (p.swap q))) := by
  induction cs with
  | nil => rfl
  | cons c cs ih =>
    rw [List.map_cons, splitFirst, splitFirst, ih]
    by_cases same : c = closeBrace
    · subst same
      rw [if_pos (p.swap_closeBrace q), if_pos rfl]
      rfl
    · rw [if_neg (mt (p.swap_eq_closeBrace_iff q).1 same), if_neg same, Option.map_map, Option.map_map]
      rfl

namespace Lexeme

theorem spelling_exchange (l : Lexeme) : (l.exchange p q).spelling q = (l.spelling p).map (p.swap q) := by
  cases l <;> simp [exchange, spelling]

theorem size_exchange (l : Lexeme) : (l.exchange p q).size q = l.size p := by
  have length (cs : List Char) : byteLength (cs.map (p.swap q)) = byteLength cs := by
    induction cs with
    | nil => rfl
    | cons c cs ih => simp [ih]
  rw [size, spelling_exchange, length, size]

end Lexeme

/-- **The exchanged text is read as the exchanged lexemes.** -/
theorem lexemes_map_swap (cs : List Char) :
    lexemes q (cs.map (p.swap q)) = (lexemes p cs).map (·.exchange p q) := by
  fun_induction lexemes p cs with
  | case1 => exact lexemes_nil
  | case2 c cs other ih =>
    rw [List.map_cons, lexemes_plain (mt (p.swap_eq_char_iff q).1 other), ih]
    rfl
  | case3 c same =>
    obtain rfl := Classical.not_not.1 same
    rw [List.map_cons, p.swap_char]
    exact lexemes_last
  | case4 c same rest name after closed ih =>
    obtain rfl := Classical.not_not.1 same
    have closed' : splitFirst closeBrace (rest.map (p.swap q)) =
        some (name.map (p.swap q), after.map (p.swap q)) := by
      rw [splitFirst_map_swap, closed]
      rfl
    rw [List.map_cons, List.map_cons, p.swap_char, p.swap_openBrace, lexemes_braced closed', ih,
      ← exchangeText_ofList]
    rfl
  | case5 c same rest unclosed ih =>
    obtain rfl := Classical.not_not.1 same
    have unclosed' : splitFirst closeBrace (rest.map (p.swap q)) = none := by
      rw [splitFirst_map_swap, unclosed]
      rfl
    rw [List.map_cons, List.map_cons, p.swap_char, p.swap_openBrace, lexemes_unclosed unclosed', ih]
    rfl
  | case6 c same rest notBrace ih =>
    obtain rfl := Classical.not_not.1 same
    rw [List.map_cons, List.map_cons, p.swap_char, lexemes_escape, ih]
    rfl
  | case7 c same d rest notBrace notMarker ih =>
    obtain rfl := Classical.not_not.1 same
    rw [List.map_cons, List.map_cons, p.swap_char, lexemes_compact (mt (p.swap_eq_char_iff q).1 notMarker)
      (mt (p.swap_eq_openBrace_iff q).1 notBrace), ih]
    rfl

theorem place_exchange (offset : Nat) (ls : List Lexeme) :
    place q offset (ls.map (·.exchange p q)) = (place p offset ls).map (Prod.map id (·.exchange p q)) := by
  induction ls generalizing offset with
  | nil => rfl
  | cons l ls ih =>
    rw [List.map_cons, place, ih, l.size_exchange, place]
    rfl

/-! ### Looking up -/

section Lookup

variable {p q} {table table' : Variables ε}
  (same : ∀ name, table'.find? (exchangeText p q name) = table.find? name)

include same

theorem Lexeme.replacement?_exchange (l : Lexeme) :
    (l.exchange p q).replacement? table' = (l.replacement? table).map (·.exchange p q) := by
  have resolved (name : String) :
      table'.resolve (exchangeText p q name) = (table.resolve name).exchange p q := by
    unfold Variables.resolve
    rw [same]
    cases table.find? name <;> rfl
  cases l with
  | compact c =>
    rw [exchange, replacement?, ← exchangeText_singleton, resolved]
    rfl
  | braced name => exact congrArg some (resolved name)
  | plain c => rfl
  | escape => rfl
  | strayMarker => rfl
  | strayBrace => rfl

theorem Lexeme.problem?_exchange (l : Lexeme) :
    (l.exchange p q).problem? q table' = (l.problem? p table).map (·.exchange p q) := by
  have asked (name : String) : problem?.undefined? q table' (l.exchange p q) (exchangeText p q name) =
      (problem?.undefined? p table l name).map (·.exchange p q) := by
    unfold problem?.undefined?
    rw [same, spelling_exchange, ← exchangeText_ofList]
    cases table.find? name <;> rfl
  cases l with
  | compact c =>
    have found := asked (String.singleton c)
    rw [exchangeText_singleton] at found
    exact found
  | braced name => exact asked name
  | plain c => rfl
  | escape => rfl
  | strayMarker => rfl
  | strayBrace => rfl

theorem Lexeme.substitution?_exchange (offset : Nat) (l : Lexeme) :
    (l.exchange p q).substitution? q table' offset = (l.substitution? p table offset).map (·.exchange p q) := by
  rw [substitution?, substitution?, l.replacement?_exchange same, l.size_exchange, Option.map_map, Option.map_map]
  rfl

theorem Lexeme.diagnostic?_exchange (offset : Nat) (l : Lexeme) :
    (l.exchange p q).diagnostic? q table' offset = (l.diagnostic? p table offset).map (·.exchange p q) := by
  rw [diagnostic?, diagnostic?, l.problem?_exchange same, Option.map_map, Option.map_map]
  simp only [Function.comp_def, Diagnostic.exchange, Marker.swap_char]

theorem substitutionsOf_exchange (placed : List (Nat × Lexeme)) :
    substitutionsOf q table' (placed.map (Prod.map id (·.exchange p q))) =
      (substitutionsOf p table placed).map (·.exchange p q) := by
  rw [substitutionsOf, substitutionsOf, List.filterMap_map, List.map_filterMap]
  exact congrArg (List.filterMap · placed) (funext fun l => l.2.substitution?_exchange same l.1)

theorem diagnosticsOf_exchange (placed : List (Nat × Lexeme)) :
    diagnosticsOf q table' (placed.map (Prod.map id (·.exchange p q))) =
      (diagnosticsOf p table placed).map (·.exchange p q) := by
  rw [diagnosticsOf, diagnosticsOf, List.filterMap_map, List.map_filterMap]
  exact congrArg (List.filterMap · placed) (funext fun l => l.2.diagnostic?_exchange same l.1)

theorem piecesOf_exchange (literal : List Char) (placed : List (Nat × Lexeme)) :
    piecesOf q table' (literal.map (p.swap q)) (placed.map (Prod.map id (·.exchange p q))) =
      (piecesOf p table literal placed).map (·.exchange p q) := by
  induction placed generalizing literal with
  | nil => exact congrArg (fun text => [Piece.literal text]) (exchangeText_ofList p q literal).symm
  | cons l placed ih =>
    have here := l.2.substitution?_exchange same l.1
    rw [List.map_cons, piecesOf, piecesOf]
    simp only [Prod.map_fst, Prod.map_snd, id_eq, here]
    cases l.2.substitution? p table l.1 with
    | none =>
      rw [Option.map_none, l.2.spelling_exchange, ← List.map_append]
      exact ih _
    | some sub =>
      rw [Option.map_some, ← exchangeText_ofList]
      exact congrArg (fun rest => Piece.literal _ :: Piece.substitution _ :: rest) (ih [])

end Lookup

/-! ### Substituters -/

theorem lookup_map_exchangeText (entries : List (String × ε)) (name : String) :
    (entries.map fun entry => (exchangeText p q entry.1, entry.2)).lookup (exchangeText p q name) =
      entries.lookup name := by
  induction entries with
  | nil => rfl
  | cons entry entries ih =>
    obtain ⟨first, eval⟩ := entry
    rw [List.map_cons, Variables.lookup_cons, Variables.lookup_cons, ih]
    simp only [(exchangeText_injective p q).eq_iff]

namespace Substituter

variable (s : Substituter ε) (q : Marker) (text : String)

theorem config_exchange : (s.exchange q).config = { s.config with marker := q } :=
  (defineAll_eq Variables.Holds.empty _).2.1

theorem marker_exchange : (s.exchange q).marker = q := congrArg Config.marker (s.config_exchange q)

/-- Every variable is found under its exchanged name. -/
theorem find?_exchange (name : String) :
    (s.exchange q).table.find? (exchangeText s.marker q name) = s.table.find? name := by
  have fresh : (Substituter.ofConfig { s.config with marker := q } : Substituter ε).table.Holds [] :=
    Variables.Holds.empty
  have holds : (s.exchange q).table.Holds
      (s.table.entries.map fun entry => (exchangeText s.marker q entry.1, entry.2)) :=
    (defineAll_eq fresh _).2.2
  rw [holds.find?_eq, lookup_map_exchangeText, Variables.find?]

theorem placed_exchange : (s.exchange q).placed (exchangeText s.marker q text) =
    (s.placed text).map (Prod.map id (·.exchange s.marker q)) := by
  rw [placed, marker_exchange, toList_exchangeText, lexemes_map_swap, place_exchange, placed]

theorem problems_exchange : (s.exchange q).problems (exchangeText s.marker q text) =
    (s.problems text).map (·.exchange s.marker q) := by
  rw [problems, placed_exchange, marker_exchange, diagnosticsOf_exchange (s.find?_exchange q), problems]

/-- **The scan of the exchanged text** is the exchanged scan. -/
theorem scan_exchange : ∃ scanned, s.scan text = .ok scanned ∧
    (s.exchange q).scan (exchangeText s.marker q text) = .ok (scanned.exchange s.marker q) := by
  refine ⟨_, s.scan_eq text, ?_⟩
  rw [scan_eq, placed_exchange, marker_exchange, substitutionsOf_exchange (s.find?_exchange q), problems_exchange]
  rfl

/-- **The template of the exchanged text** is the exchanged template. -/
theorem template_exchange : (s.exchange q).template (exchangeText s.marker q text) =
    (s.template text).exchange s.marker q := by
  have pieces := piecesOf_exchange (s.find?_exchange q) [] (s.placed text)
  rw [template, placed_exchange, marker_exchange, problems_exchange, Template.exchange, template,
    Equiv.swap_apply_left]
  exact congrArg (Template.mk _ _ · _) pieces

/-- **The exchanged text has the exchanged outcome.** -/
theorem parse_exchangeText : (s.exchange q).parse (exchangeText s.marker q text) =
    ((s.parse text).map (·.exchange s.marker q)).mapError (·.exchange s.marker q) := by
  have lenient : (s.exchange q).lenient = s.lenient := by
    rw [Substituter.lenient, config_exchange, Substituter.lenient]
  simp only [parse_eq, problems_exchange, template_exchange, lenient, ne_eq, List.map_eq_nil_iff]
  split <;> rfl

end Substituter

/-! ### Expanding -/

theorem Piece.emits_write {marker : Marker} {ctx : γ} {piece : Piece (Evaluator Buffer γ)} (blind : piece.Appends ctx)
    (format : Format) :
    (piece.write marker ctx).Emits format (piece.emission id marker ctx format).result
      (piece.emission id marker ctx format).bytes format := by
  cases piece with
  | literal text => exact Writer.emits_bytes _ format
  | substitution sub =>
    obtain ⟨start, stop, replacement⟩ := sub
    cases replacement with
    | marker => exact Writer.emits_bytes _ format
    | reference name eval => exact Writer.Appends.emits_isolated blind format
    | omitted => exact Writer.emits_pure () format

theorem Piece.appends_exchange {ctx : γ} {piece : Piece (Evaluator Buffer γ)} :
    (piece.exchange p q).Appends ctx ↔ piece.Appends ctx := by
  cases piece with
  | literal text => exact Iff.rfl
  | substitution sub =>
    obtain ⟨start, stop, replacement⟩ := sub
    cases replacement <;> exact Iff.rfl

theorem Piece.emission_exchange (ctx : γ) (format : Format) (piece : Piece (Evaluator Buffer γ)) :
    (piece.exchange p q).emission id q ctx format = piece.emission (exchangeText p q) q ctx format := by
  cases piece with
  | literal text => rfl
  | substitution sub =>
    obtain ⟨start, stop, replacement⟩ := sub
    cases replacement <;> rfl

/-- A template puts out what its pieces put out in a row. -/
theorem Template.emits_expand {t : Template (Evaluator Buffer γ)} {ctx : γ}
    (blind : ∀ piece ∈ t.pieces, piece.Appends ctx) (format : Format) :
    (t.expand ctx).Emits format
      (Emission.concat (t.pieces.map (Piece.emission id t.marker ctx format))).result
      (Emission.concat (t.pieces.map (Piece.emission id t.marker ctx format))).bytes format :=
  Writer.emits_all fun piece mem => piece.emits_write (blind piece mem) format

theorem Substituter.appends_of_mem_pieces {s : Substituter (Evaluator Buffer γ)} (blind : s.table.Appends)
    (text : String) (ctx : γ) : ∀ piece ∈ (s.template text).pieces, piece.Appends ctx := by
  intro piece mem
  cases piece with
  | literal text => trivial
  | substitution sub =>
    have listed : sub ∈ (s.template text).substitutions := List.mem_filterMap.2 ⟨_, mem, rfl⟩
    obtain ⟨start, stop, replacement⟩ := sub
    cases replacement with
    | marker => trivial
    | reference name eval => exact blind name eval ctx (find?_of_reference listed rfl)
    | omitted => trivial

/-- **The syntax does not depend on the marker.**  Give a substituter any other marker, define its variables anew
under the exchanged names, and exchange the two markers in a text.  The scan is then the exchanged scan: the same
kinds of substitutions between the same offsets, the same kinds of problems at the same offsets, and exchanged
names and excerpts.  Either both texts are accepted or both are refused, and the outcome is the exchanged one.  And
if the variables do not look at the buffer, then into one that grows the first template writes its literals, its
marker for every escape and the outputs of its variables; and the second one writes the exchanged literals, its
own marker and the same outputs. -/
theorem parse_exchange (s : Substituter (Evaluator Buffer γ)) (q : Marker) (text : String) :
    let s' := s.exchange q
    let text' := exchangeText s.marker q text
    s'.config = { s.config with marker := q } ∧
      (∀ name, s'.table.find? (exchangeText s.marker q name) = s.table.find? name) ∧
      (∃ scanned, s.scan text = .ok scanned ∧ s'.scan text' = .ok (scanned.exchange s.marker q)) ∧
      s'.parse text' = ((s.parse text).map (·.exchange s.marker q)).mapError (·.exchange s.marker q) ∧
      ∀ t t', s.parse text = .ok t → s'.parse text' = .ok t' → s.table.Appends → ∀ ctx format,
        let out := Emission.concat (t.pieces.map (Piece.emission id s.marker ctx format))
        let out' := Emission.concat (t.pieces.map (Piece.emission (exchangeText s.marker q) q ctx format))
        (t.expand ctx).Emits format out.result out.bytes format ∧
          (t'.expand ctx).Emits format out'.result out'.bytes format := by
  intro s' text'
  refine ⟨s.config_exchange q, s.find?_exchange q, s.scan_exchange q text, s.parse_exchangeText q text, ?_⟩
  intro t t' parsed parsed' blind ctx format
  obtain ⟨-, rfl⟩ := Substituter.parse_eq_ok_iff.1 parsed
  obtain ⟨-, rfl⟩ := Substituter.parse_eq_ok_iff.1 parsed'
  have appends := Substituter.appends_of_mem_pieces blind text ctx
  refine ⟨Template.emits_expand appends format, ?_⟩
  have appends' : ∀ piece ∈ (s'.template text').pieces, piece.Appends ctx := by
    rw [s.template_exchange]
    exact List.forall_mem_map.2 fun piece mem => (Piece.appends_exchange _ _).2 (appends piece mem)
  have put : (s'.template text').pieces.map (Piece.emission id q ctx format) =
      (s.template text).pieces.map (Piece.emission (exchangeText s.marker q) q ctx format) := by
    rw [s.template_exchange, Template.exchange, List.map_map]
    exact List.map_congr_left fun piece _ => piece.emission_exchange _ q ctx format
  have marker : (s'.template text').marker = q := s.marker_exchange q
  have emits := Template.emits_expand appends' format
  rw [marker, put] at emits
  exact emits

/-- The two markers stand for themselves, for escapes and for names here. -/
theorem parse_exchange_both_roles :
    let seven : Evaluator Buffer Unit := fun _ => Writer.put (.integer 7)
    let nine : Evaluator Buffer Unit := fun _ => Writer.put (.integer 9)
    let s : Substituter (Evaluator Buffer Unit) := ⟨{}, ⟨[("#", nine), ("@", seven)]⟩⟩
    let hash : Marker := ⟨'#', rfl⟩
    s.table.Appends ∧ ∃ t t', s.parse "#@@@\x7b@\x7d@#" = .ok t ∧
      (s.exchange hash).parse "@###\x7b#\x7d#@" = .ok t' ∧
      t.expand () ⟨.growing ByteArray.empty, {}⟩ = (.ok (), ⟨.growing "#@79".toUTF8, {}⟩) ∧
      t'.expand () ⟨.growing ByteArray.empty, {}⟩ = (.ok (), ⟨.growing "@#79".toUTF8, {}⟩) := by
  intro seven nine s hash
  have blind : s.table.Appends := by
    apply Variables.appends_of_entries
    intro entry mem ctx
    rcases List.mem_pair.1 mem with rfl | rfl
    · exact Writer.appends_put _
    · exact Writer.appends_put _
  let asked : List Lexeme := [.plain '#', .escape, .braced "@", .compact '#']
  have closed : ∀ l ∈ asked, l.Closed s.marker := by decide
  have read : lexemes s.marker "#@@@\x7b@\x7d@#".toList = asked := lexemes_spell closed
  have fine : s.problems "#@@@\x7b@\x7d@#" = [] := by
    rw [Substituter.problems, Substituter.placed, read]
    rfl
  have pieces : (s.template "#@@@\x7b@\x7d@#").pieces =
      [.literal "#", .substitution ⟨1, 3, .marker⟩, .literal "", .substitution ⟨3, 7, .reference "@" seven⟩,
        .literal "", .substitution ⟨7, 9, .reference "#" nine⟩, .literal ""] := by
    unfold Substituter.template Substituter.placed
    rw [read]
    rfl
  have parsed : s.parse "#@@@\x7b@\x7d@#" = .ok (s.template "#@@@\x7b@\x7d@#") :=
    Substituter.parse_of_clean fine
  obtain ⟨-, -, -, outcome, written⟩ := parse_exchange s hash "#@@@\x7b@\x7d@#"
  rw [parsed] at outcome
  have both := written _ _ parsed outcome blind () {}
  refine ⟨blind, _, _, parsed, outcome, ?_, ?_⟩
  · rw [both.1]
    simp only [pieces, List.map_cons, List.map_nil, Piece.emission, seven, nine, Writer.emission_put]
    rfl
  · rw [both.2]
    simp only [pieces, List.map_cons, List.map_nil, Piece.emission, seven, nine, Writer.emission_put]
    rfl

end TextTemplate

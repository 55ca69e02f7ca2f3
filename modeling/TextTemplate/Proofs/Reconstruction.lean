import Mathlib.Data.List.Nodup
import TextTemplate.Proofs.Layout

/-!
What a template lists tells where all of its parts lie.

A template lists its spans and its diagnostics, but not the references that it drops.  Every dropped reference
is quoted by a diagnostic, though, so it lies where the diagnostic is and is as long as what is quoted.

* `Substituter.agrees_scan`: diagnostics and omitted substitutions are in step.
* `reconstruct`: the layout of a template, from its text and what it lists.
* `diagnostics_agree`: the layout that is reconstructed is that of the template, and the counts add up.
-/

namespace TextTemplate

open Text

variable {ε : Type} {marker : Marker} {table : Variables ε}

/-- The substitution of an undefined reference. -/
def Substitution.isOmitted (sub : Substitution ε) : Bool :=
  match sub.replacement with
  | .omitted => true
  | .marker | .reference _ _ => false

/-- Where the reference lies that was dropped for a diagnostic, if one was. -/
def Diagnostic.dropped? (d : Diagnostic) : Option (Nat × Nat) :=
  match d.problem with
  | .undefinedVariable _ excerpt => some (d.offset, d.offset + excerpt.utf8ByteSize)
  | .unterminatedMarker | .unterminatedBrace => none

/-- `Quotes marker name excerpt`: a reference to `name` can be written as `excerpt`. -/
inductive Quotes (marker : Marker) : String → String → Prop where
  | compact {c : Char} : c ≠ marker.char → c ≠ openBrace →
      Quotes marker (String.singleton c) (String.ofList [marker.char, c])
  | braced {name : String} : closeBrace ∉ name.toList →
      Quotes marker name (String.ofList (marker.char :: openBrace :: (name.toList ++ [closeBrace])))

/-- The diagnostics of a scan and its substitutions are in step. -/
structure Scan.Agrees (marker : Marker) (table : Variables ε) (text : String) (scanned : Scan ε) : Prop where
  ascending : scanned.diagnostics.Pairwise (·.offset < ·.offset)
  atMarker : ∀ d ∈ scanned.diagnostics, charAt? text d.offset = some marker.char
  omitted : (scanned.substitutions.filter (·.isOmitted)).map (fun sub => (sub.start, sub.stop)) =
    scanned.diagnostics.filterMap Diagnostic.dropped?
  quoted : ∀ d ∈ scanned.diagnostics, ∀ name excerpt, d.problem = .undefinedVariable name excerpt →
    slice text d.offset (d.offset + excerpt.utf8ByteSize) = .ok excerpt ∧
      Quotes marker name excerpt ∧ table.isDefined name = false
  apart : ∀ d ∈ scanned.diagnostics, ∀ sub ∈ scanned.substitutions, sub.isOmitted = false →
    d.offset ≠ sub.start

/-! ### What is listed of a lexeme -/

namespace Lexeme

/-- What is reported starts with a marker. -/
theorem spelling_of_problem? {l : Lexeme} {p : Problem} (said : l.problem? marker table = some p) :
    ∃ rest, l.spelling marker = marker.char :: rest := by
  cases l with
  | plain c => cases said
  | _ => exact ⟨_, rfl⟩

/-- A reference that was read is quoted as it can be written. -/
theorem quotes_of_name? {l : Lexeme} {name : String} (read : l.Closed marker ∨ l.IsStray)
    (asks : l.name? = some name) : Quotes marker name (String.ofList (l.spelling marker)) := by
  rcases read with closed | rfl | rfl
  · cases closed with
    | plain => cases asks
    | escape => cases asks
    | compact notMarker notBrace =>
      cases asks
      exact .compact notMarker notBrace
    | braced absent =>
      cases asks
      exact .braced absent
  · cases asks
  · cases asks

/-- What an undefined reference leaves behind: an omitted substitution, and a diagnostic that quotes it. -/
theorem omitted_eq_dropped (l : Lexeme) (offset : Nat) :
    ((l.substitution? marker table offset).filter (·.isOmitted)).map (fun sub => (sub.start, sub.stop)) =
      (l.diagnostic? marker table offset).bind Diagnostic.dropped? := by
  obtain ⟨r, p, replaced, said, outcome⟩ := l.exists_looksUp marker table
  rw [substitution?, diagnostic?, replaced, said]
  cases outcome <;> rfl

/-- What is not dropped is not reported. -/
theorem diagnostic?_eq_none {l : Lexeme} {offset : Nat} {sub : Substitution ε}
    (replaced : l.substitution? marker table offset = some sub) (kept : sub.isOmitted = false) :
    l.diagnostic? marker table offset = none := by
  obtain ⟨r, p, found, said, outcome⟩ := l.exists_looksUp marker table
  rw [substitution?, found] at replaced
  rw [diagnostic?, said]
  cases outcome with
  | undefined =>
    cases replaced
    cases kept
  | strayMarker => cases replaced
  | strayBrace => cases replaced
  | plain => rfl
  | escape => rfl
  | defined => rfl

/-- What the scanner reports is listed as a span or as a diagnostic, and never as both. -/
theorem length_token? (l : Lexeme) (offset : Nat) :
    (l.token? marker offset).toList.length =
      ((l.substitution? marker table offset).bind Substitution.span?).toList.length +
        (l.diagnostic? marker table offset).toList.length := by
  have reference {name : String} (asks : l.name? = some name) :
      (l.token? marker offset).toList.length = 1 := by
    cases l <;> cases asks <;> rfl
  obtain ⟨r, p, replaced, said, outcome⟩ := l.exists_looksUp marker table
  rw [substitution?, diagnostic?, replaced, said]
  cases outcome with
  | defined asks => exact reference asks
  | undefined asks => exact reference asks
  | _ => rfl

/-- What is replaced is listed as a span, or it was dropped for a diagnostic. -/
theorem length_substitution? (l : Lexeme) (offset : Nat) :
    (l.substitution? marker table offset).toList.length =
      ((l.substitution? marker table offset).bind Substitution.span?).toList.length +
        ((l.diagnostic? marker table offset).bind Diagnostic.dropped?).toList.length := by
  obtain ⟨r, p, replaced, said, outcome⟩ := l.exists_looksUp marker table
  rw [substitution?, diagnostic?, replaced, said]
  cases outcome <;> rfl

end Lexeme

/-! ### What is listed of a text -/

theorem length_filterMap_cons {α β : Type} (f : α → Option β) (a : α) (as : List α) :
    ((a :: as).filterMap f).length = (f a).toList.length + (as.filterMap f).length := by
  rw [List.filterMap_cons]
  cases f a with
  | none => exact (Nat.zero_add _).symm
  | some b => exact Nat.add_comm ..

/-- Lists that count one by one what a third counts add up to it. -/
theorem length_filterMap_add {α β δ ε : Type} {f : α → Option β} {g : α → Option δ} {h : α → Option ε}
    (each : ∀ a, (f a).toList.length = (g a).toList.length + (h a).toList.length) (as : List α) :
    (as.filterMap f).length = (as.filterMap g).length + (as.filterMap h).length := by
  induction as with
  | nil => rfl
  | cons a as ih =>
    rw [length_filterMap_cons, length_filterMap_cons, length_filterMap_cons, each a, ih]
    omega

/-- Elements of an ascending list are known by their keys. -/
theorem eq_of_key_eq {α : Type} {key : α → Nat} {as : List α} (ascending : as.Pairwise (key · < key ·))
    {a b : α} (left : a ∈ as) (right : b ∈ as) (same : key a = key b) : a = b := by
  have once : (as.map key).Nodup := List.pairwise_map.2 (ascending.imp Nat.ne_of_lt)
  exact List.inj_on_of_nodup_map once left right same

namespace Substituter

variable (s : Substituter ε) (text : String)

/-- The diagnostics of a scan and its substitutions are in step. -/
theorem agrees_scan :
    Scan.Agrees s.marker s.table text
      ⟨substitutionsOf s.marker s.table (s.placed text), s.problems text⟩ where
  ascending := s.ascending_problems text
  atMarker := by
    intro d mem
    obtain ⟨p, placed, reported⟩ := List.mem_filterMap.1 mem
    obtain ⟨q, said, rfl⟩ := Option.map_eq_some_iff.1 reported
    obtain ⟨rest, spelled⟩ := Lexeme.spelling_of_problem? said
    exact charAt?_of_mem_place placed spelled
  omitted := by
    simp only [substitutionsOf, problems, diagnosticsOf, List.filter_filterMap, List.map_filterMap,
      List.filterMap_filterMap, Lexeme.omitted_eq_dropped]
  quoted := by
    intro d mem name excerpt isUndefined
    obtain ⟨⟨offset, l⟩, placed, reported⟩ := List.mem_filterMap.1 mem
    obtain ⟨problem, said, rfl⟩ := Option.map_eq_some_iff.1 reported
    obtain rfl : problem = _ := isUndefined
    cases Lexeme.faulty_of_problem? said with
    | undefined asks absent =>
      refine ⟨slice_of_mem_place placed, ?_, ?_⟩
      · exact Lexeme.quotes_of_name? (closed_or_stray_of_mem_lexemes (mem_of_mem_place placed)) asks
      · rw [Variables.isDefined, absent]
        rfl
  apart := by
    intro d mem sub listed kept sameOffset
    obtain ⟨p, placed, reported⟩ := List.mem_filterMap.1 mem
    obtain ⟨q, placed', replaced⟩ := List.mem_filterMap.1 listed
    have atP : d.offset = p.1 := by
      obtain ⟨-, -, rfl⟩ := Option.map_eq_some_iff.1 reported
      rfl
    have atQ : sub.start = q.1 := (Lexeme.bounds_of_substitution? replaced).1
    have same : p.1 = q.1 := by rw [← atP, sameOffset, atQ]
    -- Lexemes at the same place are the same one.
    obtain rfl := eq_of_key_eq (ascending_place s.marker 0 _) placed placed' same
    rw [Lexeme.diagnostic?_eq_none replaced kept] at reported
    cases reported

theorem length_tokens :
    (lex s.marker 0 text.toList).length =
      ((substitutionsOf s.marker s.table (s.placed text)).filterMap Substitution.span?).length +
        (s.problems text).length := by
  rw [lex_eq_tokens, substitutionsOf, List.filterMap_filterMap]
  exact length_filterMap_add (fun p => p.2.length_token? p.1) _

theorem length_substitutions :
    (substitutionsOf s.marker s.table (s.placed text)).length =
      ((substitutionsOf s.marker s.table (s.placed text)).filterMap Substitution.span?).length +
        ((s.problems text).filterMap Diagnostic.dropped?).length := by
  rw [substitutionsOf, problems, diagnosticsOf, List.filterMap_filterMap, List.filterMap_filterMap]
  exact length_filterMap_add (fun p => p.2.length_substitution? p.1) _

end Substituter

/-! ### The layout of a template -/

/-- A part of the text of a template. -/
inductive Region where
  /-- Text that is copied. -/
  | literal (start stop : Nat)
  /-- An escape or a reference that is listed. -/
  | span (span : Span)
  /-- A reference that is dropped. -/
  | dropped (start stop : Nat)
deriving DecidableEq, Repr

namespace Region

def start : Region → Nat
  | literal start _ | dropped start _ => start
  | span s => s.start

def stop : Region → Nat
  | literal _ stop | dropped _ stop => stop
  | span s => s.stop

def isSpan : Region → Bool
  | span _ => true
  | literal _ _ | dropped _ _ => false

/-- Literals fill the text from `cursor` on between the regions, and behind them up to `stop`. -/
def fill (stop cursor : Nat) : List Region → List Region
  | [] => [.literal cursor stop]
  | r :: rs => .literal cursor r.start :: r :: fill stop r.stop rs

end Region

def Substitution.region (sub : Substitution ε) : Region :=
  match sub.span? with
  | some span => .span span
  | none => .dropped sub.start sub.stop

def Piece.region : Nat × Piece ε → Region
  | (offset, literal text) => .literal offset (offset + text.utf8ByteSize)
  | (_, substitution sub) => sub.region

/-- Where the parts of a template lie. -/
def Template.layout (t : Template ε) : List Region := t.placed.map Piece.region

/-- Where the parts of a template lie, from its text and what it lists.  The spans and the references that the
diagnostics quote are put in order, and the rest is literal. -/
def reconstruct (text : String) (spans : List Span) (diagnostics : List Diagnostic) : List Region :=
  Region.fill text.utf8ByteSize 0
    (List.merge (spans.map .span)
      ((diagnostics.filterMap Diagnostic.dropped?).map fun (start, stop) => .dropped start stop)
      fun r q => r.start ≤ q.start)

theorem Substitution.start_region (sub : Substitution ε) : sub.region.start = sub.start := by
  obtain ⟨start, stop, replacement⟩ := sub
  cases replacement <;> rfl

theorem Substitution.stop_region (sub : Substitution ε) : sub.region.stop = sub.stop := by
  obtain ⟨start, stop, replacement⟩ := sub
  cases replacement <;> rfl

/-- A cut lays out literals between the substitutions. -/
theorem Piece.map_region_of_cut {text : String} {cursor : Nat} {subs : List (Substitution ε)}
    {pieces : List (Piece ε)} (cut : Piece.cut text cursor subs = .ok pieces) :
    (placeFrom cursor pieces).map Piece.region =
      Region.fill text.utf8ByteSize cursor (subs.map Substitution.region) := by
  induction subs generalizing cursor pieces with
  | nil =>
    obtain ⟨tail, taken, placed⟩ := placeFrom_of_cut_nil cut
    rw [placed, List.map_singleton, Piece.region, add_size_of_slice taken]
    rfl
  | cons sub subs ih =>
    obtain ⟨before, rest, taken, later, placed⟩ := placeFrom_of_cut_cons cut
    rw [placed, List.map_cons, List.map_cons, ih later, Piece.region, add_size_of_slice taken,
      List.map_cons, Region.fill, sub.start_region, sub.stop_region]
    rfl

/-- An ascending list is the merge of its elements of a kind and the others. -/
theorem merge_filter {α : Type} {key : α → Nat} {as : List α} (ascending : as.Pairwise (key · < key ·))
    (p : α → Bool) :
    List.merge (as.filter p) (as.filter fun a => !p a) (fun a b => key a ≤ key b) = as := by
  have sorted : as.Pairwise fun a b => decide (key a ≤ key b) = true :=
    ascending.imp fun less => decide_eq_true (Nat.le_of_lt less)
  have perm : (List.merge (as.filter p) (as.filter fun a => !p a) fun a b => key a ≤ key b).Perm as :=
    (List.merge_perm_append _).trans (List.filter_append_perm p as)
  refine perm.eq_of_pairwise ?_ ?_ sorted
  · intro a b left right ab ba
    have same : key a = key b := Nat.le_antisymm (of_decide_eq_true ab) (of_decide_eq_true ba)
    exact eq_of_key_eq ascending (perm.subset left) right same
  · refine List.pairwise_merge ?_ ?_ _ _ (sorted.filter _) (sorted.filter _)
    · intro a b c ab bc
      simp only [decide_eq_true_eq] at ab bc ⊢
      omega
    · intro a b
      simp only [Bool.or_eq_true, decide_eq_true_eq]
      omega

theorem map_span_filterMap_span? (subs : List (Substitution ε)) :
    (subs.filterMap Substitution.span?).map .span = (subs.map Substitution.region).filter Region.isSpan := by
  induction subs with
  | nil => rfl
  | cons sub subs ih =>
    obtain ⟨start, stop, replacement⟩ := sub
    cases replacement with
    | omitted => exact ih
    | _ => exact congrArg (_ :: ·) ih

theorem map_dropped_filter_isOmitted (subs : List (Substitution ε)) :
    ((subs.filter (·.isOmitted)).map fun sub => (sub.start, sub.stop)).map
        (fun (start, stop) => Region.dropped start stop) =
      (subs.map Substitution.region).filter fun r => !r.isSpan := by
  induction subs with
  | nil => rfl
  | cons sub subs ih =>
    obtain ⟨start, stop, replacement⟩ := sub
    cases replacement with
    | omitted => exact congrArg (_ :: ·) ih
    | _ => exact ih

/-- The layout of a template is told by what it lists. -/
theorem Substituter.layout_template (s : Substituter ε) (text : String) :
    (s.template text).layout =
      reconstruct text (s.template text).spans (s.template text).diagnostics := by
  have ascending : ((substitutionsOf s.marker s.table (s.placed text)).map Substitution.region).Pairwise
      (·.start < ·.start) := by
    refine List.pairwise_map.2 ((separated_substitutionsOf s.marker s.table 0 _).imp_of_mem ?_)
    intro sub sub' mem _ apart
    have forward := (isPart_of_mem_substitutionsOf mem).nonempty
    rw [sub.start_region, sub'.start_region]
    omega
  have listed : (s.template text).diagnostics = s.problems text := rfl
  rw [Template.layout, Template.placed, Piece.map_region_of_cut (s.cut_placed text), reconstruct,
    Template.spans, substitutions_template, listed, ← (s.agrees_scan text).omitted,
    map_span_filterMap_span?, map_dropped_filter_isOmitted, merge_filter ascending]

/-- **Diagnostics and omitted substitutions are in step.**  Diagnostics have ascending offsets, and a marker
stands at each.  Those of undefined references go with the omitted substitutions one by one: each starts where
its diagnostic is and is as long as what is quoted, which is the text there, a reference to a name that is not
defined.  No diagnostic is where an escape or a resolved reference starts.  So what the scanner finds is
listed once, as a span or as a diagnostic, and what is looked up is listed as a span or dropped; and the
layout of a template can be told from its text, its spans and its diagnostics. -/
theorem diagnostics_agree (s : Substituter ε) (text : String) :
    ∃ tokens scanned, tokensOf text s.marker = .ok tokens ∧ s.scan text = .ok scanned ∧
      scanned.Agrees s.marker s.table text ∧
      tokens.length =
        (scanned.substitutions.filterMap Substitution.span?).length + scanned.diagnostics.length ∧
      scanned.substitutions.length = (scanned.substitutions.filterMap Substitution.span?).length +
        (scanned.diagnostics.filterMap Diagnostic.dropped?).length ∧
      ∀ t, s.parse text = .ok t → t.text = text ∧
        t.spans = scanned.substitutions.filterMap Substitution.span? ∧
        t.diagnostics = scanned.diagnostics ∧ t.layout = reconstruct t.text t.spans t.diagnostics := by
  refine ⟨_, _, tokensOf_eq_lex text s.marker, s.scan_eq text, s.agrees_scan text, s.length_tokens text,
    s.length_substitutions text, ?_⟩
  intro t parsed
  obtain ⟨-, rfl⟩ := Substituter.parse_eq_ok_iff.1 parsed
  refine ⟨rfl, ?_, rfl, s.layout_template text⟩
  rw [Template.spans, s.substitutions_template]

theorem diagnostics_agree_dropped_reference :
    let s : Substituter (Evaluator Buffer Unit) := ⟨{ lenient := true }, ⟨[("x", fun _ => Writer.put (.integer 7))]⟩⟩
    ∃ scanned t, s.scan "a@x@y@\x7b" = .ok scanned ∧ s.parse "a@x@y@\x7b" = .ok t ∧
      scanned.Agrees s.marker s.table "a@x@y@\x7b" ∧ t.spans = [⟨1, 3, some "x"⟩] ∧
      t.diagnostics.map (·.offset) = [3, 5] ∧
      reconstruct t.text t.spans t.diagnostics =
        [.literal 0 1, .span ⟨1, 3, some "x"⟩, .literal 3 3, .dropped 3 5, .literal 5 7] := by
  intro s
  have closed : ∀ l ∈ [.plain 'a', .compact 'x', .compact 'y'], Lexeme.Closed s.marker l := by decide
  have rest : lexemes s.marker [s.marker.char, openBrace] = [.strayBrace] := by
    rw [lexemes_unclosed rfl, lexemes]
  have read : s.placed "a@x@y@\x7b" =
      place s.marker 0 [.plain 'a', .compact 'x', .compact 'y', .strayBrace] := by
    have whole := lexemes_spell_append closed [s.marker.char, openBrace]
    rw [rest] at whole
    exact congrArg (place s.marker 0) whole
  have parsed := s.parse_of_lenient rfl "a@x@y@\x7b"
  obtain ⟨-, scanned, -, scannedEq, agrees, -, -, listed⟩ := diagnostics_agree s "a@x@y@\x7b"
  obtain ⟨-, -, -, layout⟩ := listed _ parsed
  refine ⟨scanned, _, scannedEq, parsed, agrees, ?_, ?_, ?_⟩
  · rw [Template.spans, s.substitutions_template, read]
    decide +kernel
  · rw [Substituter.template, Substituter.problems, read]
    decide +kernel
  · rw [← layout, Template.layout, Template.placed, Substituter.template, read]
    decide +kernel

end TextTemplate

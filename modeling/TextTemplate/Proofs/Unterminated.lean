import TextTemplate.Proofs.Accounting

/-!
Markers and braces that are left without their end.

An opening brace is left without its end only if no closing brace comes behind it.  So from the first such brace
on there is none, and all that the text can hold there are compact references, escapes, and more of such braces.
A marker is left alone only by the end of the text.  And since scanning never goes back, what stands in front of
the first of these does not depend on what comes from there on.

* `Lexeme.Precedes`: what can stand behind a lexeme that was read.
* `Substituter.scan_front`: up to the first stray, a scan is that of the text up to there.
* `scan_unterminated`: the shape of a scan with strays.
-/

namespace TextTemplate

open Text

variable {ε : Type} {marker : Marker} {table : Variables ε}

/-- The part of a scan in front of `offset`. -/
def Scan.before (offset : Nat) (scanned : Scan ε) : Scan ε where
  substitutions := scanned.substitutions.filter (·.start < offset)
  diagnostics := scanned.diagnostics.filter (·.offset < offset)

/-- All of `front` is found first. -/
structure Scan.StartsWith (scanned front : Scan ε) : Prop where
  substitutions : front.substitutions <+: scanned.substitutions
  diagnostics : front.diagnostics <+: scanned.diagnostics

/-- What a scan and its tokens say of the text behind an opening brace at `offset` that is never closed. -/
structure Scan.UnclosedFrom (marker : Marker) (text : String) (tokens : List Token) (scanned : Scan ε)
    (offset : Nat) : Prop where
  noBrace : ∀ i, offset + 2 ≤ i → charAt? text i ≠ some closeBrace
  braces : ∀ token ∈ tokens, offset < token.start → charAt? text (token.start + 1) = some openBrace →
    token.kind = .unterminatedBrace ∧ ⟨.unterminatedBrace, token.start, marker.char⟩ ∈ scanned.diagnostics
  compact : ∀ token ∈ tokens, offset < token.start → ∀ spelling name,
    token.kind = .reference spelling name → spelling = .compact
  /-- Also of the references that are dropped. -/
  replaced : ∀ sub ∈ scanned.substitutions, offset < sub.start → sub.replacement ≠ .marker →
    ∃ c, c ≠ openBrace ∧ slice text sub.start sub.stop = .ok (String.ofList [marker.char, c])

/-- The scan of the text ends with a diagnostic of its last character, and no substitution comes behind it. -/
structure Scan.EndsWith (text : String) (scanned : Scan ε) (d : Diagnostic) : Prop where
  last : scanned.diagnostics.getLast? = some d
  atEnd : d.offset + 1 = text.utf8ByteSize
  behind : ∀ sub ∈ scanned.substitutions, sub.start < d.offset

/-! ### Behind a lexeme -/

/-- What stands behind a lexeme that was read.  It is read as if it stood alone; behind a marker that is left
alone there is nothing, and behind a brace that is never closed there is no closing brace. -/
structure Lexeme.Precedes (marker : Marker) (l : Lexeme) (after : List Lexeme) : Prop where
  reads : lexemes marker (spell marker after) = after
  last : l = strayMarker → after = []
  noBrace : l = strayBrace → closeBrace ∉ spell marker after

theorem precedes_of_cons {cs : List Char} {l : Lexeme} {after : List Lexeme}
    (read : lexemes marker cs = l :: after) : l.Precedes marker after := by
  have reads (rest : List Char) :
      lexemes marker (spell marker (lexemes marker rest)) = lexemes marker rest := by
    rw [spell_lexemes]
  revert read
  fun_cases lexemes marker cs with
  | case1 => exact nofun
  | case2 c cs other =>
    rintro ⟨⟩
    exact ⟨reads cs, nofun, nofun⟩
  | case3 c same =>
    rintro ⟨⟩
    exact ⟨lexemes_nil, fun _ => rfl, nofun⟩
  | case4 c same rest name after closed =>
    rintro ⟨⟩
    exact ⟨reads after, nofun, nofun⟩
  | case5 c same rest unclosed =>
    rintro ⟨⟩
    refine ⟨reads rest, nofun, fun _ => ?_⟩
    rw [spell_lexemes]
    exact not_mem_of_splitFirst unclosed
  | case6 c same rest notBrace =>
    rintro ⟨⟩
    exact ⟨reads rest, nofun, nofun⟩
  | case7 c same d rest notBrace notMarker =>
    rintro ⟨⟩
    exact ⟨reads rest, nofun, nofun⟩

/-- Every lexeme of a text stands in front of what can stand behind it. -/
theorem precedes_of_append {cs : List Char} {before after : List Lexeme} {l : Lexeme}
    (read : lexemes marker cs = before ++ l :: after) : l.Precedes marker after := by
  induction before generalizing cs with
  | nil => exact precedes_of_cons read
  | cons k before ih => exact ih (precedes_of_cons read).reads

/-! ### Places in front and behind -/

/-- A lexeme ends where, at the latest, all of them end. -/
theorem stop_le_of_mem_place {offset : Nat} {ls : List Lexeme} {p : Nat × Lexeme}
    (mem : p ∈ place marker offset ls) :
    p.1 + p.2.size marker ≤ offset + byteLength (spell marker ls) := by
  obtain ⟨before, after, rfl, at_⟩ := exists_of_mem_place mem
  rw [spell_append, spell_cons, byteLength_append, byteLength_append, at_, Lexeme.size]
  omega

/-- What is found at places before the end of `before` is what is found in `before`. -/
theorem filter_filterMap_place {β : Type} {f : Nat × Lexeme → Option β} {key : β → Nat}
    (keyed : ∀ p b, f p = some b → key b = p.1) (before after : List Lexeme) :
    ((place marker 0 (before ++ after)).filterMap f).filter
        (key · < byteLength (spell marker before)) =
      (place marker 0 before).filterMap f := by
  have front : ∀ b ∈ (place marker 0 before).filterMap f,
      decide (key b < byteLength (spell marker before)) = true := by
    intro b mem
    obtain ⟨p, placed, found⟩ := List.mem_filterMap.1 mem
    have stops := stop_le_of_mem_place placed
    have positive : 0 < p.2.size marker := p.2.size_pos
    rw [decide_eq_true_eq, keyed p b found]
    omega
  have back : ∀ b ∈ (place marker (0 + byteLength (spell marker before)) after).filterMap f,
      ¬ decide (key b < byteLength (spell marker before)) = true := by
    intro b mem
    obtain ⟨p, placed, found⟩ := List.mem_filterMap.1 mem
    have starts := le_of_mem_place placed
    rw [decide_eq_true_eq, keyed p b found]
    omega
  rw [place_append, List.filterMap_append, List.filter_append, List.filter_eq_self.2 front,
    List.filter_eq_nil_iff.2 back, List.append_nil]

/-- A lexeme placed behind another is one of those after it. -/
theorem mem_of_mem_place_of_lt {before after : List Lexeme} {l : Lexeme} {q : Nat × Lexeme}
    (mem : q ∈ place marker 0 (before ++ l :: after)) (behind : byteLength (spell marker before) < q.1) :
    q.2 ∈ after := by
  rw [place_append, place] at mem
  rcases List.mem_append.1 mem with front | later
  · have stops := stop_le_of_mem_place front
    omega
  · rcases List.mem_cons.1 later with rfl | later
    · simp at behind
    · exact mem_of_mem_place later

/-- The characters of a lexeme are among those of all. -/
theorem mem_spell {ls : List Lexeme} {l : Lexeme} (mem : l ∈ ls) {c : Char}
    (inside : c ∈ l.spelling marker) : c ∈ spell marker ls := List.mem_flatMap.2 ⟨l, mem, inside⟩

/-- A brace behind a marker is never taken for a name. -/
theorem ne_openBrace_of_compact {cs : List Char} {c : Char} (mem : .compact c ∈ lexemes marker cs) :
    c ≠ openBrace := by
  rcases closed_or_stray_of_mem_lexemes mem with closed | stray | stray
  · cases closed
    assumption
  · cases stray
  · cases stray

/-! ### Behind a brace that is never closed -/

section Read

variable {text : String} {before after : List Lexeme} {l : Lexeme}

/-- A text in front of a lexeme and from there on. -/
theorem text_of_lexemes (read : lexemes marker text.toList = before ++ l :: after) :
    text = String.ofList (spell marker before) ++
      String.ofList (l.spelling marker ++ spell marker after) := by
  rw [← String.ofList_append, ← spell_cons, ← spell_append, ← read, spell_lexemes, String.ofList_toList]

theorem charAt?_behind_marker {before : String} {d : Char} {rest : List Char} :
    charAt? (before ++ String.ofList (marker.char :: d :: rest)) (before.utf8ByteSize + 1) = some d := by
  refine charAt?_eq_some_iff.2 ⟨before ++ String.singleton marker.char, String.ofList rest, ?_, ?_⟩
  · rw [Scanner.append_ofList_cons, Scanner.append_ofList_cons]
  · rw [String.utf8ByteSize_append, String.utf8ByteSize_singleton, Marker.size_char]

/-- Only a reference in braces, or a brace that is never closed, has an opening brace behind its marker. -/
theorem strayBrace_or_braced {q : Nat × Lexeme} (placed : q ∈ place marker 0 (lexemes marker text.toList))
    (stands : charAt? text (q.1 + 1) = some openBrace) (marked : ∀ c, q.2 ≠ .plain c) :
    q.2 = .strayBrace ∨ ∃ name, q.2 = .braced name := by
  obtain ⟨offset, l⟩ := q
  obtain ⟨before, after, read, at_⟩ := exists_of_mem_place placed
  have split := text_of_lexemes read
  obtain rfl : offset = (String.ofList (spell marker before)).utf8ByteSize := by
    rw [← byteLength]
    simpa using at_
  have second {d : Char} {rest : List Char} (spelled : l.spelling marker ++ spell marker after =
      marker.char :: d :: rest) : d = openBrace := by
    rw [spelled] at split
    have here : charAt? text _ = some d := split ▸ charAt?_behind_marker
    rw [here] at stands
    exact Option.some.inj stands
  cases l with
  | plain c => exact absurd rfl (marked c)
  | escape => exact absurd (second rfl) marker.ne_openBrace
  | compact c => exact absurd (second rfl) (ne_openBrace_of_compact (mem_of_mem_place placed))
  | braced name => exact .inr ⟨name, rfl⟩
  | strayBrace => exact .inl rfl
  | strayMarker =>
    -- Nothing stands behind a marker that is left alone.
    rw [(precedes_of_append read).last rfl] at split
    have inside := lt_size_of_charAt? stands
    rw [split, String.utf8ByteSize_append] at inside
    simp [Lexeme.spelling] at inside

/-- Behind a brace that is never closed there is no closing brace. -/
theorem noBrace_behind (read : lexemes marker text.toList = before ++ .strayBrace :: after) {i : Nat}
    (behind : byteLength (spell marker before) + 2 ≤ i) : charAt? text i ≠ some closeBrace := by
  intro stands
  have split := text_of_lexemes read
  rw [String.ofList_append, ← String.append_assoc, ← String.ofList_append] at split
  rw [split] at stands
  rcases charAt?_append stands with ⟨-, inside⟩ | ⟨later, -⟩
  · rw [← byteLength, byteLength_append, ← Lexeme.size, Lexeme.size_strayBrace] at inside
    omega
  · exact (precedes_of_append read).noBrace rfl (by simpa using mem_of_charAt? later)

/-- And so no reference in braces. -/
theorem not_braced_behind (read : lexemes marker text.toList = before ++ .strayBrace :: after)
    {q : Nat × Lexeme} (placed : q ∈ place marker 0 (lexemes marker text.toList))
    (behind : byteLength (spell marker before) < q.1) (name : String) : q.2 ≠ .braced name := by
  intro braced
  rw [read] at placed
  have mem := mem_of_mem_place_of_lt placed behind
  have inside : closeBrace ∈ q.2.spelling marker := by simp [braced, Lexeme.spelling]
  exact (precedes_of_append read).noBrace rfl (mem_spell mem inside)

end Read

/-! ### Scans -/

namespace Lexeme

theorem eq_braced_of_token? {offset : Nat} {l : Lexeme} {token : Token} {name : String}
    (reported : l.token? marker offset = some token) (refers : token.kind = .reference .braced name) :
    l = .braced name := by
  cases l with
  | plain c => cases reported
  | braced other =>
    cases reported
    cases refers
    rfl
  | compact c => cases reported; cases refers
  | escape => cases reported; cases refers
  | strayMarker => cases reported; cases refers
  | strayBrace => cases reported; cases refers

/-- What is replaced by anything but a marker is a reference. -/
theorem compact_or_braced_of_substitution? {offset : Nat} {l : Lexeme} {sub : Substitution ε}
    (replaced : l.substitution? marker table offset = some sub) (notMarker : sub.replacement ≠ .marker) :
    (∃ c, l = .compact c) ∨ ∃ name, l = .braced name := by
  cases l with
  | plain c => cases replaced
  | strayMarker => cases replaced
  | strayBrace => cases replaced
  | escape =>
    cases replaced
    exact absurd rfl notMarker
  | compact c => exact .inl ⟨c, rfl⟩
  | braced name => exact .inr ⟨name, rfl⟩

/-- A stray is reported, whatever the table. -/
theorem exists_problem_of_isStray {l : Lexeme} (stray : l.IsStray) :
    ∃ p, l.problem? marker table = some p ∧ (p = .unterminatedMarker ∨ p = .unterminatedBrace) := by
  rcases stray with rfl | rfl
  · exact ⟨_, rfl, .inl rfl⟩
  · exact ⟨_, rfl, .inr rfl⟩

end Lexeme

/-- The first lexemes of a text, if none of them is a stray, are read the same whatever comes behind them. -/
theorem lexemes_front {cs : List Char} {before after : List Lexeme}
    (read : lexemes marker cs = before ++ after) (noStray : ∀ l ∈ before, ¬ l.IsStray) (rest : List Char) :
    lexemes marker (spell marker before ++ rest) = before ++ lexemes marker rest := by
  apply lexemes_spell_append
  intro l mem
  have among : l ∈ lexemes marker cs := by
    rw [read]
    exact List.mem_append_left _ mem
  exact (closed_or_stray_of_mem_lexemes among).resolve_right (noStray l mem)

namespace Substituter

variable {s : Substituter ε} {text : String} {d : Diagnostic}

/-- The scan of the text. -/
def found (s : Substituter ε) (text : String) : Scan ε :=
  ⟨substitutionsOf s.marker s.table (s.placed text), s.problems text⟩

/-- A problem is one of a lexeme, and stands where the text in front of the lexeme ends. -/
theorem exists_of_mem_problems (mem : d ∈ s.problems text) :
    ∃ before l after, lexemes s.marker text.toList = before ++ l :: after ∧
      d.offset = byteLength (spell s.marker before) ∧ l.Faulty s.marker s.table d.problem ∧
      l.diagnostic? s.marker s.table d.offset = some d := by
  obtain ⟨p, placed, reported⟩ := List.mem_filterMap.1 mem
  obtain ⟨problem, said, rfl⟩ := Option.map_eq_some_iff.1 reported
  obtain ⟨before, after, read, at_⟩ := exists_of_mem_place placed
  exact ⟨before, p.2, after, read, by simpa using at_, Lexeme.faulty_of_problem? said, reported⟩

theorem unclosedFrom_of_mem_problems (mem : d ∈ s.problems text) (isOpen : d.problem = .unterminatedBrace) :
    (s.found text).UnclosedFrom s.marker text (lex s.marker 0 text.toList) d.offset := by
  obtain ⟨before, l, after, read, at_, faulty, -⟩ := exists_of_mem_problems mem
  rw [isOpen] at faulty
  cases faulty
  rw [at_, lex_eq_tokens]
  constructor
  case noBrace =>
    intro i behind
    exact noBrace_behind read behind
  case braces =>
    intro token listed behind stands
    obtain ⟨q, placed, reported⟩ := List.mem_filterMap.1 listed
    have startEq := (Lexeme.bounds_of_token? reported).1
    rw [startEq] at behind stands
    have marked (c : Char) : q.2 ≠ .plain c := by
      intro plain
      rw [plain] at reported
      cases reported
    rcases strayBrace_or_braced placed stands marked with brace | ⟨name, braced⟩
    · rw [brace] at reported
      cases reported
      exact ⟨rfl, List.mem_filterMap.2 ⟨q, placed, by rw [brace]; rfl⟩⟩
    · exact absurd braced (not_braced_behind read placed behind name)
  case compact =>
    intro token listed behind spelling name refers
    obtain ⟨q, placed, reported⟩ := List.mem_filterMap.1 listed
    rw [(Lexeme.bounds_of_token? reported).1] at behind
    cases spelling with
    | compact => rfl
    | braced =>
      exact absurd (Lexeme.eq_braced_of_token? reported refers) (not_braced_behind read placed behind name)
  case replaced =>
    intro sub listed behind notMarker
    obtain ⟨q, placed, replaced⟩ := List.mem_filterMap.1 listed
    obtain ⟨startEq, stopEq⟩ := Lexeme.bounds_of_substitution? replaced
    have taken := slice_of_mem_place placed
    have among := mem_of_mem_place placed
    rw [startEq] at behind
    rw [startEq, stopEq]
    rcases Lexeme.compact_or_braced_of_substitution? replaced notMarker with ⟨c, compact⟩ | ⟨name, braced⟩
    · rw [compact] at taken among ⊢
      exact ⟨c, ne_openBrace_of_compact among, taken⟩
    · exact absurd braced (not_braced_behind read placed behind name)

/-- What is found in front of a lexeme is found in the lexemes in front of it. -/
theorem before_found {before after : List Lexeme} (read : lexemes s.marker text.toList = before ++ after) :
    (s.found text).before (byteLength (spell s.marker before)) =
      ⟨substitutionsOf s.marker s.table (place s.marker 0 before),
        diagnosticsOf s.marker s.table (place s.marker 0 before)⟩ := by
  have starts (p : Nat × Lexeme) (sub : Substitution ε)
      (replaced : p.2.substitution? s.marker s.table p.1 = some sub) : sub.start = p.1 :=
    (Lexeme.bounds_of_substitution? replaced).1
  have offsets (p : Nat × Lexeme) (d : Diagnostic)
      (reported : p.2.diagnostic? s.marker s.table p.1 = some d) : d.offset = p.1 := by
    obtain ⟨-, -, rfl⟩ := Option.map_eq_some_iff.1 reported
    rfl
  simp only [Scan.before, found, problems, placed, read, substitutionsOf, diagnosticsOf,
    filter_filterMap_place starts, filter_filterMap_place offsets]

/-- Up to the first stray, the scan of a text is that of the text up to there, whatever comes from there on. -/
theorem scan_front (mem : d ∈ s.problems text) (terminated : ((s.found text).before d.offset).Terminated) :
    ∃ front, slice text 0 d.offset = .ok front ∧ s.found front = (s.found text).before d.offset ∧
      ∀ rest, (s.found (front ++ rest)).StartsWith (s.found front) := by
  obtain ⟨before, l, after, read, at_, -, -⟩ := exists_of_mem_problems mem
  rw [at_, before_found read] at terminated ⊢
  have noStray : ∀ k ∈ before, ¬ k.IsStray := by
    intro k among stray
    rw [← map_snd_place s.marker 0 before] at among
    obtain ⟨p, placed, rfl⟩ := List.mem_map.1 among
    obtain ⟨problem, said, unterminated⟩ := Lexeme.exists_problem_of_isStray stray
    have reported : p.2.diagnostic? s.marker s.table p.1 = some ⟨problem, p.1, s.marker.char⟩ := by
      rw [Lexeme.diagnostic?, said]
      rfl
    have fine := terminated _ (List.mem_filterMap.2 ⟨p, placed, reported⟩)
    exact unterminated.elim fine.1 fine.2
  have readFront (rest : String) : s.placed (String.ofList (spell s.marker before) ++ rest) =
      place s.marker 0 before ++
        place s.marker (0 + byteLength (spell s.marker before)) (lexemes s.marker rest.toList) := by
    rw [placed, String.toList_append, String.toList_ofList, lexemes_front read noStray, place_append]
  have alone : s.placed (String.ofList (spell s.marker before)) = place s.marker 0 before := by
    have whole := readFront ""
    rwa [String.append_empty, String.toList_empty, lexemes_nil, place, List.append_nil] at whole
  refine ⟨String.ofList (spell s.marker before), ?_, ?_, fun rest => ⟨?_, ?_⟩⟩
  · have split := text_of_lexemes read
    rw [← String.empty_append (s := String.ofList (spell s.marker before))] at split
    exact slice_eq_ok_iff.2 ⟨"", _, split, rfl, by rw [String.empty_append]; rfl⟩
  · rw [found, problems, alone]
  · rw [found, found, alone, readFront, substitutionsOf, substitutionsOf, List.filterMap_append]
    exact List.prefix_append ..
  · rw [found, found, problems, problems, alone, readFront, diagnosticsOf, diagnosticsOf,
      List.filterMap_append]
    exact List.prefix_append ..

/-- A marker that is left alone is the end of the text and of its scan. -/
theorem endsWith_of_mem_problems (mem : d ∈ s.problems text) (alone : d.problem = .unterminatedMarker) :
    (s.found text).EndsWith text d := by
  obtain ⟨before, l, after, read, at_, faulty, reported⟩ := exists_of_mem_problems mem
  rw [alone] at faulty
  cases faulty
  obtain rfl := (precedes_of_append read).last rfl
  have size : text.utf8ByteSize = byteLength (spell s.marker before) + 1 := by
    have whole := congrArg String.utf8ByteSize (text_of_lexemes read)
    rw [String.utf8ByteSize_append] at whole
    simpa [byteLength, Lexeme.spelling] using whole
  have placed : s.placed text = place s.marker 0 before ++ [(d.offset, .strayMarker)] := by
    rw [Substituter.placed, read, place_append, at_, Nat.zero_add]
    rfl
  constructor
  case last => simp [found, problems, placed, diagnosticsOf, reported]
  case atEnd => rw [at_, size]
  case behind =>
    intro sub listed
    rw [found, placed, substitutionsOf, List.filterMap_append] at listed
    have listed := (List.mem_append.1 listed).resolve_right List.not_mem_nil
    obtain ⟨p, front, replaced⟩ := List.mem_filterMap.1 listed
    have stops := stop_le_of_mem_place front
    have positive : 0 < p.2.size s.marker := p.2.size_pos
    rw [(Lexeme.bounds_of_substitution? replaced).1, at_]
    omega

/-- A text has one last character, so one marker at most is left alone. -/
theorem countP_unterminatedMarker_le (s : Substituter ε) (text : String) :
    (s.problems text).countP (·.problem = .unterminatedMarker) ≤ 1 := by
  have ascending := (s.ascending_problems text).filter (·.problem = .unterminatedMarker)
  have atEnd : ∀ d ∈ (s.problems text).filter (·.problem = .unterminatedMarker),
      d.offset + 1 = text.utf8ByteSize := by
    intro d mem
    obtain ⟨listed, alone⟩ := List.mem_filter.1 mem
    exact (endsWith_of_mem_problems listed (of_decide_eq_true alone)).atEnd
  rw [List.countP_eq_length_filter]
  generalize (s.problems text).filter (·.problem = .unterminatedMarker) = alone at ascending atEnd
  rcases alone with _ | ⟨d, _ | ⟨d', more⟩⟩
  · exact Nat.zero_le 1
  · exact Nat.le_refl 1
  · have apart := List.rel_of_pairwise_cons ascending List.mem_cons_self
    have first := atEnd d List.mem_cons_self
    have second := atEnd d' (List.mem_cons_of_mem _ List.mem_cons_self)
    omega

end Substituter

/-- **What is left without its end.**  An opening brace is reported only where no closing brace comes behind it.
So behind the first one that is reported, every other opening brace behind a marker is reported too, and every
reference, defined or not, is a compact one.  A lone marker is reported once at most; it is then the last
character of the text and its report the last one, and no substitution comes behind it.  And what is found in
front of the first of these problems, or of any problem before it, is what the text up to there has; and it is
found first however that text goes on. -/
theorem scan_unterminated (s : Substituter ε) (text : String) :
    ∃ tokens scanned, tokensOf text s.marker = .ok tokens ∧ s.scan text = .ok scanned ∧
      (∀ d ∈ scanned.diagnostics, d.problem = .unterminatedBrace →
        scanned.UnclosedFrom s.marker text tokens d.offset) ∧
      scanned.diagnostics.countP (·.problem = .unterminatedMarker) ≤ 1 ∧
      (∀ d ∈ scanned.diagnostics, d.problem = .unterminatedMarker → scanned.EndsWith text d) ∧
      ∀ d ∈ scanned.diagnostics, (scanned.before d.offset).Terminated →
        ∃ front, slice text 0 d.offset = .ok front ∧ s.scan front = .ok (scanned.before d.offset) ∧
          ∀ rest, ∃ whole, s.scan (front ++ rest) = .ok whole ∧
            whole.StartsWith (scanned.before d.offset) := by
  refine ⟨_, s.found text, tokensOf_eq_lex text s.marker, s.scan_eq text, ?_, ?_, ?_, ?_⟩
  · intro d mem isOpen
    exact Substituter.unclosedFrom_of_mem_problems mem isOpen
  · exact s.countP_unterminatedMarker_le text
  · intro d mem alone
    exact Substituter.endsWith_of_mem_problems mem alone
  · intro d mem terminated
    obtain ⟨front, taken, same, starts⟩ := Substituter.scan_front mem terminated
    rw [← same]
    exact ⟨front, taken, s.scan_eq front, fun rest => ⟨_, s.scan_eq (front ++ rest), starts rest⟩⟩

theorem scan_unterminated_all_kinds :
    let seven : Evaluator Buffer Unit := fun _ => Writer.put (.integer 7)
    let s : Substituter (Evaluator Buffer Unit) := ⟨{}, ⟨[("x", seven)]⟩⟩
    let brace : Diagnostic := ⟨.unterminatedBrace, 4, '@'⟩
    let alone : Diagnostic := ⟨.unterminatedMarker, 11, '@'⟩
    ∃ tokens scanned, tokensOf "é@x@\x7b@\x7ba@y@" s.marker = .ok tokens ∧
      s.scan "é@x@\x7b@\x7ba@y@" = .ok scanned ∧
      brace ∈ scanned.diagnostics ∧ scanned.UnclosedFrom s.marker "é@x@\x7b@\x7ba@y@" tokens 4 ∧
      alone ∈ scanned.diagnostics ∧ scanned.EndsWith "é@x@\x7b@\x7ba@y@" alone ∧
      (scanned.before 4).Terminated ∧ s.scan "é@x" = .ok (scanned.before 4) ∧
      ∃ whole, s.scan "é@x\x7d@x" = .ok whole ∧ whole.StartsWith (scanned.before 4) := by
  intro seven s brace alone
  have closed : ∀ l ∈ [.plain 'é', .compact 'x'], Lexeme.Closed s.marker l := by decide
  have strays : lexemes s.marker ['@', openBrace, '@', openBrace, 'a', '@', 'y', '@'] =
      [.strayBrace, .strayBrace, .plain 'a', .compact 'y', .strayMarker] := by
    rw [show '@' = s.marker.char from rfl, lexemes_unclosed rfl, lexemes_unclosed rfl, lexemes_plain (by decide),
      lexemes_compact (by decide) (by decide), lexemes_last]
  have read : lexemes s.marker "é@x@\x7b@\x7ba@y@".toList =
      [.plain 'é', .compact 'x', .strayBrace, .strayBrace, .plain 'a', .compact 'y', .strayMarker] := by
    have whole := lexemes_spell_append closed ['@', openBrace, '@', openBrace, 'a', '@', 'y', '@']
    rwa [strays] at whole
  let listed : List Diagnostic :=
    [brace, ⟨.unterminatedBrace, 6, '@'⟩, ⟨.undefinedVariable "y" "@y", 9, '@'⟩, alone]
  have problems : s.problems "é@x@\x7b@\x7ba@y@" = listed := by
    rw [Substituter.problems, Substituter.placed, read]
    rfl
  obtain ⟨tokens, scanned, lexed, scannedEq, braces, -, ends, fronts⟩ :=
    scan_unterminated s "é@x@\x7b@\x7ba@y@"
  have found : scanned.diagnostics = listed := by
    rw [s.scan_eq, problems] at scannedEq
    exact (congrArg Scan.diagnostics (Except.ok.inj scannedEq)).symm
  have first : brace ∈ scanned.diagnostics := by simp [found, listed]
  have last : alone ∈ scanned.diagnostics := by simp [found, listed]
  have terminated : (scanned.before 4).Terminated := by
    have none : (scanned.before 4).diagnostics = [] := by
      rw [Scan.before, found]
      rfl
    rw [Scan.Terminated, none]
    intro d mem
    cases mem
  obtain ⟨front, taken, same, goesOn⟩ := fronts brace first terminated
  obtain rfl : front = "é@x" := by
    have cut : slice "é@x@\x7b@\x7ba@y@" 0 4 = .ok "é@x" :=
      slice_eq_ok_iff.2 ⟨"", "@\x7b@\x7ba@y@", rfl, rfl, rfl⟩
    exact Except.ok.inj (taken.symm.trans cut)
  exact ⟨tokens, scanned, lexed, scannedEq, first, braces brace first rfl, last, ends alone last rfl,
    terminated, same, goesOn "\x7d@x"⟩

end TextTemplate

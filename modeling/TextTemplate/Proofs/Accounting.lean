import TextTemplate.Proofs.Layout
import TextTemplate.Proofs.Concatenation

/-!
What becomes of every marker of a text.

A marker belongs to one substitution, or it is a stray and is reported.  Whichever it is, it is so once: a
lexeme accounts for each of its own markers, and no other lexeme reaches there.

* `Lexeme.markerAt_of_charAt?`: where in a lexeme a marker can stand.
* `accounts_place`: substitutions and strays together account for every marker once.
* `marker_accounted_once`: so it is in every text, and the literals of a template hold strays only.
-/

namespace TextTemplate

open Text

variable {ε : Type} {marker : Marker} {table : Variables ε}

/-- Byte `i` of the text is within the substitution. -/
def Substitution.Covers (sub : Substitution ε) (i : Nat) : Prop := sub.start ≤ i ∧ i < sub.stop

instance (sub : Substitution ε) (i : Nat) : Decidable (sub.Covers i) :=
  inferInstanceAs (Decidable (_ ∧ _))

/-- The diagnostic reports a marker at `i`, or a brace behind it, that is left without its end. -/
def Diagnostic.StraysAt (d : Diagnostic) (i : Nat) : Prop :=
  d.offset = i ∧ (d.problem = .unterminatedMarker ∨ d.problem = .unterminatedBrace)

instance (d : Diagnostic) (i : Nat) : Decidable (d.StraysAt i) := inferInstanceAs (Decidable (_ ∧ _))

/-- What a marker at byte `i` of the text is to a substitution. -/
inductive Substitution.Uses (marker : Marker) (text : String) (sub : Substitution ε) : Nat → Prop where
  /-- It starts the escape or the reference. -/
  | first : Uses marker text sub sub.start
  /-- It is the one that an escape stands for. -/
  | second : sub.replacement = .marker → sub.stop = sub.start + 2 → Uses marker text sub (sub.start + 1)
  /-- It is part of a name between braces. -/
  | inName {name : String} {i : Nat} : closeBrace ∉ name.toList →
      slice text sub.start sub.stop = .ok (String.ofList ((Lexeme.braced name).spelling marker)) →
      sub.start + 2 ≤ i → i + 1 < sub.stop → Uses marker text sub i

/-! ### Markers in a lexeme -/

theorem charAt?_ofList_cons {c d : Char} {cs : List Char} {k : Nat}
    (stands : charAt? (String.ofList (c :: cs)) k = some d) :
    (k = 0 ∧ d = c) ∨ (charAt? (String.ofList cs) (k - c.utf8Size) = some d ∧ c.utf8Size ≤ k) := by
  rw [String.ofList_cons] at stands
  rcases charAt?_append stands with ⟨here, -⟩ | later
  · exact .inl (charAt?_singleton here)
  · rw [String.utf8ByteSize_singleton] at later
    exact .inr later

theorem charAt?_ofList_nil {k : Nat} {d : Char} : charAt? (String.ofList []) k ≠ some d := by
  intro stands
  obtain ⟨before, after, split, -⟩ := charAt?_eq_some_iff.1 stands
  have := congrArg String.toList split
  simp at this

namespace Lexeme

/-- The bytes of a lexeme at which a marker stands. -/
inductive MarkerAt (marker : Marker) : Lexeme → Nat → Prop where
  | first {l : Lexeme} : (∀ c, l ≠ plain c) → MarkerAt marker l 0
  | second : MarkerAt marker escape 1
  | inName {name : String} {k : Nat} : k < byteLength name.toList → MarkerAt marker (braced name) (2 + k)

theorem markerAt_of_closed {l : Lexeme} (closed : l.Closed marker) {k : Nat}
    (stands : charAt? (String.ofList (l.spelling marker)) k = some marker.char) :
    MarkerAt marker l k := by
  cases closed with
  | plain other =>
    rcases charAt?_ofList_cons stands with ⟨-, same⟩ | ⟨later, -⟩
    · exact absurd same.symm other
    · exact absurd later charAt?_ofList_nil
  | escape =>
    rcases charAt?_ofList_cons stands with ⟨rfl, -⟩ | ⟨later, past⟩
    · exact .first nofun
    · rw [Marker.size_char] at later past
      rcases charAt?_ofList_cons later with ⟨here, -⟩ | ⟨later, -⟩
      · obtain rfl : k = 1 := by omega
        exact .second
      · exact absurd later charAt?_ofList_nil
  | compact notMarker notBrace =>
    rcases charAt?_ofList_cons stands with ⟨rfl, -⟩ | ⟨later, -⟩
    · exact .first nofun
    · rcases charAt?_ofList_cons later with ⟨-, same⟩ | ⟨later, -⟩
      · exact absurd same.symm notMarker
      · exact absurd later charAt?_ofList_nil
  | @braced name absent =>
    rcases charAt?_ofList_cons stands with ⟨rfl, -⟩ | ⟨later, past⟩
    · exact .first nofun
    · rw [Marker.size_char] at later past
      rcases charAt?_ofList_cons later with ⟨-, same⟩ | ⟨later, past'⟩
      · exact absurd same marker.ne_openBrace
      · rw [utf8Size_openBrace] at later past'
        rw [String.ofList_append] at later
        rcases charAt?_append later with ⟨-, inside⟩ | ⟨later, -⟩
        · obtain ⟨k, rfl⟩ : ∃ j, k = 2 + j := ⟨k - 2, by omega⟩
          have : k < byteLength name.toList := by
            rw [byteLength]
            omega
          exact .inName this
        · rcases charAt?_ofList_cons later with ⟨-, same⟩ | ⟨later, -⟩
          · exact absurd same marker.ne_closeBrace
          · exact absurd later charAt?_ofList_nil

/-- In a lexeme that was read, a marker stands first, or second in an escape, or in a name. -/
theorem markerAt_of_charAt? {l : Lexeme} (read : l.Closed marker ∨ l.IsStray) {k : Nat}
    (stands : charAt? (String.ofList (l.spelling marker)) k = some marker.char) :
    MarkerAt marker l k := by
  rcases read with closed | rfl | rfl
  · exact markerAt_of_closed closed stands
  · rcases charAt?_ofList_cons stands with ⟨rfl, -⟩ | ⟨later, -⟩
    · exact .first nofun
    · exact absurd later charAt?_ofList_nil
  · rcases charAt?_ofList_cons stands with ⟨rfl, -⟩ | ⟨later, -⟩
    · exact .first nofun
    · rcases charAt?_ofList_cons later with ⟨-, same⟩ | ⟨later, -⟩
      · exact absurd same marker.ne_openBrace
      · exact absurd later charAt?_ofList_nil

/-- What a lexeme at `offset` accounts for at byte `i`: the substitution that covers it, and the stray that is
reported there. -/
def accounts (marker : Marker) (table : Variables ε) (offset : Nat) (l : Lexeme) (i : Nat) : Nat :=
  (l.substitution? marker table offset).toList.countP (·.Covers i) +
    (l.diagnostic? marker table offset).toList.countP (·.StraysAt i)

/-- A lexeme accounts once for each of its markers. -/
theorem accounts_of_markerAt {l : Lexeme} {k : Nat} (stands : MarkerAt marker l k)
    (inside : k < l.size marker) (offset : Nat) : l.accounts marker table offset (offset + k) = 1 := by
  obtain ⟨r, p, replaced, said, outcome⟩ := l.exists_looksUp marker table
  rw [accounts, substitution?, diagnostic?, replaced, said]
  cases outcome with
  | @plain c =>
    cases stands with
    | first notPlain => exact absurd rfl (notPlain c)
  | escape => simp [Substitution.Covers, inside]
  | defined => simp [Substitution.Covers, inside]
  | undefined => simp [Substitution.Covers, Diagnostic.StraysAt, inside]
  | strayMarker =>
    cases stands
    simp [Diagnostic.StraysAt]
  | strayBrace =>
    cases stands
    simp [Diagnostic.StraysAt]

/-- A lexeme accounts for nothing outside of it. -/
theorem accounts_of_outside {l : Lexeme} {offset i : Nat}
    (outside : i < offset ∨ offset + l.size marker ≤ i) : l.accounts marker table offset i = 0 := by
  have positive : 0 < l.size marker := l.size_pos
  rw [accounts, Nat.add_eq_zero_iff, List.countP_eq_zero, List.countP_eq_zero]
  constructor
  · intro sub mem
    obtain ⟨startEq, stopEq⟩ := bounds_of_substitution? (Option.mem_toList.1 mem)
    simp only [Substitution.Covers, startEq, stopEq, decide_eq_true_eq]
    omega
  · intro d mem
    obtain ⟨p, -, rfl⟩ := Option.map_eq_some_iff.1 (Option.mem_toList.1 mem)
    rw [decide_eq_true_eq]
    rintro ⟨at_, -⟩
    have at_ : offset = i := at_
    omega

end Lexeme

/-! ### Markers in a text -/

/-- What placed lexemes account for at byte `i`. -/
def accountsOf (marker : Marker) (table : Variables ε) (placed : List (Nat × Lexeme)) (i : Nat) : Nat :=
  (substitutionsOf marker table placed).countP (·.Covers i) +
    (diagnosticsOf marker table placed).countP (·.StraysAt i)

theorem accountsOf_place_cons (offset : Nat) (l : Lexeme) (ls : List Lexeme) (i : Nat) :
    accountsOf marker table (place marker offset (l :: ls)) i =
      l.accounts marker table offset i +
        accountsOf marker table (place marker (offset + l.size marker) ls) i := by
  simp only [accountsOf, substitutionsOf, diagnosticsOf, filterMap_place_cons, List.countP_append,
    Lexeme.accounts]
  omega

/-- Nothing is accounted for in front of the first lexeme. -/
theorem accountsOf_of_lt {offset i : Nat} (before : i < offset) (ls : List Lexeme) :
    accountsOf marker table (place marker offset ls) i = 0 := by
  induction ls generalizing offset with
  | nil => rfl
  | cons l ls ih =>
    rw [accountsOf_place_cons, Lexeme.accounts_of_outside (.inl before), ih (by omega)]

/-- Lexemes that were read account once for every marker of what they spell. -/
theorem accounts_place {ls : List Lexeme} (read : ∀ l ∈ ls, l.Closed marker ∨ l.IsStray) (offset : Nat)
    {k : Nat} (stands : charAt? (String.ofList (spell marker ls)) k = some marker.char) :
    accountsOf marker table (place marker offset ls) (offset + k) = 1 := by
  induction ls generalizing offset k with
  | nil => exact absurd stands charAt?_ofList_nil
  | cons l ls ih =>
    rw [spell_cons, String.ofList_append] at stands
    rw [accountsOf_place_cons]
    rcases charAt?_append stands with ⟨here, inside⟩ | ⟨later, past⟩
    · -- The marker is one of the first lexeme, and the others stand behind it.
      have inside : k < l.size marker := inside
      have markerAt := Lexeme.markerAt_of_charAt? (read l List.mem_cons_self) here
      rw [Lexeme.accounts_of_markerAt markerAt inside, accountsOf_of_lt (by omega)]
    · have past : l.size marker ≤ k := past
      have rest := ih (fun l mem => read l (List.mem_cons_of_mem _ mem)) (offset + l.size marker) later
      have same : offset + l.size marker + (k - l.size marker) = offset + k := by omega
      rw [Lexeme.accounts_of_outside (.inr (by omega)), Nat.zero_add]
      exact same ▸ rest

namespace Substituter

variable {s : Substituter ε} {text : String}

theorem accounts_placed {i : Nat} (stands : charAt? text i = some s.marker.char) :
    accountsOf s.marker s.table (s.placed text) i = 1 := by
  have read : ∀ l ∈ lexemes s.marker text.toList, l.Closed s.marker ∨ l.IsStray :=
    fun l mem => closed_or_stray_of_mem_lexemes mem
  have spelled : charAt? (String.ofList (spell s.marker (lexemes s.marker text.toList))) i =
      some s.marker.char := by
    rw [spell_lexemes, String.ofList_toList]
    exact stands
  have once : accountsOf s.marker s.table (s.placed text) (0 + i) = 1 := accounts_place read 0 spelled
  rwa [Nat.zero_add] at once

/-- A marker within a substitution is one that the substitution is made of. -/
theorem uses_of_covers {i : Nat} {sub : Substitution ε} (stands : charAt? text i = some s.marker.char)
    (mem : sub ∈ substitutionsOf s.marker s.table (s.placed text)) (covers : sub.Covers i) :
    sub.Uses s.marker text i := by
  obtain ⟨⟨offset, l⟩, placed, replaced⟩ := List.mem_filterMap.1 mem
  have taken := slice_of_mem_place placed
  have read := closed_or_stray_of_mem_lexemes (mem_of_mem_place placed)
  obtain ⟨r, found, rfl⟩ := Option.map_eq_some_iff.1 replaced
  obtain ⟨low, high⟩ : offset ≤ i ∧ i < offset + l.size s.marker := covers
  have markerAt := Lexeme.markerAt_of_charAt? read (charAt?_of_slice taken stands low high)
  obtain ⟨k, rfl⟩ := Nat.exists_eq_add_of_le low
  rw [Nat.add_sub_cancel_left] at markerAt
  cases markerAt with
  | first => exact .first
  | second =>
    cases found
    exact .second rfl (by rw [Lexeme.size_escape])
  | @inName name k inside =>
    have absent : closeBrace ∉ name.toList := by
      rcases read with closed | stray | stray
      · cases closed
        assumption
      · cases stray
      · cases stray
    have size : (Lexeme.braced name).size s.marker = 2 + byteLength name.toList + 1 :=
      Lexeme.size_braced name
    refine .inName absent taken ?_ ?_
    all_goals
      dsimp only
      omega

/-- A marker in a literal is a stray. -/
theorem stray_of_literal {offset k : Nat} {part : String}
    (mem : (offset, .literal part) ∈ (s.template text).placed) (stands : charAt? part k = some s.marker.char) :
    ∃ d ∈ s.problems text, d.StraysAt (offset + k) := by
  obtain ⟨taken, clear⟩ := literal_of_mem_placed mem
  have inside := lt_size_of_charAt? stands
  have once : _ + _ = 1 := s.accounts_placed (charAt?_add_of_slice taken stands)
  have uncovered : (substitutionsOf s.marker s.table (s.placed text)).countP (·.Covers (offset + k)) = 0 := by
    rw [List.countP_eq_zero]
    intro sub listed
    rw [decide_eq_true_eq]
    rintro ⟨low, high⟩
    have := clear sub listed
    omega
  rw [uncovered, Nat.zero_add] at once
  obtain ⟨d, found, strays⟩ := List.countP_pos_iff.1 (once ▸ Nat.one_pos)
  exact ⟨d, found, of_decide_eq_true strays⟩

end Substituter

/-- **Every marker is accounted for exactly once.**  It stands in one substitution, as its first character, as
the second of an escape or in a name between braces, and is reported as no stray; or it stands in none and is
reported as a stray once.  So a literal of a template, which is the text at its place, holds no markers but
the strays, and none at all if the scan has found none. -/
theorem marker_accounted_once (s : Substituter ε) (text : String) :
    ∃ scanned, s.scan text = .ok scanned ∧
      (∀ i, charAt? text i = some s.marker.char →
        (scanned.substitutions.countP (·.Covers i) = 1 ∧ scanned.diagnostics.countP (·.StraysAt i) = 0 ∨
          scanned.substitutions.countP (·.Covers i) = 0 ∧ scanned.diagnostics.countP (·.StraysAt i) = 1) ∧
        ∀ sub ∈ scanned.substitutions, sub.Covers i → sub.Uses s.marker text i) ∧
      ∀ t, s.parse text = .ok t → ∀ offset part, (offset, .literal part) ∈ t.placed →
        slice text offset (offset + part.utf8ByteSize) = .ok part ∧
        (∀ k, charAt? part k = some s.marker.char → ∃ d ∈ scanned.diagnostics, d.StraysAt (offset + k)) ∧
        (scanned.Terminated → s.marker.char ∉ part.toList) := by
  refine ⟨_, s.scan_eq text, ?_, ?_⟩
  · intro i stands
    have once : _ + _ = 1 := s.accounts_placed stands
    refine ⟨?_, ?_⟩
    · dsimp only [Substituter.problems]
      omega
    · intro sub mem covers
      exact Substituter.uses_of_covers stands mem covers
  · intro t parsed offset part mem
    obtain ⟨-, rfl⟩ := Substituter.parse_eq_ok_iff.1 parsed
    refine ⟨(Substituter.literal_of_mem_placed mem).1, ?_, ?_⟩
    · intro k stands
      exact Substituter.stray_of_literal mem stands
    · intro terminated marked
      obtain ⟨k, stands⟩ := exists_charAt?_of_mem marked
      obtain ⟨d, found, -, lone | unclosed⟩ := Substituter.stray_of_literal mem stands
      · exact (terminated d found).1 lone
      · exact (terminated d found).2 unclosed

theorem marker_accounted_once_name_and_stray :
    let s : Substituter (Evaluator Buffer Unit) := ⟨{ lenient := true }, ⟨[("@", fun _ => Writer.put (.integer 7))]⟩⟩
    ∃ scanned t, s.scan "é@\x7b@\x7d@\x7bx" = .ok scanned ∧ s.parse "é@\x7b@\x7d@\x7bx" = .ok t ∧
      (scanned.substitutions.countP (·.Covers 4) = 1 ∧ scanned.diagnostics.countP (·.StraysAt 4) = 0) ∧
      (scanned.substitutions.countP (·.Covers 6) = 0 ∧ scanned.diagnostics.countP (·.StraysAt 6) = 1) ∧
      (6, .literal "@\x7bx") ∈ t.placed ∧ ∃ d ∈ scanned.diagnostics, d.StraysAt 6 := by
  intro s
  have inName : charAt? "é@\x7b@\x7d@\x7bx" 4 = some '@' :=
    charAt?_eq_some_iff.2 ⟨"é@\x7b", "\x7d@\x7bx", rfl, rfl⟩
  have unclosed : charAt? "é@\x7b@\x7d@\x7bx" 6 = some '@' :=
    charAt?_eq_some_iff.2 ⟨"é@\x7b@\x7d", "\x7bx", rfl, rfl⟩
  have closed : ∀ l ∈ [.plain 'é', .braced "@"], Lexeme.Closed s.marker l := by decide
  have rest : lexemes s.marker [s.marker.char, openBrace, 'x'] = [.strayBrace, .plain 'x'] := by
    rw [lexemes_unclosed rfl, lexemes_plain (by decide), lexemes]
  have read : s.placed "é@\x7b@\x7d@\x7bx" =
      place s.marker 0 [.plain 'é', .braced "@", .strayBrace, .plain 'x'] := by
    have whole := lexemes_spell_append closed [s.marker.char, openBrace, 'x']
    rw [rest] at whole
    exact congrArg (place s.marker 0) whole
  have parsed := s.parse_of_lenient rfl "é@\x7b@\x7d@\x7bx"
  obtain ⟨scanned, scannedEq, once, literals⟩ := marker_accounted_once s "é@\x7b@\x7d@\x7bx"
  have literal : (6, .literal "@\x7bx") ∈ (s.template "é@\x7b@\x7d@\x7bx").placed := by
    rw [Template.placed, Substituter.template, read]
    exact .tail _ (.tail _ (.head _))
  have strays := (literals _ parsed 6 "@\x7bx" literal).2.1 0 (charAt?_eq_some_iff.2 ⟨"", "\x7bx", rfl, rfl⟩)
  have found : scanned.substitutions = substitutionsOf s.marker s.table
      (place s.marker 0 [.plain 'é', .braced "@", .strayBrace, .plain 'x']) := by
    rw [s.scan_eq, read] at scannedEq
    exact (congrArg Scan.substitutions (Except.ok.inj scannedEq)).symm
  have covers4 : scanned.substitutions.countP (·.Covers 4) = 1 := by
    rw [found]
    decide +kernel
  have covers6 : scanned.substitutions.countP (·.Covers 6) = 0 := by
    rw [found]
    decide +kernel
  have account4 := (once 4 inName).1
  have account6 := (once 6 unclosed).1
  exact ⟨scanned, _, scannedEq, parsed, by omega, by omega, literal, strays⟩

end TextTemplate

import TextTemplate.Token.Lexer

/-!
A text as a sequence of lexemes: plain characters, escapes, references and strays, without offsets.

Scanning a text only decides how it falls into lexemes; where a token, a substitution or a diagnostic
stands is then the length of what is spelled before it.  So laws about texts are laws about lists of
lexemes, and offsets are counted once, by `place`.

* `spell_lexemes`: the lexemes of a text spell it.
* `lexemes_spell_append`: closed lexemes are read back one by one, whatever follows them.  An escape or a
  reference is closed; a stray is not, because what follows could complete it.
* `lex_eq_tokens`: the tokens of a text are its lexemes that use the marker, each at its place.
-/

namespace TextTemplate

inductive Lexeme where
  /-- A character other than the marker. -/
  | plain (c : Char)
  /-- The marker twice. -/
  | escape
  /-- The marker and the one character that is the name. -/
  | compact (c : Char)
  /-- The marker and a name between braces. -/
  | braced (name : String)
  /-- The marker with nothing after it. -/
  | strayMarker
  /-- The marker and an opening brace that is never closed. -/
  | strayBrace
deriving DecidableEq, Repr

namespace Lexeme

/-- The characters of a lexeme. -/
def spelling (marker : Marker) : Lexeme → List Char
  | plain c => [c]
  | escape => [marker.char, marker.char]
  | compact c => [marker.char, c]
  | braced name => marker.char :: openBrace :: (name.toList ++ [closeBrace])
  | strayMarker => [marker.char]
  | strayBrace => [marker.char, openBrace]

/-- The length of a lexeme in bytes. -/
def size (marker : Marker) (l : Lexeme) : Nat := byteLength (l.spelling marker)

/-- A lexeme that reads as itself whatever follows it. -/
inductive Closed (marker : Marker) : Lexeme → Prop where
  | plain {c : Char} : c ≠ marker.char → Closed marker (plain c)
  | escape : Closed marker escape
  | compact {c : Char} : c ≠ marker.char → c ≠ openBrace → Closed marker (compact c)
  | braced {name : String} : closeBrace ∉ name.toList → Closed marker (braced name)

instance (marker : Marker) : DecidablePred (Closed marker) := fun
  | plain c => decidable_of_iff (c ≠ marker.char) ⟨.plain, fun | .plain other => other⟩
  | escape => .isTrue .escape
  | compact c =>
    decidable_of_iff (c ≠ marker.char ∧ c ≠ openBrace)
      ⟨fun free => .compact free.1 free.2, fun | .compact notMarker notBrace => ⟨notMarker, notBrace⟩⟩
  | braced name => decidable_of_iff (closeBrace ∉ name.toList) ⟨.braced, fun | .braced absent => absent⟩
  | strayMarker => .isFalse nofun
  | strayBrace => .isFalse nofun

/-- A marker, alone or with its brace, that starts neither an escape nor a reference. -/
def IsStray (l : Lexeme) : Prop := l = strayMarker ∨ l = strayBrace

instance : DecidablePred IsStray := fun l => inferInstanceAs (Decidable (l = _ ∨ l = _))

/-- The name that a reference asks for. -/
def name? : Lexeme → Option String
  | compact c => some (String.singleton c)
  | braced name => some name
  | _ => none

/-- What the scanner reports for a lexeme at `offset`; plain characters are not reported. -/
def token? (marker : Marker) (offset : Nat) (l : Lexeme) : Option Token :=
  match l with
  | plain _ => none
  | escape => some ⟨.escape, offset, offset + l.size marker⟩
  | compact c => some ⟨.reference .compact (String.singleton c), offset, offset + l.size marker⟩
  | braced name => some ⟨.reference .braced name, offset, offset + l.size marker⟩
  | strayMarker => some ⟨.unterminatedMarker, offset, offset + l.size marker⟩
  | strayBrace => some ⟨.unterminatedBrace, offset, offset + l.size marker⟩

end Lexeme

/-- The characters of some lexemes in a row. -/
def spell (marker : Marker) (ls : List Lexeme) : List Char := ls.flatMap (·.spelling marker)

/-- How a text falls into lexemes, read from the left. -/
def lexemes (marker : Marker) : List Char → List Lexeme
  | [] => []
  | c :: cs =>
    if c ≠ marker.char then .plain c :: lexemes marker cs
    else
      match cs with
      | [] => [.strayMarker]
      | d :: rest =>
        if d = openBrace then
          match _h : splitFirst closeBrace rest with
          | some (name, after) => .braced (String.ofList name) :: lexemes marker after
          | none => .strayBrace :: lexemes marker rest
        else if d = marker.char then .escape :: lexemes marker rest
        else .compact d :: lexemes marker rest
termination_by cs => cs.length
decreasing_by
  all_goals simp only [List.length_cons]
  · omega
  · have := congrArg List.length (eq_of_splitFirst _h).1
    simp only [List.length_append, List.length_cons] at this
    omega
  all_goals omega

/-- The lexemes with the offsets at which they stand, the first at `offset`. -/
def place (marker : Marker) : Nat → List Lexeme → List (Nat × Lexeme)
  | _, [] => []
  | offset, l :: ls => (offset, l) :: place marker (offset + l.size marker) ls

variable {marker : Marker}

/-! ### Reading one lexeme -/

@[simp] theorem lexemes_nil : lexemes marker [] = [] := by rw [lexemes]

theorem lexemes_plain {c : Char} (other : c ≠ marker.char) (cs : List Char) :
    lexemes marker (c :: cs) = .plain c :: lexemes marker cs := by
  rw [lexemes.eq_def]
  simp [other]

theorem lexemes_last : lexemes marker [marker.char] = [.strayMarker] := by
  rw [lexemes.eq_def]
  simp

theorem lexemes_escape (rest : List Char) :
    lexemes marker (marker.char :: marker.char :: rest) = .escape :: lexemes marker rest := by
  rw [lexemes.eq_def]
  simp [marker.ne_openBrace]

theorem lexemes_compact {c : Char} (notMarker : c ≠ marker.char) (notBrace : c ≠ openBrace)
    (rest : List Char) :
    lexemes marker (marker.char :: c :: rest) = .compact c :: lexemes marker rest := by
  rw [lexemes.eq_def]
  simp [notMarker, notBrace]

theorem lexemes_braced {rest name after : List Char}
    (closed : splitFirst closeBrace rest = some (name, after)) :
    lexemes marker (marker.char :: openBrace :: rest) =
      .braced (String.ofList name) :: lexemes marker after := by
  rw [lexemes.eq_def]
  simp only [ne_eq, not_true_eq_false, if_false, if_true]
  split
  · rename_i found
    rw [closed] at found
    cases found
    rfl
  · rename_i missed
    rw [closed] at missed
    cases missed

theorem lexemes_unclosed {rest : List Char} (unclosed : splitFirst closeBrace rest = none) :
    lexemes marker (marker.char :: openBrace :: rest) = .strayBrace :: lexemes marker rest := by
  rw [lexemes.eq_def]
  simp only [ne_eq, not_true_eq_false, if_false, if_true]
  split
  · rename_i found
    rw [unclosed] at found
    cases found
  · rfl

/-! ### Spelling -/

@[simp] theorem spell_nil : spell marker [] = [] := rfl

@[simp] theorem spell_cons (l : Lexeme) (ls : List Lexeme) :
    spell marker (l :: ls) = l.spelling marker ++ spell marker ls := rfl

@[simp] theorem spell_append (ls ks : List Lexeme) :
    spell marker (ls ++ ks) = spell marker ls ++ spell marker ks := List.flatMap_append

/-- Nothing of a text is lost in its lexemes. -/
theorem spell_lexemes (marker : Marker) (cs : List Char) : spell marker (lexemes marker cs) = cs := by
  fun_induction lexemes marker cs with
  | case1 => rfl
  | case2 c cs _ ih => simp [Lexeme.spelling, ih]
  | case3 c same => simp [Lexeme.spelling, Classical.not_not.1 same]
  | case4 c same rest name after closed ih =>
    have split := (eq_of_splitFirst closed).1
    simp [Lexeme.spelling, ih, Classical.not_not.1 same, split]
  | case5 c same rest unclosed ih => simp [Lexeme.spelling, ih, Classical.not_not.1 same]
  | case6 c same rest notBrace ih => simp [Lexeme.spelling, ih, Classical.not_not.1 same]
  | case7 c same d rest notBrace notMarker ih =>
    simp [Lexeme.spelling, ih, Classical.not_not.1 same]

namespace Lexeme

theorem size_plain (c : Char) : (plain c).size marker = c.utf8Size := by simp [size, spelling]

theorem size_escape : escape.size marker = 2 := by simp [size, spelling]

theorem size_compact (c : Char) : (compact c).size marker = 1 + c.utf8Size := by
  simp [size, spelling]

theorem size_braced (name : String) :
    (braced name).size marker = 2 + byteLength name.toList + 1 := by
  simp [size, spelling]
  omega

theorem size_strayMarker : strayMarker.size marker = 1 := by simp [size, spelling]

theorem size_strayBrace : strayBrace.size marker = 2 := by
  simp [size, spelling]

theorem size_pos (l : Lexeme) : 0 < l.size marker := by
  cases l with
  | plain c => simp only [size_plain, Char.utf8Size_pos]
  | compact c =>
    rw [size_compact]
    omega
  | braced name =>
    rw [size_braced]
    omega
  | escape => simp [size_escape]
  | strayMarker => simp [size_strayMarker]
  | strayBrace => simp [size_strayBrace]

end Lexeme

/-! ### Reading back -/

theorem splitFirst_append {stop : Char} {name rest : List Char} (absent : stop ∉ name) :
    splitFirst stop (name ++ stop :: rest) = some (name, rest) := by
  induction name with
  | nil => simp [splitFirst]
  | cons c name ih =>
    simp only [List.mem_cons, not_or] at absent
    rw [List.cons_append, splitFirst, if_neg (Ne.symm absent.1), ih absent.2]
    rfl

/-- Every lexeme of a text is a stray or closed. -/
theorem closed_or_stray_of_mem_lexemes {cs : List Char} {l : Lexeme} (mem : l ∈ lexemes marker cs) :
    l.Closed marker ∨ l.IsStray := by
  fun_induction lexemes marker cs with
  | case1 => cases mem
  | case2 c cs other ih =>
    rcases List.mem_cons.1 mem with rfl | later
    · exact .inl (.plain other)
    · exact ih later
  | case3 c same => exact .inr (.inl (List.mem_singleton.1 mem))
  | case4 c same rest name after closed ih =>
    rcases List.mem_cons.1 mem with rfl | later
    · exact .inl (.braced (by simpa using (eq_of_splitFirst closed).2))
    · exact ih later
  | case5 c same rest unclosed ih =>
    rcases List.mem_cons.1 mem with rfl | later
    · exact .inr (.inr rfl)
    · exact ih later
  | case6 c same rest notBrace ih =>
    rcases List.mem_cons.1 mem with rfl | later
    · exact .inl .escape
    · exact ih later
  | case7 c same d rest notBrace notMarker ih =>
    rcases List.mem_cons.1 mem with rfl | later
    · exact .inl (.compact notMarker notBrace)
    · exact ih later

/-- A closed lexeme at the front of a text is its first lexeme. -/
theorem lexemes_spelling_append {l : Lexeme} (closed : l.Closed marker) (rest : List Char) :
    lexemes marker (l.spelling marker ++ rest) = l :: lexemes marker rest := by
  cases closed with
  | plain other => exact lexemes_plain other rest
  | escape => exact lexemes_escape rest
  | compact notMarker notBrace => exact lexemes_compact notMarker notBrace rest
  | @braced name absent =>
    have whole : Lexeme.spelling marker (.braced name) ++ rest =
        marker.char :: openBrace :: (name.toList ++ closeBrace :: rest) := by
      simp [Lexeme.spelling]
    rw [whole, lexemes_braced (splitFirst_append absent), String.ofList_toList]

/-- **Closed lexemes are read back.**  No boundary between them moves, and what follows them is read as
if it stood alone. -/
theorem lexemes_spell_append {ls : List Lexeme} (closed : ∀ l ∈ ls, l.Closed marker) (rest : List Char) :
    lexemes marker (spell marker ls ++ rest) = ls ++ lexemes marker rest := by
  induction ls with
  | nil => rfl
  | cons l ls ih =>
    rw [spell_cons, List.append_assoc, lexemes_spelling_append (closed l List.mem_cons_self),
      ih fun k later => closed k (List.mem_cons_of_mem _ later)]
    rfl

theorem lexemes_spell {ls : List Lexeme} (closed : ∀ l ∈ ls, l.Closed marker) :
    lexemes marker (spell marker ls) = ls := by
  simpa using lexemes_spell_append closed []

/-- A text without strays does not change how the text after it is read. -/
theorem lexemes_append {cs : List Char} (noStray : ∀ l ∈ lexemes marker cs, ¬ l.IsStray)
    (ds : List Char) : lexemes marker (cs ++ ds) = lexemes marker cs ++ lexemes marker ds := by
  have closed : ∀ l ∈ lexemes marker cs, l.Closed marker := by
    intro l mem
    exact (closed_or_stray_of_mem_lexemes mem).resolve_right (noStray l mem)
  have whole := lexemes_spell_append closed ds
  rwa [spell_lexemes] at whole

/-! ### Places -/

theorem place_append (offset : Nat) (ls ks : List Lexeme) :
    place marker offset (ls ++ ks) =
      place marker offset ls ++ place marker (offset + byteLength (spell marker ls)) ks := by
  induction ls generalizing offset with
  | nil => rfl
  | cons l ls ih =>
    simp only [List.cons_append, place, ih, spell_cons, byteLength_append, Lexeme.size, Nat.add_assoc]

/-- Later lexemes stand later by as much as the first does. -/
theorem place_add (shift offset : Nat) (ls : List Lexeme) :
    place marker (shift + offset) ls = (place marker offset ls).map fun p => (shift + p.1, p.2) := by
  induction ls generalizing offset with
  | nil => rfl
  | cons l ls ih => rw [place, place, List.map_cons, ← ih, Nat.add_assoc]

theorem map_snd_place (marker : Marker) (offset : Nat) (ls : List Lexeme) :
    (place marker offset ls).map Prod.snd = ls := by
  induction ls generalizing offset with
  | nil => rfl
  | cons l ls ih => rw [place, List.map_cons, ih]

theorem mem_of_mem_place {offset : Nat} {ls : List Lexeme} {p : Nat × Lexeme}
    (mem : p ∈ place marker offset ls) : p.2 ∈ ls := by
  have := List.mem_map_of_mem (f := Prod.snd) mem
  rwa [map_snd_place] at this

theorem le_of_mem_place {offset : Nat} {ls : List Lexeme} {p : Nat × Lexeme}
    (mem : p ∈ place marker offset ls) : offset ≤ p.1 := by
  induction ls generalizing offset with
  | nil => cases mem
  | cons l ls ih =>
    rcases List.mem_cons.1 mem with rfl | later
    · exact Nat.le_refl _
    · exact Nat.le_trans (Nat.le_add_right ..) (ih later)

/-- Every lexeme ends before the ones after it start. -/
theorem separated_place (marker : Marker) (offset : Nat) (ls : List Lexeme) :
    (place marker offset ls).Pairwise fun p q => p.1 + p.2.size marker ≤ q.1 := by
  induction ls generalizing offset with
  | nil => exact .nil
  | cons l ls ih =>
    refine List.pairwise_cons.2 ⟨?_, ih _⟩
    intro p later
    exact le_of_mem_place later

/-- No two lexemes stand at the same place, and they are placed in order. -/
theorem ascending_place (marker : Marker) (offset : Nat) (ls : List Lexeme) :
    (place marker offset ls).Pairwise (·.1 < ·.1) := by
  refine (separated_place marker offset ls).imp ?_
  intro p q apart
  have positive : 0 < p.2.size marker := p.2.size_pos
  omega

/-- A lexeme stands behind what is spelled before it. -/
theorem exists_of_mem_place {offset : Nat} {ls : List Lexeme} {p : Nat × Lexeme}
    (mem : p ∈ place marker offset ls) :
    ∃ before after, ls = before ++ p.2 :: after ∧ p.1 = offset + byteLength (spell marker before) := by
  induction ls generalizing offset with
  | nil => cases mem
  | cons l ls ih =>
    rcases List.mem_cons.1 mem with rfl | later
    · exact ⟨[], ls, rfl, rfl⟩
    · obtain ⟨before, after, rfl, at_⟩ := ih later
      refine ⟨l :: before, after, rfl, ?_⟩
      rw [at_, spell_cons, byteLength_append, Lexeme.size, Nat.add_assoc]

/-- A lexeme of a text stands in the text where it is placed. -/
theorem slice_of_mem_place {text : String} {p : Nat × Lexeme}
    (mem : p ∈ place marker 0 (lexemes marker text.toList)) :
    Text.slice text p.1 (p.1 + p.2.size marker) = .ok (String.ofList (p.2.spelling marker)) := by
  obtain ⟨before, after, read, at_⟩ := exists_of_mem_place mem
  have spelled := spell_lexemes marker text.toList
  rw [read, spell_append, spell_cons] at spelled
  refine Text.slice_eq_ok_iff.2
    ⟨String.ofList (spell marker before), String.ofList (spell marker after), ?_, ?_, ?_⟩
  · rw [← String.ofList_append, ← String.ofList_append, List.append_assoc, spelled, String.ofList_toList]
  · rw [at_, Nat.zero_add, byteLength]
  · rw [String.utf8ByteSize_append, at_, Nat.zero_add]
    rfl

/-- The first character of a lexeme stands where the lexeme is placed. -/
theorem charAt?_of_mem_place {text : String} {p : Nat × Lexeme} {c : Char} {rest : List Char}
    (mem : p ∈ place marker 0 (lexemes marker text.toList)) (spelled : p.2.spelling marker = c :: rest) :
    Text.charAt? text p.1 = some c := by
  have first : Text.charAt? (String.ofList (p.2.spelling marker)) 0 = some c :=
    Text.charAt?_eq_some_iff.2 ⟨"", String.ofList rest, by rw [spelled, String.ofList_cons]; rfl, rfl⟩
  exact Text.charAt?_add_of_slice (slice_of_mem_place mem) first

theorem filterMap_place_cons {β : Type} (f : Nat × Lexeme → Option β) (offset : Nat) (l : Lexeme)
    (ls : List Lexeme) :
    (place marker offset (l :: ls)).filterMap f =
      (f (offset, l)).toList ++ (place marker (offset + l.size marker) ls).filterMap f := by
  rw [place, List.filterMap_cons]
  cases f (offset, l) <;> rfl

/-- The tokens of a text are those of its lexemes, where these stand. -/
theorem lex_eq_tokens (offset : Nat) (cs : List Char) :
    lex marker offset cs =
      (place marker offset (lexemes marker cs)).filterMap fun p => p.2.token? marker p.1 := by
  fun_induction lex marker offset cs with
  | case1 offset =>
    rw [lexemes_nil]
    rfl
  | case2 offset c cs other ih =>
    rw [lexemes_plain other, filterMap_place_cons, Lexeme.size_plain, ih]
    rfl
  | case3 offset c same =>
    obtain rfl := Classical.not_not.1 same
    rw [lexemes_last, filterMap_place_cons]
    simp only [Lexeme.token?, Lexeme.size_strayMarker]
    rfl
  | case4 offset c same rest name after closed stop ih =>
    obtain rfl := Classical.not_not.1 same
    have length : (Lexeme.braced (String.ofList name)).size marker = 2 + byteLength name + 1 := by
      rw [Lexeme.size_braced, String.toList_ofList]
    rw [lexemes_braced closed, filterMap_place_cons]
    simp only [Lexeme.token?, length, ← Nat.add_assoc]
    rw [ih]
    rfl
  | case5 offset c same rest unclosed ih =>
    obtain rfl := Classical.not_not.1 same
    rw [lexemes_unclosed unclosed, filterMap_place_cons]
    simp only [Lexeme.token?, Lexeme.size_strayBrace]
    rw [ih]
    rfl
  | case6 offset c same rest notBrace ih =>
    obtain rfl := Classical.not_not.1 same
    rw [lexemes_escape, filterMap_place_cons]
    simp only [Lexeme.token?, Lexeme.size_escape]
    rw [ih]
    rfl
  | case7 offset c same d rest notBrace notMarker stop ih =>
    obtain rfl := Classical.not_not.1 same
    rw [lexemes_compact notMarker notBrace, filterMap_place_cons]
    simp only [Lexeme.token?, Lexeme.size_compact, ← Nat.add_assoc]
    rw [ih]
    rfl

end TextTemplate

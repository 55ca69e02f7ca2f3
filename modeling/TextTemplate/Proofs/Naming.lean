import TextTemplate.Proofs.Printing
import TextTemplate.Proofs.Interference
import TextTemplate.Proofs.Leniency

/-!
Names that texts can refer to.

Any text may be defined as a name, but a reference has only two forms.  Between braces a name ends at the first
closing brace, and without braces it is a single character.  So no reference has a name with a closing brace in
it, except the one whose name is that brace alone.

* `name_of_mem_lexemes`: the names that a text can ask for.
* `Substituter.name_of_refersTo`: so no template refers to any other name.
* `Template.refersTo_of_mem_calls`: only variables that a template refers to are ever run.
* `exists_refersTo_iff`: the defined names that some text refers to.
-/

namespace TextTemplate

variable {ε : Type} {marker : Marker} {table : Variables ε}

/-- **What a text can ask for.** -/
theorem name_of_mem_lexemes {cs : List Char} {l : Lexeme} {name : String} (mem : l ∈ lexemes marker cs)
    (asks : l.name? = some name) : closeBrace ∉ name.toList ∨ name = String.singleton closeBrace := by
  rcases closed_or_stray_of_mem_lexemes mem with closed | rfl | rfl
  · cases closed with
    | plain other => cases asks
    | escape => cases asks
    | @compact c notMarker notBrace =>
      cases asks
      by_cases same : c = closeBrace
      · exact .inr (congrArg String.singleton same)
      · exact .inl (by simpa [eq_comm] using same)
    | braced absent =>
      cases asks
      exact .inl absent
  · cases asks
  · cases asks

/-! ### Texts that are one reference -/

theorem Lexeme.replacement?_of_name? {l : Lexeme} {name : String} (asks : l.name? = some name) :
    l.replacement? table = some (table.resolve name) := by
  cases l with
  | compact c =>
    cases asks
    rfl
  | braced other =>
    cases asks
    rfl
  | plain c => cases asks
  | escape => cases asks
  | strayMarker => cases asks
  | strayBrace => cases asks

namespace Substituter

variable {s : Substituter ε} {name : String}

theorem derives_braced (absent : closeBrace ∉ name.toList) (defined : s.isDefined name = true) :
    s.Derives [.braced name] ((Part.reference name).print s.marker) where
  accepted l mem := by
    obtain rfl := List.mem_singleton.1 mem
    exact .braced absent defined
  spelled := by
    have spelled : spell s.marker [.braced name] = ((Part.reference name).print s.marker).toList :=
      (Part.reference name).spell_lexemes
    rw [spelled, String.ofList_toList]

/-- The one name with a closing brace has a compact reference. -/
theorem derives_closeBrace (defined : s.isDefined (String.singleton closeBrace) = true) :
    s.Derives [.compact closeBrace] (s.marker.text ++ String.singleton closeBrace) where
  accepted l mem := by
    obtain rfl := List.mem_singleton.1 mem
    exact .compact s.marker.ne_closeBrace.symm (by decide) defined
  spelled := by
    apply String.toList_inj.1
    simp [spell, Lexeme.spelling, Marker.text]

/-- A text that is one reference is replaced as a whole. -/
theorem Derives.substitutions_eq {text : String} {l : Lexeme} {eval : ε} (derives : s.Derives [l] text)
    (asks : l.name? = some name) (found : s.table.find? name = some eval) :
    (s.template text).substitutions = [⟨0, text.utf8ByteSize, .reference name eval⟩] := by
  have size : l.size s.marker = text.utf8ByteSize := by
    rw [derives.spelled, spell_cons, spell_nil, List.append_nil, Lexeme.size, byteLength]
  have resolved : s.table.resolve name = .reference name eval := by rw [Variables.resolve, found]
  rw [substitutions_template, placed, derives.lexemes_eq, substitutionsOf, place, place, List.filterMap_cons,
    Lexeme.substitution?, Lexeme.replacement?_of_name? asks, resolved, size, Nat.zero_add]
  rfl

theorem Derives.refersTo {text : String} {l : Lexeme} (derives : s.Derives [l] text)
    (asks : l.name? = some name) (defined : s.isDefined name = true) : (s.template text).refersTo name = true := by
  apply refersTo_of_mem ?_ asks defined
  rw [derives.lexemes_eq]
  exact List.mem_singleton_self l

/-- **What a template can refer to.** -/
theorem name_of_refersTo {text : String} (refers : (s.template text).refersTo name = true) :
    closeBrace ∉ name.toList ∨ name = String.singleton closeBrace := by
  rw [Template.refersTo_iff, names_template] at refers
  obtain ⟨l, mem, asks⟩ := List.mem_filterMap.1 refers
  exact name_of_mem_lexemes mem (Option.filter_eq_some_iff.1 asks).1

end Substituter

/-! ### Variables that are run -/

variable {σ γ : Type} [Sink σ]

theorem Piece.reference_of_mem_calls {ctx : γ} {pieces : List (Piece (Evaluator σ γ))} {out : Output σ} {call : Call σ}
    (mem : call ∈ calls marker ctx out pieces) :
    ∃ sub ∈ pieces.filterMap Piece.substitution?, ∃ eval, sub.replacement = .reference call.name eval := by
  induction pieces generalizing out with
  | nil => cases mem
  | cons piece pieces ih =>
    rw [calls] at mem
    rcases List.mem_append.1 mem with here | later
    · have made := Option.mem_toList.1 here
      cases piece with
      | literal text => cases made
      | substitution sub =>
        refine ⟨sub, List.mem_filterMap.2 ⟨_, List.mem_cons_self, rfl⟩, ?_⟩
        obtain ⟨start, stop, replacement⟩ := sub
        cases replacement with
        | marker => cases made
        | omitted => cases made
        | reference name eval =>
          cases made
          exact ⟨eval, rfl⟩
    · split at later
      · obtain ⟨sub, listed, refers⟩ := ih later
        obtain ⟨other, among, same⟩ := List.mem_filterMap.1 listed
        exact ⟨sub, List.mem_filterMap.2 ⟨other, List.mem_cons_of_mem _ among, same⟩, refers⟩
      · cases later

/-- **Only variables that a template refers to are run.** -/
theorem Template.refersTo_of_mem_calls {t : Template (Evaluator σ γ)} {ctx : γ} {out : Output σ} {call : Call σ}
    (mem : call ∈ t.calls ctx out) : t.refersTo call.name = true :=
  (t.refersTo_iff_reference call.name).2 (Piece.reference_of_mem_calls (t.calls_eq ctx out ▸ mem))

/-- **The names that texts can refer to.**  Let a name be defined.  Some accepted text refers to it if and only if
it has no closing brace in it or is the closing brace alone.  Any name without one has a reference of its own in
braces, and a strict substituter accepts that as a text, and replaces it as a whole by the variable.  To any other
name no text refers, and no expansion runs its variable. -/
theorem exists_refersTo_iff {s : Substituter (Evaluator σ γ)} {name : String} (defined : s.isDefined name = true) :
    ((∃ text t, s.parse text = .ok t ∧ t.refersTo name = true) ↔
      closeBrace ∉ name.toList ∨ name = String.singleton closeBrace) ∧
    (closeBrace ∉ name.toList →
      let text := (Part.reference name).print s.marker
      ∃ t eval, s.table.find? name = some eval ∧ (s.withLeniency false).parse text = .ok t ∧
        t.substitutions = [⟨0, text.utf8ByteSize, .reference name eval⟩] ∧
        t.spans = [⟨0, text.utf8ByteSize, some name⟩]) ∧
    (closeBrace ∈ name.toList → name ≠ String.singleton closeBrace → ∀ text,
      (∀ t, s.parse text = .ok t → t.refersTo name = false ∧
        ∀ ctx out, ∀ call ∈ t.calls ctx out, call.name ≠ name) ∧
      ∀ ctx out, ∀ call ∈ s.calls text ctx out, call.name ≠ name) := by
  have askable {text : String} {t : Template (Evaluator σ γ)} (parsed : s.parse text = .ok t)
      (refers : t.refersTo name = true) :
      closeBrace ∉ name.toList ∨ name = String.singleton closeBrace := by
    obtain ⟨-, rfl⟩ := Substituter.parse_eq_ok_iff.1 parsed
    exact Substituter.name_of_refersTo refers
  refine ⟨⟨?_, ?_⟩, ?_, ?_⟩
  · rintro ⟨text, t, parsed, refers⟩
    exact askable parsed refers
  · rintro (absent | rfl)
    · have derives := Substituter.derives_braced absent defined
      exact ⟨_, _, Substituter.parse_of_clean derives.problems_eq_nil, derives.refersTo rfl defined⟩
    · have derives := Substituter.derives_closeBrace defined
      exact ⟨_, _, Substituter.parse_of_clean derives.problems_eq_nil, derives.refersTo rfl defined⟩
  · intro absent text
    obtain ⟨eval, found⟩ := Option.isSome_iff_exists.1 defined
    have derives := Substituter.derives_braced absent defined
    have replaced := derives.substitutions_eq rfl found
    refine ⟨_, eval, found, (s.parse_strict_eq _).trans (if_pos derives.problems_eq_nil), replaced, ?_⟩
    rw [Template.spans, replaced]
    rfl
  · intro present other text
    have silent {t : Template (Evaluator σ γ)} (parsed : s.parse text = .ok t) : t.refersTo name = false := by
      rw [Bool.eq_false_iff]
      intro refers
      rcases askable parsed refers with absent | alone
      · exact absent present
      · exact other alone
    have uncalled {t : Template (Evaluator σ γ)} (parsed : s.parse text = .ok t) (ctx : γ) (out : Output σ) :
        ∀ call ∈ t.calls ctx out, call.name ≠ name := by
      rintro call mem rfl
      exact Bool.eq_false_iff.1 (silent parsed) (Template.refersTo_of_mem_calls mem)
    refine ⟨fun t parsed => ⟨silent parsed, uncalled parsed⟩, fun ctx out => ?_⟩
    cases parsed : s.parse text with
    | error e =>
      rw [Substituter.calls_of_refused parsed]
      exact List.forall_mem_nil _
    | ok t =>
      rw [Substituter.calls_of_parsed parsed]
      exact uncalled parsed ctx out

theorem exists_refersTo_iff_three_names :
    let seven : Evaluator Buffer Unit := fun _ => Writer.put (.integer 7)
    let s : Substituter (Evaluator Buffer Unit) := ⟨{}, ⟨[("", seven), ("a\x7d", seven), ("\x7d", seven)]⟩⟩
    (s.isDefined "" = true ∧ closeBrace ∉ "".toList ∧
      ∃ t, (s.withLeniency false).parse "@\x7b\x7d" = .ok t ∧ t.spans = [⟨0, 3, some ""⟩]) ∧
    (s.isDefined "\x7d" = true ∧ ∃ text t, s.parse text = .ok t ∧ t.refersTo "\x7d" = true) ∧
    (s.isDefined "a\x7d" = true ∧ closeBrace ∈ "a\x7d".toList ∧ "a\x7d" ≠ String.singleton closeBrace ∧
      ∀ text t, s.parse text = .ok t → t.refersTo "a\x7d" = false) := by
  intro seven s
  have defined : s.isDefined "" = true ∧ s.isDefined "\x7d" = true ∧ s.isDefined "a\x7d" = true := by decide
  have absent : closeBrace ∉ "".toList := by decide
  have present : closeBrace ∈ "a\x7d".toList := by decide
  have other : "a\x7d" ≠ String.singleton closeBrace := by decide
  obtain ⟨t, -, -, parsed, -, spans⟩ := (exists_refersTo_iff defined.1).2.1 absent
  refine ⟨⟨defined.1, absent, t, parsed, spans⟩, ⟨defined.2.1, (exists_refersTo_iff defined.2.1).1.2 (.inr rfl)⟩,
    defined.2.2, present, other, fun text t taken => ?_⟩
  exact (((exists_refersTo_iff defined.2.2).2.2 present other text).1 t taken).1

end TextTemplate

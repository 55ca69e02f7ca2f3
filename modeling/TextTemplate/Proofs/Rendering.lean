import TextTemplate.Proofs.Emission

/-!
What a template means, said of the characters of its text alone.

`render` walks the characters from left to right.  It knows no tokens, no spans and no offsets, and it
asks one thing of the variables: what a name puts out.

* `render_eq_concat`: walking the characters puts out what the lexemes put out.
* `expand_lenient_eq_render`: parsing leniently and expanding into a growing buffer is rendering.
-/

namespace TextTemplate

/-- Renders the characters of a text.  The first closing brace ends a name in braces, whatever stands before
it; without one the marker and its brace stay as they are. -/
def render (marker : Marker) (emit : String → Emission) : List Char → Emission
  | [] => .nothing
  | c :: cs =>
    if c ≠ marker.char then (Emission.ofString (String.singleton c)).andThen (render marker emit cs)
    else
      match cs with
      | [] => .ofString marker.text
      | d :: rest =>
        if d = marker.char then (Emission.ofString marker.text).andThen (render marker emit rest)
        else if d = openBrace then
          match _h : rest.dropWhile (· ≠ closeBrace) with
          | _ :: after =>
            (emit (String.ofList (rest.takeWhile (· ≠ closeBrace)))).andThen (render marker emit after)
          | [] => (Emission.ofString (String.ofList [marker.char, openBrace])).andThen (render marker emit rest)
        else (emit (String.singleton d)).andThen (render marker emit rest)
termination_by cs => cs.length
decreasing_by
  all_goals simp only [List.length_cons]
  · omega
  · omega
  · have := (List.dropWhile_sublist (· ≠ closeBrace) (l := rest)).length_le
    rw [_h, List.length_cons] at this
    omega
  all_goals omega

variable {γ : Type} {marker : Marker} {table : Variables (Evaluator Buffer γ)}

/-- The part before the first `stop` is what stands before any `stop`. -/
theorem splitFirst_eq (stop : Char) (cs : List Char) :
    splitFirst stop cs =
      match cs.dropWhile (· ≠ stop) with
      | _ :: after => some (cs.takeWhile (· ≠ stop), after)
      | [] => none := by
  induction cs with
  | nil => rfl
  | cons c cs ih =>
    by_cases same : c = stop
    · simp [splitFirst, same]
    · rw [splitFirst, if_neg same, ih, List.dropWhile_cons_of_pos (by simpa using same),
        List.takeWhile_cons_of_pos (by simpa using same)]
      cases cs.dropWhile (· ≠ stop) <;> rfl

/-- **Walking the characters puts out what the lexemes put out.** -/
theorem render_eq_concat (ctx : γ) (format : Format) (cs : List Char) :
    render marker (table.emission ctx format) cs =
      Emission.concat ((lexemes marker cs).map (·.emission marker table ctx format)) := by
  fun_induction render marker (table.emission ctx format) cs with
  | case1 =>
    rw [lexemes_nil]
    rfl
  | case2 c cs other ih =>
    rw [lexemes_plain other, ih, String.singleton_eq_ofList]
    rfl
  | case3 c same =>
    obtain rfl := Classical.not_not.1 same
    rw [lexemes_last]
    exact (Emission.andThen_nothing _).symm
  | case4 c same rest ih =>
    obtain rfl := Classical.not_not.1 same
    rw [lexemes_escape, ih]
    rfl
  | case5 c same rest brace after ended notMarker ih =>
    obtain rfl := Classical.not_not.1 same
    rw [lexemes_braced (by rw [splitFirst_eq, ended]), ih]
    rfl
  | case6 c same rest ended notMarker ih =>
    obtain rfl := Classical.not_not.1 same
    rw [lexemes_unclosed (by rw [splitFirst_eq, ended]), ih]
    rfl
  | case7 c same d rest notMarker notBrace ih =>
    obtain rfl := Classical.not_not.1 same
    rw [lexemes_compact notMarker notBrace, ih]
    rfl

/-- **The meaning of a template.**  No binding looks at the buffer it writes to.  And where no variable of a
lenient substituter does, parsing any text and expanding it into a growing buffer appends what rendering the
characters of the text puts out, comes to the same result, and leaves the format as it was.  A name puts
out what its variable writes from the format that the expansion started with, and nothing if it is
undefined; the first failure ends both. -/
theorem expand_lenient_eq_render :
    (∀ (shape : Shape) (binding : Binding) (eval : Evaluator Buffer Context) (ctx : Context),
      binding.evaluator? shape = some eval → (eval ctx).Appends) ∧
    ∀ (γ : Type) (s : Substituter (Evaluator Buffer γ)) (text : String), s.lenient = true → s.table.Appends →
      ∃ t, s.parse text = .ok t ∧ ∀ (ctx : γ) (format : Format) (content : ByteArray),
        t.expand ctx ⟨.growing content, format⟩ =
          ((render s.marker (s.table.emission ctx format) text.toList).result,
            ⟨.growing (content ++ (render s.marker (s.table.emission ctx format) text.toList).bytes),
              format⟩) := by
  refine ⟨fun _ _ _ ctx defined => Binding.appends_of_evaluator? defined ctx, ?_⟩
  intro γ s text lenient blind
  refine ⟨s.template text, s.parse_of_lenient lenient text, ?_⟩
  intro ctx format content
  rw [s.expand_template, render_eq_concat]
  exact emits_writeLexemes blind ctx format _ content

theorem expand_lenient_strays :
    let s : Substituter (Evaluator Buffer Context) :=
      ⟨{ lenient := true }, ⟨[("x", fun _ => Writer.put (.integer 7))]⟩⟩
    s.lenient = true ∧ s.table.Appends ∧ ∃ t, s.parse "a@x@@@\x7by\x7d@\x7b" = .ok t ∧
      ∀ ctx, t.expand ctx ⟨.growing ByteArray.empty, {}⟩ = (.ok (), ⟨.growing "a7@@\x7b".toUTF8, {}⟩) := by
  intro s
  have blind : s.table.Appends := by
    apply Variables.appends_of_entries
    intro entry mem ctx
    obtain rfl := List.mem_singleton.1 mem
    exact expand_lenient_eq_render.1 ⟨[]⟩ (.value (.integer 7)) _ ctx rfl
  obtain ⟨t, parsed, expanded⟩ := expand_lenient_eq_render.2 Context s "a@x@@@\x7by\x7d@\x7b" rfl blind
  have read : lexemes s.marker "a@x@@@\x7by\x7d@\x7b".toList =
      [.plain 'a', .compact 'x', .escape, .braced "y", .strayBrace] := by
    have closed : ∀ l ∈ [.plain 'a', .compact 'x', .escape, .braced "y"], Lexeme.Closed s.marker l := by
      decide
    have rest : lexemes s.marker [s.marker.char, openBrace] = [.strayBrace] := by
      rw [lexemes_unclosed rfl, lexemes_nil]
    have whole := lexemes_spell_append closed [s.marker.char, openBrace]
    rwa [rest] at whole
  refine ⟨rfl, blind, t, parsed, fun ctx => ?_⟩
  have seven : s.table.emission ctx {} (String.singleton 'x') = .ofString "7" :=
    Writer.emission_put (.integer 7) {}
  have nothing : s.table.emission ctx {} "y" = .nothing := rfl
  rw [expanded, render_eq_concat, read]
  simp only [List.map_cons, List.map_nil, Lexeme.emission, nothing, seven]
  rfl

end TextTemplate

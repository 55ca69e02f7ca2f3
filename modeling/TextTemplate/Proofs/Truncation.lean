import TextTemplate.Proofs.Emission

/-!
Expansions into a buffer that runs out.

* `Template.streams_expand`: a template offers bytes of its own if all of its variables do.
* `expand_limited`: a buffer with a budget keeps as much of an expansion as the budget allows.
-/

namespace TextTemplate

/-! ### Templates -/

/-- The variables of the template are bindings of the given kind. -/
def Template.MadeOf (t : Template (Evaluator Buffer Context)) (shape : Shape) (kind : Binding → Bool) : Prop :=
  ∀ s ∈ t.substitutions, ∀ name eval, s.replacement = .reference name eval →
    ∃ binding, kind binding = true ∧ binding.evaluator? shape = some eval

theorem Variables.mem_of_find? {ε : Type} {table : Variables ε} {name : String} {eval : ε}
    (found : table.find? name = some eval) : (name, eval) ∈ table.entries := by
  obtain ⟨before, after, entries, -⟩ := List.lookup_eq_some_iff.1 found
  simp [entries]

/-- The variables of a parsed template are those of the table. -/
theorem Substituter.madeOf_template {s : Substituter (Evaluator Buffer Context)} {shape : Shape} {kind : Binding → Bool}
    (made : ∀ entry ∈ s.table.entries,
      ∃ binding : Binding, kind binding = true ∧ binding.evaluator? shape = some entry.2)
    (text : String) : (s.template text).MadeOf shape kind :=
  fun _ mem _ _ refers => made _ (Variables.mem_of_find? (find?_of_reference mem refers))

theorem Template.streams_expand {t : Template (Evaluator Buffer Context)} {shape : Shape}
    (whole : t.MadeOf shape Binding.writesWhole) (ctx : Context) : (t.expand ctx).Streams := by
  refine Writer.streams_all fun w mem => ?_
  obtain ⟨piece, listed, rfl⟩ := List.mem_map.1 mem
  cases piece with
  | literal text => exact Writer.streams_text text
  | substitution s =>
    have counted : s ∈ t.substitutions := List.mem_filterMap.2 ⟨_, listed, rfl⟩
    obtain ⟨start, stop, replacement⟩ := s
    cases replacement with
    | marker => exact Writer.streams_text _
    | omitted => exact Writer.streams_pure ()
    | reference name eval =>
      obtain ⟨binding, fine, defined⟩ := whole _ counted name eval rfl
      exact (binding.streams_of_evaluator? fine defined ctx).isolated

/-- **A buffer that runs out keeps an exact prefix.**  Let an expansion into an empty buffer that grows put out
`bytes` and come to `result`.  Into a buffer with a budget it puts out as many of these bytes as the budget
allows.  It fails for the lack of room if that is not all of them, and comes to the same result if it is, so
a budget of exactly their number is enough.  The format is left as it was in every case. -/
theorem expand_limited {t : Template (Evaluator Buffer Context)} {shape : Shape}
    (whole : t.MadeOf shape Binding.writesWhole) (ctx : Context) (format : Format) :
    ∃ result bytes,
      t.expand ctx ⟨.growing ByteArray.empty, format⟩ = (result, ⟨.growing bytes, format⟩) ∧
      (∀ budget, t.expand ctx ⟨.limited budget, format⟩ =
        (if bytes.size ≤ budget then result else .error .budgetExhausted,
          ⟨⟨bytes.extract 0 (min budget bytes.size), some budget⟩, format⟩)) ∧
      t.expand ctx ⟨.limited bytes.size, format⟩ = (result, ⟨⟨bytes, some bytes.size⟩, format⟩) := by
  obtain ⟨result, bytes, final, offers⟩ := t.streams_expand whole ctx format
  have grown := offers.emits ByteArray.empty
  rw [ByteArray.empty_append] at grown
  obtain rfl : final = format := by
    have kept := t.expand_format ctx ⟨.growing ByteArray.empty, format⟩
    rwa [grown] at kept
  have bounded (budget : Nat) : t.expand ctx ⟨.limited budget, final⟩ =
      (if bytes.size ≤ budget then result else .error .budgetExhausted,
        ⟨⟨bytes.extract 0 (min budget bytes.size), some budget⟩, final⟩) := by
    by_cases fit : bytes.size ≤ budget
    · rw [offers.fits _ (by rw [Buffer.accepts_limited]; omega), if_pos fit, Buffer.after_limited]
    · obtain ⟨cut, stopped⟩ := offers.exceeds (.limited budget)
        (by rw [Buffer.accepts_limited]; omega)
      have kept := t.expand_format ctx ⟨.limited budget, final⟩
      rw [stopped] at kept
      obtain rfl : cut = final := kept
      rw [stopped, if_neg fit, Buffer.after_limited]
  refine ⟨result, bytes, grown, bounded, ?_⟩
  rw [bounded, if_pos (Nat.le_refl _), Nat.min_self, ByteArray.extract_zero_size]

theorem expand_limited_late_failure :
    let late : Evaluator Buffer Context := fun ctx => Action.runAll [.fail "late"] ctx
    let s : Substituter (Evaluator Buffer Context) :=
      ⟨{ lenient := true }, ⟨[("x", fun _ => Writer.put (.integer 7)), ("y", late)]⟩⟩
    ∃ t, s.parse "é@x@y" = .ok t ∧ t.MadeOf ⟨[]⟩ Binding.writesWhole ∧ ∀ ctx,
      t.expand ctx ⟨.growing ByteArray.empty, { width := 3 }⟩ =
        (.error (.failed "late"), ⟨.growing "é  7".toUTF8, { width := 3 }⟩) ∧
      t.expand ctx ⟨.limited 3, { width := 3 }⟩ =
        (.error .budgetExhausted, ⟨⟨"é ".toUTF8, some 3⟩, { width := 3 }⟩) ∧
      t.expand ctx ⟨.limited 5, { width := 3 }⟩ =
        (.error (.failed "late"), ⟨⟨"é  7".toUTF8, some 5⟩, { width := 3 }⟩) := by
  intro late s
  have made : ∀ entry ∈ s.table.entries, ∃ binding : Binding,
      binding.writesWhole = true ∧ binding.evaluator? ⟨[]⟩ = some entry.2 := by
    intro entry mem
    obtain rfl | rfl : entry = _ ∨ entry = _ := by simpa [s] using mem
    · exact ⟨.value (.integer 7), rfl, rfl⟩
    · exact ⟨.custom [.fail "late"], rfl, rfl⟩
  have whole := s.madeOf_template made "é@x@y"
  have blind : s.table.Appends := by
    apply Variables.appends_of_entries
    intro entry mem ctx
    obtain ⟨binding, -, defined⟩ := made entry mem
    exact Binding.appends_of_evaluator? defined ctx
  refine ⟨_, s.parse_of_lenient rfl _, whole, fun ctx => ?_⟩
  have closed : ∀ l ∈ [.plain 'é', .compact 'x', .compact 'y'], Lexeme.Closed s.marker l := by decide
  have read : lexemes s.marker "é@x@y".toList = [.plain 'é', .compact 'x', .compact 'y'] :=
    lexemes_spell closed
  have seven : s.table.emission ctx { width := 3 } (String.singleton 'x') = .ofString "  7" :=
    Writer.emission_put (.integer 7) { width := 3 }
  have failure : s.table.emission ctx { width := 3 } (String.singleton 'y') =
      ⟨.error (.failed "late"), ByteArray.empty⟩ := rfl
  have grown : (s.template "é@x@y").expand ctx ⟨.growing ByteArray.empty, { width := 3 }⟩ =
      (.error (.failed "late"), ⟨.growing "é  7".toUTF8, { width := 3 }⟩) := by
    rw [s.expand_template, emits_writeLexemes blind, read]
    simp only [List.map_cons, List.map_nil, Lexeme.emission, seven, failure]
    rfl
  obtain ⟨result, bytes, grown', bounded, -⟩ := expand_limited whole ctx { width := 3 }
  rw [grown] at grown'
  obtain ⟨rfl, same⟩ := Prod.mk.inj grown'
  obtain rfl : "é  7".toUTF8 = bytes := congrArg (·.sink.content) same
  refine ⟨grown, ?_, ?_⟩
  · rw [bounded]
    rfl
  · rw [bounded]
    rfl

end TextTemplate

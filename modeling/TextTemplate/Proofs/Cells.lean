import TextTemplate.Proofs.Emission
import TextTemplate.Proofs.Interference
import TextTemplate.Proofs.Steps

/-!
Variables that stand for values.

A value binding prints what it was given when the variable was defined, and a shared binding prints what its
cell holds when the template is expanded.  Where all variables are of these two kinds, an expansion writes
one text, and the steps of the run so far tell which: the first definition of every name, and for every cell
the last step that set it.

* `Template.expand_eq_text`: an expansion of values writes one text, for every buffer.
* `Session.expand_of_contents`: the text is that of a run, if the cells that the template refers to hold
  what the run put into them.
* `Session.answer_of_writes`: the steps that expand the template are answered with that text.
* `expand_still`: what is written and answered after a run, and after any steps that leave the cells of the
  template alone.
-/

namespace TextTemplate

variable {γ ε : Type}

/-- The binding prints one value, in which the context has no say. -/
def Binding.isStill : Binding → Bool
  | value _ | shared _ => true
  | field _ _ | custom _ => false

/-- If the step defines a variable, it does so by a value or by a cell. -/
def Step.isStill : Step → Bool
  | define _ binding => binding.isStill
  | _ => true

/-- What a step answers that expands what is kept under `id`, if `written f` is written from the format `f`
on. -/
inductive Step.Answers (id : String) (written : Format → String) : Step → Answer → Prop where
  | expand {slots : List Fields} {format : Format} {sink : Buffer} {result : Except IoError Unit}
      {out : Output Buffer} :
      Writer.text (written format) ⟨sink, format⟩ = (result, out) →
      Answers id written (.expand id slots format sink) (.expanded (result.mapError .io) out)
  | expandInto {slots : List Fields} {sink after : Buffer} {result : Except IoError Unit} :
      Sink.writeAll sink (written {}).toUTF8 = (result, after) →
      Answers id written (.expandInto id slots sink) (.expandedInto result after)
  | expandToText (slots : List Fields) :
      Answers id written (.expandToText id slots) (.expandedToText (.ok (written {})))

/-! ### Values in a text -/

/-- The text of a piece, where every name stands for a value. -/
def Piece.printed (marker : Marker) (format : Format) (valueOf : String → Option Value) : Piece ε → String
  | literal text => text
  | substitution s =>
    match s.replacement with
    | .marker => marker.text
    | .reference name _ => (valueOf name).elim "" format.printed
    | .omitted => ""

/-- The text of a template, where every name stands for a value. -/
def Template.printed (t : Template ε) (format : Format) (valueOf : String → Option Value) : String :=
  String.join (t.pieces.map (Piece.printed t.marker format valueOf))

theorem Writer.text_format (s : String) (out : Output Buffer) : (text s out).2.format = out.format := rfl

variable {ctx : γ} {valueOf : String → Option Value}

/-- A variable that prints a value writes its text. -/
theorem Piece.write_eq_text (marker : Marker) (piece : Piece (Evaluator Buffer γ))
    (stands : ∀ sub ∈ piece.substitution?, ∀ name eval, sub.replacement = .reference name eval →
      ∃ v, valueOf name = some v ∧ eval ctx = Writer.put v) (out : Output Buffer) :
    piece.write marker ctx out = Writer.text (piece.printed marker out.format valueOf) out := by
  cases piece with
  | literal text => rfl
  | substitution sub =>
    obtain ⟨start, stop, replacement⟩ := sub
    cases replacement with
    | marker => rfl
    | omitted => exact congrFun Writer.text_empty.symm out
    | reference name eval =>
      obtain ⟨v, value, put⟩ := stands _ rfl name eval rfl
      have written := Writer.put_eq v out
      simp only [write, printed, put, value, Writer.isolated, written]
      rfl

/-- An expansion of values writes one text, for every buffer. -/
theorem Template.expand_eq_text {t : Template (Evaluator Buffer γ)}
    (stands : ∀ sub ∈ t.substitutions, ∀ name eval, sub.replacement = .reference name eval →
      ∃ v, valueOf name = some v ∧ eval ctx = Writer.put v) (out : Output Buffer) :
    t.expand ctx out = Writer.text (t.printed out.format valueOf) out := by
  unfold expand printed
  unfold substitutions at stands
  generalize t.pieces = pieces at stands
  induction pieces generalizing out with
  | nil => exact congrFun Writer.text_empty.symm out
  | cons piece pieces ih =>
    have first := piece.write_eq_text t.marker
      (fun sub here => stands sub (List.mem_filterMap.2 ⟨piece, List.mem_cons_self, here⟩)) out
    have kept := Writer.text_format (piece.printed t.marker out.format valueOf) out
    rw [List.map_cons, List.map_cons, String.join_cons, Writer.text_append]
    change Writer.bind _ _ out = _
    rw [Writer.bind, Writer.bind_apply, first]
    -- The first text leaves the format alone, so the others are printed in the same format.
    rcases ran : Writer.text (piece.printed t.marker out.format valueOf) out with ⟨e | _, after⟩
    · rfl
    · rw [ran] at kept
      change _ = Writer.text _ after
      rw [← kept]
      refine ih after fun sub later => stands sub ?_
      obtain ⟨other, mem, replaced⟩ := List.mem_filterMap.1 later
      exact List.mem_filterMap.2 ⟨other, List.mem_cons_of_mem _ mem, replaced⟩

/-- Every way to expand a template that writes one text answers so. -/
theorem Session.answer_of_writes {s : Session} {id : String} {t : Template (Evaluator Buffer Context)}
    (kept : s.template? id = some t) {written : Format → String}
    (writes : ∀ slots out, t.expand (s.context slots) out = Writer.text (written out.format) out) {step : Step}
    {answer : Answer} (answers : step.Answers id written answer) : (s.step step).2.answer = answer := by
  cases answers with
  | expand text =>
    simp only [Session.step, perform, withTemplate, kept, writes, text]
  | expandInto text =>
    simp only [Session.step, perform, withTemplate, kept, Template.expandInto, writes, Writer.text, Writer.bytes,
      Writer.onSink, text]
  | expandToText slots =>
    have put : (t.expand (s.context slots)).Emits {} (.ok ()) (written {}).toUTF8 {} := fun content =>
      (writes slots _).trans (Writer.emits_bytes _ {} content)
    simp only [Session.step, perform, withTemplate, kept, Template.expandToText_of_emits put]

/-! ### Values after a run -/

namespace Session

/-- The binding that a name has after a run: the first that was given to it. -/
def bindingAfter (steps : List Step) (name : String) : Option Binding :=
  (steps.filterMap (Step.binds? name)).head?

/-- What a cell holds after a run: what it was last set to, or zero. -/
def contentAfter (steps : List Step) (cell : String) : Value :=
  (steps.filterMap (Step.sets? cell)).getLast?.getD (.integer 0)

/-- What a variable prints after a run. -/
def valueAfter (steps : List Step) (name : String) : Option Value :=
  match bindingAfter steps name with
  | some (.value v) => some v
  | some (.shared cell) => some (contentAfter steps cell)
  | _ => none

variable {shape : Shape} {config : Config} {steps : List Step}

theorem mem_of_binds? {name : String} {binding : Binding}
    (given : binding ∈ steps.filterMap (Step.binds? name)) : .define name binding ∈ steps := by
  obtain ⟨step, mem, binds⟩ := List.mem_filterMap.1 given
  cases step with
  | define other binding' =>
    rw [Step.binds?] at binds
    split at binds
    · rename_i same
      cases binds
      rwa [same]
    · cases binds
  | _ => cases binds

/-- A still binding stands for something, whatever the shape of the context. -/
theorem find?_start_run (still : ∀ step ∈ steps, step.isStill = true) (name : String) :
    ((start shape config).run steps).1.substituter.table.find? name =
      (bindingAfter steps name).bind (·.evaluator? shape) := by
  rw [find?_run]
  change none.or _ = _
  rw [Option.none_or, bindingAfter]
  cases given : steps.filterMap (Step.binds? name) with
  | nil => rfl
  | cons binding rest =>
    have first := still _ (mem_of_binds? (given ▸ List.mem_cons_self))
    rw [List.findSome?_cons, List.head?_cons, Option.bind_some]
    cases binding with
    | value v => rfl
    | shared cell => rfl
    | field accessor field => cases first
    | custom actions => cases first

/-- A variable of a template prints its value of the run in every context in which its cell, if it has one,
holds what the run put into it. -/
theorem put_of_reference (still : ∀ step ∈ steps, step.isStill = true) {id : String}
    {t : Template (Evaluator Buffer Context)}
    (kept : ((start shape config).run steps).1.template? id = some t) {sub : Substitution (Evaluator Buffer Context)}
    (mem : sub ∈ t.substitutions) {name : String} {eval : Evaluator Buffer Context}
    (refers : sub.replacement = .reference name eval) :
    ∃ v, valueAfter steps name = some v ∧ ∀ ctx : Context,
      (∀ cell, bindingAfter steps name = some (.shared cell) →
        (ctx.cells cell).content = contentAfter steps cell) → eval ctx = Writer.put v := by
  -- A template that is kept is what its text is read as now, whenever it was read.
  have read : t = Substituter.template _ t.text :=
    current_run (current_start shape config) steps _ (mem_of_template? _ kept)
  rw [read] at mem
  have found := Substituter.find?_of_reference mem refers
  rw [find?_start_run still] at found
  obtain ⟨binding, given, stands⟩ := Option.bind_eq_some_iff.1 found
  have isStill := still _ (mem_of_binds? (List.mem_of_mem_head? given))
  unfold valueAfter
  rw [given]
  cases binding with
  | value v =>
    cases stands
    exact ⟨v, rfl, fun _ _ => rfl⟩
  | shared cell =>
    cases stands
    refine ⟨_, rfl, fun ctx same => congrArg Writer.put ?_⟩
    rw [Cell.readThrough_eq, same cell rfl]
  | field accessor field => cases isStill
  | custom actions => cases isStill

/-- A template of a run writes the text of the run in every context in which the cells that it refers to hold
what the run put into them. -/
theorem expand_of_contents (still : ∀ step ∈ steps, step.isStill = true) {id : String}
    {t : Template (Evaluator Buffer Context)}
    (kept : ((start shape config).run steps).1.template? id = some t) {ctx : Context}
    (same : ∀ name cell, t.refersTo name = true → bindingAfter steps name = some (.shared cell) →
      (ctx.cells cell).content = contentAfter steps cell) (out : Output Buffer) :
    t.expand ctx out = Writer.text (t.printed out.format (valueAfter steps)) out := by
  refine Template.expand_eq_text (fun sub mem name eval refers => ?_) out
  have referred := (t.refersTo_iff_reference name).2 ⟨sub, mem, eval, refers⟩
  obtain ⟨v, value, put⟩ := put_of_reference still kept mem refers
  exact ⟨v, value, put ctx fun cell => same name cell referred⟩

end Session

/-- **What values and cells come to.**  Let a session define variables by values and by cells only, and let
it take any steps.  Whenever a template is kept then, whichever step read it, all variables that it refers to
stand for values: for the one given in the first definition of the name, or for the one last put into the
cell given there.  Expanding it writes one text, with these values printed in their places, for every context
and into every buffer.  And after any further steps, as long as none of them sets a cell that the template
refers to, it still appends the same bytes to a buffer that grows, from the same format on.  What other cells
are set to, which cells are poisoned, which templates come and go and what fails makes no difference.  So
wherever the template is still kept, a step that expands it, into an output, into a buffer or into a text, is
answered with that text, whatever steps are to follow. -/
theorem expand_still (shape : Shape) (config : Config) {steps : List Step}
    (still : ∀ step ∈ steps, step.isStill = true) :
    let s := ((Session.start shape config).run steps).1
    let valueOf := Session.valueAfter steps
    ∀ id t, s.template? id = some t →
      (∀ name, t.refersTo name = true → ∃ v, valueOf name = some v) ∧
      (∀ slots out, t.expand (s.context slots) out = Writer.text (t.printed out.format valueOf) out) ∧
      ∀ more : List Step,
        (∀ name cell, t.refersTo name = true → Session.bindingAfter steps name = some (.shared cell) →
          ∀ v, .setCell cell v ∉ more) →
        (∀ (format : Format) (slots slots' : List Fields) (content content' : ByteArray),
          let bytes := (t.printed format valueOf).toUTF8
          t.expand (s.context slots) ⟨.growing content, format⟩ =
            (.ok (), ⟨.growing (content ++ bytes), format⟩) ∧
          t.expand ((s.run more).1.context slots') ⟨.growing content', format⟩ =
            (.ok (), ⟨.growing (content' ++ bytes), format⟩)) ∧
        ∀ id', (s.run more).1.template? id' = some t →
          ∀ step answer, step.Answers id' (fun format => t.printed format valueOf) answer → ∀ after : List Step,
            let reports := ((Session.start shape config).run (steps ++ more ++ step :: after)).2
            reports[(steps ++ more).length]?.map (·.answer) = some answer := by
  intro s valueOf id t kept
  have contents (cell : String) : (s.cells cell).content = Session.contentAfter steps cell :=
    Session.content_run _ steps cell
  have now (slots : List Fields) (out : Output Buffer) :
      t.expand (s.context slots) out = Writer.text (t.printed out.format valueOf) out :=
    Session.expand_of_contents still kept (fun _ cell _ _ => contents cell) out
  refine ⟨fun name refers => ?_, now, fun more untouched => ?_⟩
  · obtain ⟨sub, mem, eval, reference⟩ := (t.refersTo_iff_reference name).1 refers
    obtain ⟨v, value, -⟩ := Session.put_of_reference still kept mem reference
    exact ⟨v, value⟩
  have later (slots : List Fields) (out : Output Buffer) :
      t.expand ((s.run more).1.context slots) out = Writer.text (t.printed out.format valueOf) out :=
    Session.expand_of_contents still kept (fun name cell refers given =>
      (s.content_run_of_not_mem (untouched name cell refers given)).trans (contents cell)) out
  refine ⟨fun format slots slots' content content' => ⟨?_, ?_⟩, fun id' kept' step answer answers after => ?_⟩
  · rw [now]
    exact Writer.emits_bytes _ format content
  · rw [later]
    exact Writer.emits_bytes _ format content'
  · intro reports
    have reached : ((Session.start shape config).run (steps ++ more)).1 = (s.run more).1 := by
      rw [Session.run_append]
    rw [Session.report_run, reached, Option.map_some, Session.answer_of_writes kept' later answers]

theorem expand_still_poisoned_cell :
    let steps : List Step :=
      [.setCell "c" (.integer 1), .define "x" (.shared "c"), .define "y" (.value (.integer 2)),
        .define "z" (.shared "c"), .parse "t" "@x@y@z", .setCell "c" (.integer 5), .poisonCell "c"]
    let more : List Step :=
      [.setCell "d" (.integer 9), .poisonCell "c", .expand "t" [] {} (.limited 1), .copy "t" "u", .parse "t" "@"]
    let s := ((Session.start ⟨[]⟩ {}).run steps).1
    (∀ step ∈ steps, step.isStill = true) ∧ ∃ t, s.template? "t" = some t ∧
      (∀ name cell, t.refersTo name = true → Session.bindingAfter steps name = some (.shared cell) →
        ∀ v, .setCell cell v ∉ more) ∧
      t.expand ((s.run more).1.context []) ⟨.growing ByteArray.empty, {}⟩ =
        (.ok (), ⟨.growing "525".toUTF8, {}⟩) ∧
      let reports := ((Session.start ⟨[]⟩ {}).run (steps ++ more.take 4 ++ .expandToText "u" [] :: more.drop 4)).2
      reports[11]?.map (·.answer) = some (.expandedToText (.ok "525")) := by
  intro steps more s
  have still : ∀ step ∈ steps, step.isStill = true := by decide
  let defined := ((Session.start ⟨[]⟩ {}).run (steps.take 4)).1
  let t := defined.substituter.template "@x@y@z"
  have closed : ∀ l ∈ [.compact 'x', .compact 'y', .compact 'z'],
      Lexeme.Closed defined.substituter.marker l := by decide
  have read : lexemes defined.substituter.marker "@x@y@z".toList =
      [.compact 'x', .compact 'y', .compact 'z'] := lexemes_spell closed
  have parsed : defined.substituter.parse "@x@y@z" = .ok t := by
    apply Substituter.parse_of_clean
    rw [Substituter.problems, Substituter.placed, read]
    rfl
  have kept : s.template? "t" = some t := defined.template?_step_parse parsed
  have untouched (name cell : String) (_ : t.refersTo name = true)
      (given : Session.bindingAfter steps name = some (.shared cell)) (v : Value) :
      .setCell cell v ∉ more := by
    have listed := Session.mem_of_binds? (List.mem_of_mem_head? given)
    have sharing : name = "x" ∧ cell = "c" ∨ name = "z" ∧ cell = "c" := by simpa [steps] using listed
    rcases sharing with ⟨-, rfl⟩ | ⟨-, rfl⟩ <;> simp [more]
  obtain ⟨-, -, stays⟩ := expand_still ⟨[]⟩ {} still "t" t kept
  have printed : t.printed {} (Session.valueAfter steps) = "525" := by
    unfold t Template.printed Substituter.template Substituter.placed
    rw [read]
    rfl
  have after := ((stays more untouched).1 {} [] [] ByteArray.empty ByteArray.empty).2
  have copied : (s.run (more.take 4)).1.template? "u" = some t := by
    have still_kept : (s.run (more.take 3)).1.template? "t" = some t := kept
    change ((s.run (more.take 3)).1.step (.copy "t" "u")).1.template? "u" = some t
    simp only [Session.step, Session.perform, still_kept]
    exact List.lookup_cons_self
  have answered := (stays (more.take 4) fun name cell refers given v mem =>
    untouched name cell refers given v (List.mem_of_mem_take mem)).2 "u" copied _ _ (.expandToText []) (more.drop 4)
  rw [printed] at after answered
  rw [ByteArray.empty_append] at after
  exact ⟨still, t, kept, untouched, after, answered⟩

end TextTemplate

import TextTemplate.Proofs.Printing

/-!
Expanding into an output, into a buffer and into a text.

What is written has to be text as a whole, and only when all of it is there can that be told: two parts that
are no texts may be one together.  A variable that writes nothing but texts, however it sets the format and
whatever it does about failures, keeps the whole a text.

* `Writer.WritesText.emitsText`: who writes texts only puts out a text, from every format on.
* `Template.expandToText_eq_error_iff`: when an expansion is not a text.
* `entry_points_agree`: the three ways to expand a template put out the same bytes.
-/

namespace TextTemplate

namespace Writer

variable {α β : Type}

/-- Runs a computation and goes on, whether it failed or not. -/
def attempt (w : Writer Buffer α) : Writer Buffer (Except IoError α) := fun out =>
  let (result, out) := w out
  (.ok result, out)

/-- The computation prints and writes texts only.  It may do so any number of times, flush the sink, change the
format, look at it, fail, and go on after a failure. -/
inductive WritesText : {α : Type} → Writer Buffer α → Prop where
  | pure {α : Type} (a : α) : WritesText (Pure.pure a : Writer Buffer α)
  | fail {α : Type} (e : IoError) : WritesText (Writer.fail e : Writer Buffer α)
  | print (d : Display) : WritesText (Writer.print d)
  | text (s : String) : WritesText (Writer.text s)
  | flush : WritesText Writer.flush
  | modifyFormat (f : Format → Format) : WritesText (Writer.modifyFormat f)
  | withFormat {α : Type} {next : Format → Writer Buffer α} :
      (∀ format, WritesText (next format)) → WritesText (Writer.withFormat next)
  | attempt {α : Type} {w : Writer Buffer α} : WritesText w → WritesText (Writer.attempt w)
  | bind {α β : Type} {w : Writer Buffer α} {next : α → Writer Buffer β} :
      WritesText w → (∀ a, WritesText (next a)) → WritesText (w >>= next)

/-- From every format on, the computation appends a text to whatever a growing buffer holds. -/
def EmitsText (w : Writer Buffer α) : Prop :=
  ∀ format, ∃ (result : Except IoError α) (s : String) (final : Format), w.Emits format result s.toUTF8 final

/-! ### Writing texts -/

theorem emits_modifyFormat (f : Format → Format) (format : Format) :
    (modifyFormat f).Emits format (.ok ()) ByteArray.empty (f format) :=
  (offers_empty fun _ => rfl : Offers ..).emits

theorem emits_flush (format : Format) : flush.Emits format (.ok ()) ByteArray.empty format :=
  (offers_empty fun _ => rfl : Offers ..).emits

theorem emits_fail (e : IoError) (format : Format) :
    (fail e : Writer Buffer α).Emits format (.error e) ByteArray.empty format :=
  (offers_empty fun _ => rfl : Offers ..).emits

theorem emitsText_pure (a : α) : (pure a : Writer Buffer α).EmitsText :=
  fun format => ⟨.ok a, "", format, emits_pure a format⟩

theorem emitsText_text (s : String) : (text s).EmitsText :=
  fun format => ⟨.ok (), s, format, emits_bytes _ format⟩

theorem EmitsText.bind {w : Writer Buffer α} {next : α → Writer Buffer β} (first : w.EmitsText)
    (second : ∀ a, (next a).EmitsText) : (w >>= next).EmitsText := by
  intro format
  obtain ⟨result, s, middle, ran⟩ := first format
  cases result with
  | error e => exact ⟨.error e, s, middle, ran.bind_error⟩
  | ok a =>
    obtain ⟨result', s', final, went⟩ := second a middle
    refine ⟨result', s ++ s', final, ?_⟩
    rw [String.toUTF8_eq_toByteArray, String.toByteArray_append]
    exact ran.bind_ok went

theorem EmitsText.isolated {w : Writer Buffer α} (puts : w.EmitsText) : (isolated w).EmitsText := by
  intro format
  obtain ⟨result, s, final, ran⟩ := puts format
  refine ⟨result, s, format, fun content => ?_⟩
  simp only [Writer.isolated, ran content]

theorem EmitsText.attempt {w : Writer Buffer α} (puts : w.EmitsText) : (attempt w).EmitsText := by
  intro format
  obtain ⟨result, s, final, ran⟩ := puts format
  refine ⟨.ok result, s, final, fun content => ?_⟩
  simp only [Writer.attempt, ran content]

theorem emitsText_all {ws : List (Writer Buffer Unit)} (each : ∀ w ∈ ws, w.EmitsText) : (all ws).EmitsText :=
  all_induction (emitsText_pure ()) (fun first second => first.bind fun _ => second) each

/-- **Who writes texts only puts out a text**, whatever is done about the format and about failures. -/
theorem WritesText.emitsText {w : Writer Buffer α} (writes : w.WritesText) : w.EmitsText := by
  induction writes with
  | pure a => exact emitsText_pure a
  | fail e => exact fun format => ⟨.error e, "", format, emits_fail e format⟩
  | print d => exact fun format => ⟨_, _, format, (offers_of_prints fun sink => print_eq d sink format).emits⟩
  | text s => exact emitsText_text s
  | flush => exact fun format => ⟨.ok (), "", format, emits_flush format⟩
  | modifyFormat f => exact fun format => ⟨.ok (), "", f format, emits_modifyFormat f format⟩
  | withFormat _ puts => exact fun format => puts format format
  | attempt _ puts => exact puts.attempt
  | bind _ _ first second => exact first.bind second

end Writer

/-! ### Bindings -/

/-- All that the action writes is text, all of it at once. -/
def Action.isTextual : Action → Bool
  | bytes _ | single _ => false
  | _ => true

/-- The binding writes values and texts only. -/
def Binding.isTextual : Binding → Bool
  | custom actions => actions.all Action.isTextual
  | value _ | field _ _ | shared _ => true

theorem Action.writesText_run {action : Action} (textual : action.isTextual = true) (ctx : Context) :
    (action.run ctx).WritesText := by
  have quiet {α : Type} {w : Writer Buffer α} (first : w.WritesText) :
      (do let _ ← w; pure none : Writer Buffer (Option Nat)).WritesText := .bind first fun _ => .pure _
  cases action with
  | put v => exact quiet (.print v.display)
  | putField slot name => exact quiet (.print _)
  | text s => exact quiet (.text s)
  | bytes data => cases textual
  | plain v =>
    rw [run, Writer.plainly_eq]
    exact quiet (.text _)
  | single s => cases textual
  | flush => exact quiet .flush
  | change c => exact quiet (.modifyFormat _)
  | replace f => exact quiet (.modifyFormat _)
  | showFormat => exact quiet (.withFormat fun format => .text format.record.line)
  | fail message => exact .fail _

theorem Binding.writesText_of_evaluator? {shape : Shape} {binding : Binding} {eval : Evaluator Buffer Context}
    (textual : binding.isTextual = true) (defined : binding.evaluator? shape = some eval) (ctx : Context) :
    (eval ctx).WritesText := by
  cases binding with
  | value v =>
    cases defined
    exact .print v.display
  | field accessor name =>
    obtain ⟨slot, -, rfl⟩ := Option.map_eq_some_iff.1 defined
    exact .print _
  | shared cell =>
    cases defined
    exact .print _
  | custom actions =>
    cases defined
    refine Writer.all_induction (.pure ()) (fun first second => .bind first fun _ => second) fun w mem => ?_
    obtain ⟨action, listed, rfl⟩ := List.mem_map.1 mem
    exact .bind (action.writesText_run (List.all_eq_true.1 textual action listed) ctx) fun _ => .pure ()

/-! ### Templates -/

variable {γ : Type}

/-- The template runs this evaluator. -/
def Template.Runs (t : Template (Evaluator Buffer γ)) (eval : Evaluator Buffer γ) : Prop :=
  ∃ sub ∈ t.substitutions, ∃ name, sub.replacement = .reference name eval

namespace Template

variable {t : Template (Evaluator Buffer γ)} {ctx : γ}

/-- What holds of texts, and of the variables of a template in isolation, holds of all that its pieces write. -/
theorem forall_write {P : Writer Buffer Unit → Prop} (texts : ∀ s, P (Writer.text s))
    (evaluators : ∀ eval, t.Runs eval → P (Writer.isolated (eval ctx))) :
    ∀ w ∈ t.pieces.map (Piece.write t.marker ctx), P w := by
  intro w listed
  obtain ⟨piece, mem, rfl⟩ := List.mem_map.1 listed
  cases piece with
  | literal text => exact texts text
  | substitution sub =>
    have replaced : sub ∈ t.substitutions := List.mem_filterMap.2 ⟨_, mem, rfl⟩
    obtain ⟨start, stop, replacement⟩ := sub
    cases replacement with
    | marker => exact texts _
    | reference name eval => exact evaluators eval ⟨_, replaced, name, rfl⟩
    | omitted =>
      have nothing := texts ""
      rwa [Writer.text_empty] at nothing

/-- A template does not look at the buffer if none of its variables does. -/
theorem appends_expand (blind : ∀ eval, t.Runs eval → (eval ctx).Appends) : (t.expand ctx).Appends := by
  apply Writer.appends_all
  apply forall_write
  · exact fun s => (Writer.streams_text s).appends
  · exact fun eval runs format => ⟨_, _, _, (blind eval runs).emits_isolated format⟩

/-- A template puts out a text if each of its variables does: literals and markers are texts. -/
theorem emitsText_expand (puts : ∀ eval, t.Runs eval → (eval ctx).EmitsText) : (t.expand ctx).EmitsText := by
  apply Writer.emitsText_all
  apply forall_write
  · exact Writer.emitsText_text
  · exact fun eval runs => (puts eval runs).isolated

/-- An expansion is converted when all of it is written. -/
theorem expandToText_eq (t : Template (Evaluator Buffer γ)) (ctx : γ) :
    t.expandToText ctx =
      match t.expand ctx ⟨.growing ByteArray.empty, {}⟩ with
      | (.ok (), out) => (Text.Utf8.decode out.sink.content).mapError .notText
      | (.error e, _) => .error e := by
  unfold expandToText expandInto
  rcases t.expand ctx ⟨.growing ByteArray.empty, {}⟩ with ⟨_ | _, out⟩ <;> rfl

/-- An expansion is a text if it is written to its end and spells the text as a whole. -/
theorem expandToText_eq_ok_iff {s : String} :
    t.expandToText ctx = .ok s ↔
      (t.expand ctx ⟨.growing ByteArray.empty, {}⟩).1 = .ok () ∧
      (t.expand ctx ⟨.growing ByteArray.empty, {}⟩).2.sink.content = s.toUTF8 := by
  rw [expandToText_eq, ← Text.Utf8.decode_eq_ok_iff]
  rcases t.expand ctx ⟨.growing ByteArray.empty, {}⟩ with ⟨e | _, out⟩
  · simp only [reduceCtorEq, false_and]
  · simp only [true_and]
    cases Text.Utf8.decode out.sink.content with
    | error fault => simp only [Except.mapError, reduceCtorEq]
    | ok text => simp only [Except.mapError, Except.ok.injEq]

/-- An expansion is no text if it fails, or if it is written to its end and the whole spells none. -/
theorem expandToText_eq_error_iff {e : IoError} :
    t.expandToText ctx = .error e ↔
      (t.expand ctx ⟨.growing ByteArray.empty, {}⟩).1 = .error e ∨
      (t.expand ctx ⟨.growing ByteArray.empty, {}⟩).1 = .ok () ∧
      ∃ fault, Text.Utf8.decode (t.expand ctx ⟨.growing ByteArray.empty, {}⟩).2.sink.content = .error fault ∧
        e = .notText fault := by
  rw [expandToText_eq]
  rcases t.expand ctx ⟨.growing ByteArray.empty, {}⟩ with ⟨e' | _, out⟩
  · simp only [Except.error.injEq, reduceCtorEq, false_and, or_false]
  · simp only [reduceCtorEq, true_and, false_or]
    cases Text.Utf8.decode out.sink.content with
    | error fault => simp only [Except.mapError, Except.error.injEq, exists_eq_left', eq_comm]
    | ok text => simp only [Except.mapError, reduceCtorEq, false_and, exists_false]

end Template

/-- **The ways to expand a template agree.**  Take any template and any context, and let `bytes` and `result` be
what expanding puts out into an empty buffer, from the default format on.  If no variable of the template looks
at the buffer, expanding into a buffer that holds something already appends `bytes` to it and comes to the same
result.  Expanding to a text gives a text exactly if the expansion succeeds and `bytes` spell it as a whole,
whatever the parts are that they were written in.  It gives an error exactly if it is that of the expansion, or
if the expansion succeeds and `bytes` spell no text: then it is the error of the conversion, which tells where
they stop making sense.  And if every variable of the template writes values and texts only, `bytes` spell a text
in any case, so that the conversion never fails: formats, fill characters and failures that are survived make no
difference. -/
theorem entry_points_agree (t : Template (Evaluator Buffer γ)) (ctx : γ) :
    let ran := t.expand ctx ⟨.growing ByteArray.empty, {}⟩
    let result := ran.1
    let bytes := ran.2.sink.content
    ((∀ eval, t.Runs eval → (eval ctx).Appends) →
      ∀ content, t.expandInto ctx (.growing content) = (result, .growing (content ++ bytes))) ∧
    (∀ s, t.expandToText ctx = .ok s ↔ result = .ok () ∧ bytes = s.toUTF8) ∧
    (∀ e, t.expandToText ctx = .error e ↔
      result = .error e ∨
      result = .ok () ∧ (∀ s : String, bytes ≠ s.toUTF8) ∧
        e = .notText (Text.Utf8.stopFrom bytes 0) ∧ e.kind = .invalidData) ∧
    ((∀ eval, t.Runs eval → (eval ctx).WritesText) →
      ∃ s : String, bytes = s.toUTF8 ∧ t.expandToText ctx = result.map fun _ => s) := by
  intro ran result bytes
  refine ⟨?into, ?text, ?error, ?texts⟩
  case into =>
    intro blind content
    obtain ⟨result', bytes', final, emits⟩ := Template.appends_expand blind {}
    have fresh : ran = (result', ⟨.growing bytes', final⟩) := by
      rw [← ByteArray.empty_append (b := bytes')]
      exact emits ByteArray.empty
    simp only [Template.expandInto, emits content, result, bytes, fresh]
    rfl
  case text =>
    intro s
    exact Template.expandToText_eq_ok_iff
  case error =>
    intro e
    rw [Template.expandToText_eq_error_iff]
    refine or_congr_right (and_congr_right fun _ => ?_)
    constructor
    · rintro ⟨fault, failed, rfl⟩
      obtain ⟨noText, rfl⟩ := Text.Utf8.decode_eq_error_iff.1 failed
      exact ⟨noText, rfl, rfl⟩
    · rintro ⟨noText, rfl, -⟩
      exact ⟨_, Text.Utf8.decode_eq_error_iff.2 ⟨noText, rfl⟩, rfl⟩
  case texts =>
    intro writes
    obtain ⟨result', s, final, emits⟩ :=
      Template.emitsText_expand (fun eval runs => (writes eval runs).emitsText) {}
    have fresh : ran = (result', ⟨.growing s.toUTF8, final⟩) := by
      rw [← ByteArray.empty_append (b := s.toUTF8)]
      exact emits ByteArray.empty
    refine ⟨s, congrArg (·.2.sink.content) fresh, ?_⟩
    have came : result = result' := congrArg Prod.fst fresh
    rw [came]
    cases result' with
    | ok _ => exact Template.expandToText_of_emits emits
    | error e => exact Template.expandToText_eq_error_iff.2 (.inl came)

/-- Two bytes that are no texts are one in one order and none in the other; fields with wide fill characters are
texts. -/
theorem entry_points_agree_split_character :
    let first : Evaluator Buffer Context := fun ctx => Action.runAll [.bytes ⟨#[0xC3]⟩] ctx
    let second : Evaluator Buffer Context := fun ctx => Action.runAll [.bytes ⟨#[0xA9]⟩] ctx
    let wide : Evaluator Buffer Context := fun ctx =>
      Action.runAll [.change { width := some 3, fill := some 'ü' }, .put (.integer 7)] ctx
    let s : Substituter (Evaluator Buffer Context) := ⟨{}, ⟨[("a", first), ("b", second)]⟩⟩
    let texts : Template (Evaluator Buffer Context) := ⟨"@w", s.marker, [.substitution ⟨0, 2, .reference "w" wide⟩], []⟩
    let ctx : Context := ⟨[], .untouched⟩
    (∀ eval, (s.template "@a@b").Runs eval → (eval ctx).Appends) ∧
      (s.template "@a@b").expandToText ctx = .ok "é" ∧
      (s.template "@a@b").expandInto ctx (.growing "<".toUTF8) = (.ok (), .growing "<é".toUTF8) ∧
      (s.template "@b@a").expandToText ctx = .error (.notText ⟨0, some 1⟩) ∧
      (∀ eval, texts.Runs eval → (eval ctx).WritesText) ∧ texts.expandToText ctx = .ok "üü7" := by
  intro first second wide s texts ctx
  have blind (eval : Evaluator Buffer Context) (runs : (s.template "@a@b").Runs eval) : (eval ctx).Appends := by
    obtain ⟨sub, mem, name, refers⟩ := runs
    refine Variables.appends_of_entries ?_ name eval ctx (Substituter.find?_of_reference mem refers)
    intro entry listed ctx
    have firstBound : (Binding.custom [.bytes ⟨#[0xC3]⟩]).evaluator? ⟨[]⟩ = some first := rfl
    have secondBound : (Binding.custom [.bytes ⟨#[0xA9]⟩]).evaluator? ⟨[]⟩ = some second := rfl
    rcases List.mem_pair.1 listed with rfl | rfl
    · exact Binding.appends_of_evaluator? firstBound ctx
    · exact Binding.appends_of_evaluator? secondBound ctx
  have writes (eval : Evaluator Buffer Context) (runs : texts.Runs eval) : (eval ctx).WritesText := by
    obtain ⟨sub, mem, name, refers⟩ := runs
    obtain rfl := List.mem_singleton.1 mem
    cases refers
    have bound : (Binding.custom [.change { width := some 3, fill := some 'ü' }, .put (.integer 7)]).evaluator?
        ⟨[]⟩ = some wide := rfl
    exact Binding.writesText_of_evaluator? rfl bound ctx
  have together : (s.template "@a@b").expand ctx ⟨.growing ByteArray.empty, {}⟩ =
      (.ok (), ⟨.growing "é".toUTF8, {}⟩) := by decide +kernel
  have swapped : (s.template "@b@a").expand ctx ⟨.growing ByteArray.empty, {}⟩ =
      (.ok (), ⟨.growing ⟨#[0xA9, 0xC3]⟩, {}⟩) := by decide +kernel
  have padded : texts.expand ctx ⟨.growing ByteArray.empty, {}⟩ = (.ok (), ⟨.growing "üü7".toUTF8, {}⟩) := by
    decide +kernel
  obtain ⟨into, text, -, -⟩ := entry_points_agree (s.template "@a@b") ctx
  obtain ⟨-, -, error, -⟩ := entry_points_agree (s.template "@b@a") ctx
  obtain ⟨-, -, -, convert⟩ := entry_points_agree texts ctx
  refine ⟨blind, (text "é").2 ?_, ?_, (error _).2 (.inr ?_), writes, ?_⟩
  · rw [together]
    exact ⟨rfl, rfl⟩
  · rw [into blind, together]
    rfl
  · rw [swapped]
    refine ⟨rfl, ?_, ?_, rfl⟩
    · intro s spelled
      have invalid : ¬ ByteArray.IsValidUTF8 ⟨#[0xA9, 0xC3]⟩ := by decide
      change ⟨#[0xA9, 0xC3]⟩ = s.toUTF8 at spelled
      rw [spelled] at invalid
      exact invalid s.isValidUTF8
    · rw [Text.Utf8.stopFrom]
      rfl
  · -- The conversion succeeds since the expansion does, and then it gives what was written.
    obtain ⟨s, bytes, converted⟩ := convert writes
    rw [converted, padded]
    rw [padded] at bytes
    exact congrArg _ (String.toByteArray_inj.1 bytes.symm)

end TextTemplate

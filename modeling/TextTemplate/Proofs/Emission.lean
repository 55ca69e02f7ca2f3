import TextTemplate.Proofs.Streaming

/-!
What is written into a buffer that grows.

A computation that does not look at its buffer has an output of its own: some bytes, appended to whatever
the buffer holds, and the failure that ended them if there was one.  Such outputs follow one another, and
the first failure is the end.

* `Binding.appends_of_evaluator?`: every kind of binding writes without looking at the buffer.
* `emits_writeLexemes`: lexemes put out in a row what they put out one by one, each from the same format.
-/

namespace TextTemplate

/-- Bytes that were written, and how the writing ended. -/
structure Emission where
  result : Except IoError Unit
  bytes : ByteArray

namespace Emission

def nothing : Emission := ⟨.ok (), ByteArray.empty⟩

def ofString (s : String) : Emission := ⟨.ok (), s.toUTF8⟩

/-- One output and then another; nothing follows a failure. -/
def andThen (first next : Emission) : Emission :=
  match first.result with
  | .ok () => ⟨next.result, first.bytes ++ next.bytes⟩
  | .error e => ⟨.error e, first.bytes⟩

/-- Outputs in order, up to the first that fails. -/
def concat : List Emission → Emission
  | [] => nothing
  | e :: es => e.andThen (concat es)

theorem andThen_nothing (e : Emission) : e.andThen nothing = e := by
  obtain ⟨result, bytes⟩ := e
  cases result with
  | error e => rfl
  | ok _ => simp [andThen, nothing]

end Emission

namespace Writer

variable {α β : Type}

/-- From `format` on, the computation appends `bytes` to whatever a growing buffer holds, comes to `result`
and leaves the format `final`. -/
def Emits (w : Writer Buffer α) (format : Format) (result : Except IoError α) (bytes : ByteArray)
    (final : Format) : Prop :=
  ∀ content, w ⟨.growing content, format⟩ = (result, ⟨.growing (content ++ bytes), final⟩)

/-- The computation writes without looking at what a growing buffer holds. -/
def Appends (w : Writer Buffer α) : Prop := ∀ format, ∃ result bytes final, w.Emits format result bytes final

/-- What the computation puts out from `format` on. -/
def emission (w : Writer Buffer Unit) (format : Format) : Emission :=
  let (result, out) := w ⟨.growing ByteArray.empty, format⟩
  ⟨result, out.sink.content⟩

theorem Emits.emission_eq {w : Writer Buffer Unit} {format final : Format} {result : Except IoError Unit}
    {bytes : ByteArray} (ran : w.Emits format result bytes final) : w.emission format = ⟨result, bytes⟩ := by
  have started := ran ByteArray.empty
  rw [ByteArray.empty_append] at started
  simp only [emission, started]
  rfl

/-- What a computation offers to any buffer it puts out into one that grows. -/
theorem Offers.emits {w : Writer Buffer α} {format final : Format} {result : Except IoError α} {bytes : ByteArray}
    (offers : w.Offers format result bytes final) : w.Emits format result bytes final := by
  intro content
  rw [offers.fits _ (Buffer.accepts_growing content _), Buffer.after_growing]

theorem emits_pure (a : α) (format : Format) :
    Emits (pure a) format (.ok a) ByteArray.empty format := (offers_pure a format).emits

theorem emits_bytes (data : ByteArray) (format : Format) :
    Emits (bytes data) format (.ok ()) data format := fun content => bytes_growing data content format

theorem emits_single (data : ByteArray) (format : Format) :
    Emits (single data) format (.ok data.size) data format := by
  intro content
  have roomy : ¬ ((Buffer.growing content).accepts data.size = 0 ∧ data.size ≠ 0) := fun full => full.2 full.1
  have taken : Sink.write (Buffer.growing content) data = (.ok data.size, .growing (content ++ data)) := by
    rw [Buffer.write_eq, if_neg roomy, Buffer.after_growing, Buffer.accepts_growing]
  simp only [single, onSink, taken]

theorem emission_put (v : Value) (format : Format) :
    (put v).emission format = .ofString (format.printed v) := (offers_put v format).emits.emission_eq

theorem Emits.bind_ok {w : Writer Buffer α} {next : α → Writer Buffer β} {format middle final : Format} {a : α}
    {result : Except IoError β} {first second : ByteArray} (ran : w.Emits format (.ok a) first middle)
    (went : (next a).Emits middle result second final) :
    (w >>= next).Emits format result (first ++ second) final := by
  intro content
  rw [bind_apply, ran content]
  simp only
  rw [went, ByteArray.append_assoc]

theorem Emits.bind_error {w : Writer Buffer α} {next : α → Writer Buffer β} {format final : Format} {e : IoError}
    {first : ByteArray} (failed : w.Emits format (.error e) first final) :
    (w >>= next).Emits format (.error e) first final := by
  intro content
  rw [bind_apply, failed content]

/-- Two parts that keep the format put out one after the other. -/
theorem Emits.andThen {w v : Writer Buffer Unit} {format : Format} {first next : Emission}
    (ran : w.Emits format first.result first.bytes format)
    (went : v.Emits format next.result next.bytes format) :
    (do w; v).Emits format (first.andThen next).result (first.andThen next).bytes format := by
  obtain ⟨result, bytes⟩ := first
  cases result with
  | ok _ => exact ran.bind_ok went
  | error e => exact ran.bind_error

/-- Computations that keep the format put out in a row what they put out one by one. -/
theorem emits_all {ι : Type} {write : ι → Writer Buffer Unit} {out : ι → Emission} {format : Format} {is : List ι}
    (each : ∀ i ∈ is, (write i).Emits format (out i).result (out i).bytes format) :
    (all (is.map write)).Emits format (Emission.concat (is.map out)).result
      (Emission.concat (is.map out)).bytes format := by
  induction is with
  | nil => exact emits_pure () format
  | cons i is ih =>
    exact (each i List.mem_cons_self).andThen (ih fun k later => each k (List.mem_cons_of_mem _ later))

/-! ### Computations that do not look at the buffer -/

theorem Appends.bind {w : Writer Buffer α} {next : α → Writer Buffer β} (first : w.Appends)
    (second : ∀ a, (next a).Appends) : (w >>= next).Appends := by
  intro format
  obtain ⟨result, bytes, middle, ran⟩ := first format
  cases result with
  | error e => exact ⟨_, _, _, ran.bind_error⟩
  | ok a =>
    obtain ⟨result', bytes', final, went⟩ := second a middle
    exact ⟨_, _, _, ran.bind_ok went⟩

/-- A computation that offers bytes of its own does not look at a buffer that grows. -/
theorem Streams.appends {w : Writer Buffer α} (streams : w.Streams) : w.Appends := by
  intro format
  obtain ⟨result, bytes, final, offers⟩ := streams format
  exact ⟨result, bytes, final, offers.emits⟩

theorem appends_pure (a : α) : (pure a : Writer Buffer α).Appends := (streams_pure a).appends

theorem appends_put (v : Value) : (put v).Appends := (streams_put v).appends

theorem appends_all {ws : List (Writer Buffer Unit)} (each : ∀ w ∈ ws, w.Appends) : (all ws).Appends :=
  all_induction (appends_pure ()) (fun first second => first.bind fun _ => second) each

/-- Run in isolation, such a computation puts out what it puts out on its own. -/
theorem Appends.emits_isolated {w : Writer Buffer Unit} (blind : w.Appends) (format : Format) :
    (isolated w).Emits format (w.emission format).result (w.emission format).bytes format := by
  intro content
  obtain ⟨result, bytes, final, ran⟩ := blind format
  simp only [isolated, ran.emission_eq, ran content]

end Writer

theorem Action.appends_run (action : Action) (ctx : Context) : (action.run ctx).Appends := by
  cases single : action.isSingle with
  | false => exact (action.streams_run single ctx).appends
  | true =>
    cases action with
    | single s =>
      exact Writer.Appends.bind (fun format => ⟨_, _, _, Writer.emits_single _ format⟩)
        fun _ => Writer.appends_pure _
    | _ => cases single

/-- **No binding looks at the buffer.**  Values, fields, shared cells and lists of actions all write the same
bytes into every growing buffer. -/
theorem Binding.appends_of_evaluator? {shape : Shape} {binding : Binding} {eval : Evaluator Buffer Context}
    (defined : binding.evaluator? shape = some eval) (ctx : Context) : (eval ctx).Appends := by
  cases binding with
  | value v => exact (streams_of_evaluator? rfl defined ctx).appends
  | field accessor name => exact (streams_of_evaluator? rfl defined ctx).appends
  | shared cell => exact (streams_of_evaluator? rfl defined ctx).appends
  | custom actions =>
    cases defined
    refine Writer.appends_all fun w mem => ?_
    obtain ⟨action, -, rfl⟩ := List.mem_map.1 mem
    exact (action.appends_run ctx).bind fun _ => Writer.appends_pure ()

/-! ### Lexemes -/

variable {γ : Type} {marker : Marker} {table : Variables (Evaluator Buffer γ)}

/-- No variable of the table looks at the buffer. -/
def Variables.Appends (table : Variables (Evaluator Buffer γ)) : Prop :=
  ∀ name eval ctx, table.find? name = some eval → (eval ctx).Appends

theorem Variables.appends_of_entries
    (each : ∀ entry ∈ table.entries, ∀ ctx, (entry.2 ctx).Appends) : table.Appends := by
  intro name eval ctx found
  obtain ⟨before, after, entries, -⟩ := List.lookup_eq_some_iff.1 found
  refine each (name, eval) ?_ ctx
  simp [entries]

/-- What a reference to `name` puts out. -/
def Variables.emission (table : Variables (Evaluator Buffer γ)) (ctx : γ) (format : Format) (name : String) :
    Emission :=
  match table.find? name with
  | some eval => (eval ctx).emission format
  | none => .nothing

/-- What a lexeme puts out. -/
def Lexeme.emission (marker : Marker) (table : Variables (Evaluator Buffer γ)) (ctx : γ) (format : Format)
    (l : Lexeme) : Emission :=
  match l with
  | escape => .ofString marker.text
  | compact c => table.emission ctx format (String.singleton c)
  | braced name => table.emission ctx format name
  | plain _ | strayMarker | strayBrace => .ofString (String.ofList (l.spelling marker))

theorem Variables.emits_write (blind : table.Appends) (ctx : γ) (format : Format) (name : String) :
    (table.write ctx name).Emits format (table.emission ctx format name).result
      (table.emission ctx format name).bytes format := by
  unfold Variables.write Variables.emission
  cases found : table.find? name with
  | none => exact Writer.emits_pure () format
  | some eval => exact (blind name eval ctx found).emits_isolated format

theorem Lexeme.emits_write (blind : table.Appends) (ctx : γ) (format : Format) (l : Lexeme) :
    (l.write marker table ctx).Emits format (l.emission marker table ctx format).result
      (l.emission marker table ctx format).bytes format := by
  cases l with
  | compact c => exact table.emits_write blind ctx format _
  | braced name => exact table.emits_write blind ctx format name
  | plain c => exact Writer.emits_bytes _ format
  | escape => exact Writer.emits_bytes _ format
  | strayMarker => exact Writer.emits_bytes _ format
  | strayBrace => exact Writer.emits_bytes _ format

theorem emits_writeLexemes (blind : table.Appends) (ctx : γ) (format : Format) (ls : List Lexeme) :
    (writeLexemes marker table ctx ls).Emits format
      (Emission.concat (ls.map (·.emission marker table ctx format))).result
      (Emission.concat (ls.map (·.emission marker table ctx format))).bytes format :=
  Writer.emits_all fun l _ => l.emits_write blind ctx format

/-! ### Templates -/

/-- A text that is put out from the default format on is the expansion as a text. -/
theorem Template.expandToText_of_emits {t : Template (Evaluator Buffer γ)} {ctx : γ} {text : String}
    {final : Format}
    (put : (t.expand ctx).Emits {} (.ok ()) text.toUTF8 final) : t.expandToText ctx = .ok text := by
  have into : t.expandInto ctx (.growing ByteArray.empty) = (.ok (), .growing text.toUTF8) := by
    rw [expandInto, put ByteArray.empty, ByteArray.empty_append]
  unfold expandToText
  rw [into]
  simp only [Buffer.growing, Text.Utf8.decode_eq_ok_iff.2 rfl]
  rfl

end TextTemplate

import TextTemplate.Proofs.Mapping
import TextTemplate.Error

/-!
Which variables an expansion calls.

Let every variable of a host note that it is called, and then do what it did.  The note goes to a record that is
kept beside the sink, where nothing that is written can reach it.  Texts are read and templates are expanded as
ever, in ignorance of the record: without it, what they come to is what they came to before.  So the calls of an
expansion are those that its own run puts on the record.

* `Template.expand_recorded`: with the record erased, the expansion is the one that was.
* `Template.calls_eq`: the calls are made piece by piece, up to the first that fails.
* `Template.countP_calls`: an expansion that ends well has called every variable once for each of its spans.
-/

namespace TextTemplate

/-- A call of a variable, with the output that the variable was handed. -/
structure Call (σ : Type) where
  name : String
  start : Output σ
deriving DecidableEq

/-- A sink, and beside it the calls that were made so far. -/
structure Recorded (σ : Type) where
  sink : σ
  calls : List (Call σ)

variable {σ γ α β : Type}

/-- What is written goes to the sink. -/
instance [Sink σ] : Sink (Recorded σ) where
  write r data :=
    let (result, sink) := Sink.write r.sink data
    (result, { r with sink })
  flush r :=
    let (result, sink) := Sink.flush r.sink
    (result, { r with sink })
  write_le {r after data count} taken := by
    obtain ⟨result, -⟩ := Prod.mk.inj taken
    exact Sink.write_le (Prod.ext result rfl)

namespace Output

/-- The output with an empty record beside its sink. -/
def recording (out : Output σ) : Output (Recorded σ) := ⟨⟨out.sink, []⟩, out.format⟩

/-- The output without the record. -/
def erased (out : Output (Recorded σ)) : Output σ := ⟨out.sink.sink, out.format⟩

/-- The output with some calls on record. -/
def withCalls (out : Output σ) (calls : List (Call σ)) : Output (Recorded σ) := ⟨⟨out.sink, calls⟩, out.format⟩

end Output

namespace Writer

/-- Writes to the sink; the record stays. -/
def beside (w : Writer σ α) : Writer (Recorded σ) α := fun out =>
  let (result, after) := w out.erased
  (result, after.withCalls out.sink.calls)

/-- Puts a call on record. -/
def note (name : String) : Writer (Recorded σ) Unit := fun out =>
  (.ok (), out.erased.withCalls (out.sink.calls ++ [⟨name, out.erased⟩]))

end Writer

/-- The variable notes that it is called, and then does what it did. -/
def Evaluator.recorded (name : String) (eval : Evaluator σ γ) : Evaluator (Recorded σ) γ := fun ctx => do
  Writer.note name
  Writer.beside (eval ctx)

def Template.recorded (t : Template (Evaluator σ γ)) : Template (Evaluator (Recorded σ) γ) :=
  t.map Evaluator.recorded

def Substituter.recorded (s : Substituter (Evaluator σ γ)) : Substituter (Evaluator (Recorded σ) γ) :=
  s.map Evaluator.recorded

/-! ### Computations on a recorded sink -/

namespace Writer

/-- With the record erased the first computation is the second, and these are the calls that it puts there. -/
def Records (w : Writer (Recorded σ) α) (plain : Writer σ α) (made : Output σ → List (Call σ)) : Prop :=
  ∀ out, w out =
    ((plain out.erased).1, (plain out.erased).2.withCalls (out.sink.calls ++ made out.erased))

theorem records_beside (w : Writer σ α) : (beside w).Records w fun _ => [] := by
  intro out
  simp only [beside, List.append_nil]

theorem records_pure (a : α) : (pure a : Writer (Recorded σ) α).Records (pure a) fun _ => [] :=
  records_beside (pure a)

/-- Of two computations in a row, the second makes its calls if the first does not fail. -/
theorem Records.bind {w : Writer (Recorded σ) α} {plain : Writer σ α} {made : Output σ → List (Call σ)}
    {next : α → Writer (Recorded σ) β} {plainNext : α → Writer σ β} {madeNext : α → Output σ → List (Call σ)}
    (first : w.Records plain made) (second : ∀ a, (next a).Records (plainNext a) (madeNext a)) :
    (w >>= next).Records (plain >>= plainNext) fun out => made out ++
      match plain out with
      | (.ok a, out) => madeNext a out
      | (.error _, _) => [] := by
  intro out
  rw [bind_apply, bind_apply, first out]
  rcases ran : plain out.erased with ⟨e | a, after⟩
  · simp only [ran, List.append_nil]
  · simp only [ran]
    rw [← List.append_assoc]
    exact second a _

theorem Records.isolated {w : Writer (Recorded σ) α} {plain : Writer σ α} {made : Output σ → List (Call σ)}
    (records : w.Records plain made) : w.isolated.Records plain.isolated made := by
  intro out
  simp only [Writer.isolated, records out]
  rfl

end Writer

/-- A recorded variable does what it did, behind a call of its own. -/
theorem Evaluator.records_recorded (name : String) (eval : Evaluator σ γ) (ctx : γ) :
    (Evaluator.recorded name eval ctx).Records (eval ctx) fun out => [⟨name, out⟩] := by
  intro out
  rfl

variable [Sink σ]

/-- The calls that expanding the template into `out` puts on record. -/
def Template.calls (t : Template (Evaluator σ γ)) (ctx : γ) (out : Output σ) : List (Call σ) :=
  (t.recorded.expand ctx out.recording).2.sink.calls

/-- The calls that expanding a text once puts on record. -/
def Substituter.calls (s : Substituter (Evaluator σ γ)) (text : String) (ctx : γ) (out : Output σ) :
    List (Call σ) :=
  (s.recorded.expand text ctx out.recording).2.sink.calls

/-- What is written beside a record comes to what it comes to without one. -/
theorem Sink.writeAll_recorded (r : Recorded σ) (data : ByteArray) :
    writeAll r data = ((writeAll r.sink data).1, { r with sink := (writeAll r.sink data).2 }) := by
  induction size : data.size using Nat.strongRecOn generalizing r data with
  | _ n ih =>
    by_cases empty : data.size = 0
    · rw [writeAll_of_empty r empty, writeAll_of_empty r.sink empty]
    rcases written : write r.sink data with ⟨result, after⟩
    have beside : write r data = (result, { r with sink := after }) := by simp only [write, written]
    cases result with
    | error e => rw [writeAll_of_failed empty beside, writeAll_of_failed empty written]
    | ok count =>
      by_cases nothing : count = 0
      · subst nothing
        rw [writeAll_of_refused empty beside, writeAll_of_refused empty written]
      · have shorter : (data.extract count data.size).size < n := by
          rw [ByteArray.size_extract]
          omega
        rw [writeAll_of_taken empty nothing beside, writeAll_of_taken empty nothing written]
        exact ih _ shorter { r with sink := after } _ rfl

theorem Writer.records_text (s : String) :
    (text s : Writer (Recorded σ) Unit).Records (text s) fun _ => [] := by
  intro out
  simp only [text, bytes, onSink, Sink.writeAll_recorded, List.append_nil]
  rfl

/-! ### Pieces -/

namespace Piece

/-- The call that writing a piece to `out` makes. -/
def call? (out : Output σ) : Piece (Evaluator σ γ) → Option (Call σ)
  | literal _ => none
  | substitution s =>
    match s.replacement with
    | .reference name _ => some ⟨name, out⟩
    | .marker | .omitted => none

/-- The calls that are made while pieces are written in order, up to the first that fails. -/
def calls (marker : Marker) (ctx : γ) : Output σ → List (Piece (Evaluator σ γ)) → List (Call σ)
  | _, [] => []
  | out, piece :: pieces =>
    (piece.call? out).toList ++
      match piece.write marker ctx out with
      | (.ok _, out) => calls marker ctx out pieces
      | (.error _, _) => []

variable (marker : Marker) (ctx : γ)

theorem records_write (piece : Piece (Evaluator σ γ)) :
    ((piece.map Evaluator.recorded).write marker ctx).Records (piece.write marker ctx)
      fun out => (piece.call? out).toList := by
  cases piece with
  | literal text => exact Writer.records_text text
  | substitution s =>
    obtain ⟨start, stop, replacement⟩ := s
    cases replacement with
    | marker => exact Writer.records_text marker.text
    | reference name eval => exact (Evaluator.records_recorded name eval ctx).isolated
    | omitted => exact Writer.records_pure ()

theorem records_all (pieces : List (Piece (Evaluator σ γ))) :
    (Writer.all ((pieces.map (Piece.map Evaluator.recorded)).map (Piece.write marker ctx))).Records
      (Writer.all (pieces.map (Piece.write marker ctx))) fun out => calls marker ctx out pieces := by
  induction pieces with
  | nil => exact Writer.records_pure ()
  | cons piece pieces ih =>
    intro out
    have both := (piece.records_write marker ctx).bind (fun _ => ih) out
    simp only [calls]
    rcases ran : piece.write marker ctx out.erased with ⟨e | _, after⟩
    all_goals
      simp only [ran] at both
      exact both

end Piece

/-! ### Templates -/

namespace Template

variable (t : Template (Evaluator σ γ)) (ctx : γ) (out : Output σ)

theorem records_expand :
    (t.recorded.expand ctx).Records (t.expand ctx) fun out => Piece.calls t.marker ctx out t.pieces :=
  Piece.records_all t.marker ctx t.pieces

/-- The calls are made piece by piece. -/
theorem calls_eq : t.calls ctx out = Piece.calls t.marker ctx out t.pieces := by
  unfold calls
  rw [t.records_expand ctx out.recording]
  rfl

/-- **The record does not meddle.**  The variables of a template that note their calls come to what they came to
without, and beside it stand the calls. -/
theorem expand_recorded :
    t.recorded.expand ctx out.recording = ((t.expand ctx out).1, (t.expand ctx out).2.withCalls (t.calls ctx out)) := by
  rw [t.records_expand ctx out.recording, calls_eq]
  rfl

end Template

/-! ### How often a variable is called -/

omit [Sink σ] in
/-- The calls of one piece are its spans. -/
theorem Piece.countP_call? (piece : Piece (Evaluator σ γ)) (out : Output σ) (name : String) :
    (piece.call? out).toList.countP (·.name = name) =
      (piece.substitution?.bind Substitution.span?).toList.countP (·.name = some name) := by
  cases piece with
  | literal text => rfl
  | substitution sub =>
    obtain ⟨start, stop, replacement⟩ := sub
    cases replacement with
    | marker => rfl
    | reference other eval => simp [call?, substitution?, Substitution.span?, List.countP_singleton]
    | omitted => rfl

theorem Piece.countP_calls (marker : Marker) (ctx : γ) {pieces : List (Piece (Evaluator σ γ))} {out : Output σ}
    (done : (Writer.all (pieces.map (Piece.write marker ctx)) out).1 = .ok ()) (name : String) :
    (calls marker ctx out pieces).countP (·.name = name) =
      (pieces.filterMap fun piece => piece.substitution?.bind Substitution.span?).countP
        (·.name = some name) := by
  induction pieces generalizing out with
  | nil => rfl
  | cons piece pieces ih =>
    change (Writer.bind _ _ out).1 = _ at done
    rw [Writer.bind] at done
    rw [calls, List.countP_append, piece.countP_call? out name, List.filterMap_cons]
    split at done
    · rename_i after ran
      rw [ran, ih done]
      cases piece.substitution?.bind Substitution.span? with
      | none => exact Nat.zero_add _
      | some span =>
        rw [Option.toList_some, ← List.countP_append]
        rfl
    · cases done

/-- An expansion that ends well has called every variable once for each of its spans. -/
theorem Template.countP_calls {t : Template (Evaluator σ γ)} {ctx : γ} {out : Output σ}
    (done : (t.expand ctx out).1 = .ok ()) (name : String) :
    (t.calls ctx out).countP (·.name = name) = t.spans.countP (·.name = some name) := by
  rw [calls_eq, Piece.countP_calls t.marker ctx done, spans, substitutions, List.filterMap_filterMap]

/-! ### Texts that are expanded once -/

namespace Substituter

variable {s : Substituter (Evaluator σ γ)} {text : String}

omit [Sink σ] in
/-- Recording the variables of a table is recording those of its templates. -/
theorem parse_recorded (s : Substituter (Evaluator σ γ)) (text : String) :
    s.recorded.parse text = (s.parse text).map Template.recorded := s.parse_map Evaluator.recorded text

theorem calls_of_refused {e : ParseError} (refused : s.parse text = .error e) (ctx : γ) (out : Output σ) :
    s.calls text ctx out = [] := by
  have refused' : s.recorded.parse text = .error e := by rw [parse_recorded, refused, Except.map]
  unfold calls
  rw [expand_of_refused refused']
  rfl

theorem calls_of_parsed {t : Template (Evaluator σ γ)} (parsed : s.parse text = .ok t) (ctx : γ) (out : Output σ) :
    s.calls text ctx out = t.calls ctx out := by
  have parsed' : s.recorded.parse text = .ok t.recorded := by rw [parse_recorded, parsed, Except.map]
  unfold calls
  rw [expand_of_parsed parsed']
  rfl

end Substituter
end TextTemplate

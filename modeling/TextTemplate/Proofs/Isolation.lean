import TextTemplate.Proofs.Padding
import TextTemplate.Proofs.Recording

/-!
Variables do not see each other's formats.

An expansion threads one output through all of its pieces, and a variable may leave any format behind.  All
the same every variable starts from the format that the expansion started from, so the expansion could
as well keep the sink alone and hand every variable a copy of that format.

* `Piece.write_eq`: one piece writes as it does with a format of its own.
* `expand_isolated`: so do whole expansions, and every call of a variable starts from the first format.
-/

namespace TextTemplate

variable {σ γ : Type} [Sink σ]

/-! ### A format for every variable -/

namespace Piece

/-- Writes a piece to a sink.  A variable is handed a format of its own, and what becomes of that format
is of no account. -/
def writeFresh (marker : Marker) (ctx : γ) (format : Format) (piece : Piece (Evaluator σ γ)) (sink : σ) :
    Except IoError Unit × σ :=
  match piece with
  | literal text => Sink.writeAll sink text.toUTF8
  | substitution s =>
    match s.replacement with
    | .marker => Sink.writeAll sink marker.text.toUTF8
    | .reference _ eval =>
      let (result, out) := eval ctx ⟨sink, format⟩
      (result, out.sink)
    | .omitted => (.ok (), sink)

/-- Writes pieces in order, up to the first that fails. -/
def writeAllFresh (marker : Marker) (ctx : γ) (format : Format) :
    List (Piece (Evaluator σ γ)) → σ → Except IoError Unit × σ
  | [], sink => (.ok (), sink)
  | piece :: pieces, sink =>
    match piece.writeFresh marker ctx format sink with
    | (.ok (), sink) => writeAllFresh marker ctx format pieces sink
    | (.error e, sink) => (.error e, sink)

end Piece

/-- Expands into a sink, with a copy of `format` for every variable. -/
def Template.expandFresh (t : Template (Evaluator σ γ)) (ctx : γ) (format : Format) (sink : σ) :
    Except IoError Unit × σ :=
  Piece.writeAllFresh t.marker ctx format t.pieces sink

/-- Expands a text once into a sink, with a copy of `format` for every variable. -/
def Substituter.expandFresh (s : Substituter (Evaluator σ γ)) (text : String) (ctx : γ) (format : Format) (sink : σ) :
    Except Error Unit × σ :=
  match s.parse text with
  | .error e => (.error (.parse e), sink)
  | .ok template =>
    let (result, sink) := template.expandFresh ctx format sink
    (result.mapError .io, sink)

/-! ### One piece -/

omit [Sink σ] in
theorem Piece.start_of_call? {piece : Piece (Evaluator σ γ)} {out : Output σ} {call : Call σ}
    (made : piece.call? out = some call) : call.start = out := by
  cases piece with
  | literal text => cases made
  | substitution s =>
    obtain ⟨start, stop, replacement⟩ := s
    cases replacement with
    | marker => cases made
    | omitted => cases made
    | reference name eval =>
      cases made
      rfl

/-- A piece is written to the sink, and the format is put back. -/
theorem Piece.write_eq (marker : Marker) (ctx : γ) (piece : Piece (Evaluator σ γ)) (sink : σ) (format : Format) :
    piece.write marker ctx ⟨sink, format⟩ =
      ((piece.writeFresh marker ctx format sink).1,
        ⟨(piece.writeFresh marker ctx format sink).2, format⟩) := by
  cases piece with
  | literal text => rfl
  | substitution s =>
    obtain ⟨start, stop, replacement⟩ := s
    cases replacement <;> rfl

/-! ### Whole expansions -/

theorem Piece.start_format_of_mem_calls {marker : Marker} {ctx : γ} {pieces : List (Piece (Evaluator σ γ))}
    {out : Output σ} {call : Call σ} (mem : call ∈ calls marker ctx out pieces) :
    call.start.format = out.format := by
  induction pieces generalizing out with
  | nil => cases mem
  | cons piece pieces ih =>
    rw [calls] at mem
    rcases List.mem_append.1 mem with here | later
    · rw [start_of_call? (Option.mem_toList.1 here)]
    · have kept := piece.write_format marker ctx out
      split at later
      · rename_i after ran
        rw [ran] at kept
        rw [ih later, kept]
      · cases later

theorem Piece.writeAll_eq (marker : Marker) (ctx : γ) (pieces : List (Piece (Evaluator σ γ))) (sink : σ)
    (format : Format) :
    Writer.all (pieces.map (Piece.write marker ctx)) ⟨sink, format⟩ =
      ((writeAllFresh marker ctx format pieces sink).1,
        ⟨(writeAllFresh marker ctx format pieces sink).2, format⟩) := by
  induction pieces generalizing sink with
  | nil => rfl
  | cons piece pieces ih =>
    change Writer.bind _ _ _ = _
    rw [Writer.bind, piece.write_eq, writeAllFresh]
    rcases piece.writeFresh marker ctx format sink with ⟨_ | _, sink⟩
    · rfl
    · exact ih sink

/-- **Variables are isolated from each other.**  Whatever the variables do, and whatever sink they write to,
every variable that an expansion calls is handed the format that the expansion started from; the expansion
leaves that format, however it ends; and it comes to the result and the sink of a run that keeps no format
at all and hands every variable a copy.  The same holds of expanding a text once, also when the text is
refused. -/
theorem expand_isolated (format : Format) :
    (∀ (t : Template (Evaluator σ γ)) (ctx : γ) (sink : σ),
      (∀ call ∈ t.calls ctx ⟨sink, format⟩, call.start.format = format) ∧
      t.expand ctx ⟨sink, format⟩ =
        ((t.expandFresh ctx format sink).1, ⟨(t.expandFresh ctx format sink).2, format⟩)) ∧
    ∀ (s : Substituter (Evaluator σ γ)) (text : String) (ctx : γ) (sink : σ),
      (∀ call ∈ s.calls text ctx ⟨sink, format⟩, call.start.format = format) ∧
      s.expand text ctx ⟨sink, format⟩ =
        ((s.expandFresh text ctx format sink).1, ⟨(s.expandFresh text ctx format sink).2, format⟩) := by
  have started (t : Template (Evaluator σ γ)) (ctx : γ) (sink : σ) :
      ∀ call ∈ t.calls ctx ⟨sink, format⟩, call.start.format = format :=
    fun _ mem => Piece.start_format_of_mem_calls (t.calls_eq ctx ⟨sink, format⟩ ▸ mem)
  have run (t : Template (Evaluator σ γ)) (ctx : γ) (sink : σ) :
      t.expand ctx ⟨sink, format⟩ =
        ((t.expandFresh ctx format sink).1, ⟨(t.expandFresh ctx format sink).2, format⟩) :=
    Piece.writeAll_eq t.marker ctx t.pieces sink format
  refine ⟨fun t ctx sink => ⟨started t ctx sink, run t ctx sink⟩, ?_⟩
  intro s text ctx sink
  unfold Substituter.expandFresh
  cases parsed : s.parse text with
  | error e =>
    rw [Substituter.calls_of_refused parsed, Substituter.expand_of_refused parsed]
    exact ⟨List.forall_mem_nil _, rfl⟩
  | ok t =>
    rw [Substituter.calls_of_parsed parsed, Substituter.expand_of_parsed parsed, run]
    exact ⟨started t ctx sink, rfl⟩

theorem expand_isolated_after_change :
    let wide : Evaluator Buffer Unit := fun _ => Writer.modifyFormat fun f => { f with width := 9 }
    let seven : Evaluator Buffer Unit := fun _ => Writer.put (.integer 7)
    let s : Substituter (Evaluator Buffer Unit) := ⟨{ lenient := true }, ⟨[("a", wide), ("b", seven)]⟩⟩
    let start : Output Buffer := ⟨.growing ByteArray.empty, { width := 2 }⟩
    ⟨"b", start⟩ ∈ s.calls "@a@b" () start ∧ (Call.mk "b" start).start.format = { width := 2 } ∧
      s.expand "@a@b" () start = (.ok (), ⟨.growing " 7".toUTF8, { width := 2 }⟩) := by
  intro wide seven s start
  have closed : ∀ l ∈ [.compact 'a', .compact 'b'], Lexeme.Closed s.marker l := by decide
  have read : lexemes s.marker "@a@b".toList = [.compact 'a', .compact 'b'] := lexemes_spell closed
  have pieces : (s.template "@a@b").pieces =
      [.literal "", .substitution ⟨0, 2, .reference "a" wide⟩, .literal "",
        .substitution ⟨2, 4, .reference "b" seven⟩, .literal ""] := by
    unfold Substituter.template Substituter.placed
    rw [read]
    rfl
  have fits (content data : ByteArray) :
      Sink.writeAll (Buffer.growing content) data = (.ok (), .growing (content ++ data)) :=
    Buffer.writeAll_of_fits rfl
  have silent : Piece.write s.marker () (.literal "") start = (.ok (), start) := by
    rw [Piece.write, Writer.text_empty]
    rfl
  have called : ⟨"b", start⟩ ∈ s.calls "@a@b" () start := by
    rw [Substituter.calls_of_parsed (s.parse_of_lenient rfl _), Template.calls_eq]
    change _ ∈ Piece.calls s.marker () start (s.template "@a@b").pieces
    have changed : Piece.write s.marker () (.substitution ⟨0, 2, .reference "a" wide⟩) start =
        (.ok (), start) := rfl
    simp only [pieces, Piece.calls, silent, changed]
    simp [Piece.call?]
  have printed (content : ByteArray) :
      seven () ⟨.growing content, { width := 2 }⟩ =
        (.ok (), ⟨.growing (content ++ " 7".toUTF8), { width := 2 }⟩) :=
    (Writer.put_eq (.integer 7) _).trans (Writer.bytes_growing _ _ _)
  obtain ⟨started, run⟩ := (expand_isolated { width := 2 }).2 s "@a@b" () start.sink
  refine ⟨called, started _ called, ?_⟩
  rw [run, Substituter.expandFresh, s.parse_of_lenient rfl]
  simp only [Template.expandFresh, pieces, Piece.writeAllFresh, Piece.writeFresh, start, fits, printed, wide,
    Writer.modifyFormat]
  rfl

end TextTemplate

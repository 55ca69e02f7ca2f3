import TextTemplate.Proofs.Conversion

/-!
Operations on an output, one after the other, whatever fails.

What an operation has to offer depends on the format at most, never on the buffer.  A buffer with a budget keeps the
start of all that was offered to it, as long as its budget; what failed, what was cut short and what was tried
again makes no difference to that.

* `Operation.run_eq`: what one operation does to the output.
* `Operation.after_eq`: what is left of an output after any operations.
* `attempts_limited`: each of the operations, over a buffer with a budget.
-/

namespace TextTemplate

/-- What can be done with an output.  What is written in fragments is written up to the first that does not
fit. -/
inductive Operation where
  /-- Print through the format. -/
  | put (fragments : Format → List String)
  /-- Write bytes as they stand. -/
  | whole (fragments : List ByteArray)
  /-- One write, which may take less than all. -/
  | single (data : ByteArray)
  | flush
  /-- Change the format. -/
  | change (f : Format → Format)

namespace Operation

/-- Does the operation; only a single write tells how much it took. -/
def run : Operation → Writer Buffer (Option Nat)
  | put fragments => do
    Writer.withFormat fun format => Writer.all ((fragments format).map Writer.text)
    pure none
  | whole fragments => do
    Writer.all (fragments.map Writer.bytes)
    pure none
  | single data => do
    let count ← Writer.single data
    pure (some count)
  | flush => do
    Writer.flush
    pure none
  | change f => do
    Writer.modifyFormat f
    pure none

/-- What the operation offers to its buffer. -/
def bytes (format : Format) : Operation → ByteArray
  | put fragments => (String.join (fragments format)).toUTF8
  | whole fragments => fragments.foldr (· ++ ·) ByteArray.empty
  | single data => data
  | flush | change _ => ByteArray.empty

def change? : Operation → Option (Format → Format)
  | change f => some f
  | _ => none

/-- The format after operations: all changes, one after the other. -/
def formatAfter (format : Format) (ops : List Operation) : Format :=
  (ops.filterMap change?).foldl (fun format f => f format) format

/-- All that operations offer to their buffer. -/
def offered (format : Format) : List Operation → ByteArray
  | [] => ByteArray.empty
  | op :: ops => op.bytes format ++ offered (formatAfter format [op]) ops

/-- Tries the operations in order; a failure does not stop the others. -/
def attempts (out : Output Buffer) : List Operation → List (Attempt Buffer)
  | [] => []
  | op :: ops =>
    let (result, out) := op.run out
    ⟨result, out⟩ :: attempts out ops

/-- What is left of an output after operations. -/
def after (out : Output Buffer) (ops : List Operation) : Output Buffer := ops.foldl (fun out op => (op.run out).2) out

/-- What an operation comes to that offers so many bytes to a buffer. -/
def result (sink : Buffer) (size : Nat) : Operation → Except IoError (Option Nat)
  | put _ | whole _ => if sink.accepts size = size then .ok none else .error .budgetExhausted
  | single _ =>
    if sink.accepts size = 0 ∧ size ≠ 0 then .error .budgetExhausted else .ok (some (sink.accepts size))
  | flush | change _ => .ok none

end Operation

/-- The fragments in which something is printed. -/
def Display.printed (d : Display) (f : Format) : List String :=
  if f.isPlain then d.fragments none false else [String.ofList (f.field (d.body f))]

/-- The action as an operation, if it asks for nothing else of the output. -/
def Action.operation? (ctx : Context) : Action → Option Operation
  | put v => some (.put v.display.printed)
  | putField slot name => some (.put (ctx.field slot name).display.printed)
  | text s => some (.whole [s.toUTF8])
  | bytes data => some (.whole [data])
  | plain v => some (.whole ((v.display.fragments none false).map String.toUTF8))
  | single s => some (.single s.toUTF8)
  | flush => some .flush
  | change c => some (.change c.apply)
  | replace format => some (.change fun _ => format)
  | showFormat => some (.put fun format => [format.record.line])
  | fail _ => none

/-! ### Buffers -/

namespace Buffer

/-- What is offered in two parts is kept as what is offered at once. -/
theorem after_append (sink : Buffer) (a b : ByteArray) : sink.after (a ++ b) = (sink.after a).after b := by
  rcases Nat.lt_or_eq_of_le (sink.accepts_le a.size) with cut | whole
  · have full : (sink.after a).after b = sink.after a := by
      rw [after, accepts_after_of_cut cut, ByteArray.extract_same, ByteArray.append_empty]
    rw [after_append_of_cut cut, full]
  · exact after_append_of_whole whole

/-- A buffer with a budget keeps the start of what it is offered. -/
theorem after_limited_eq (budget : Nat) (data : ByteArray) :
    (limited budget).after data = ⟨data.extract 0 budget, some budget⟩ := by
  have cut : (data.extract 0 data.size).extract 0 budget = _ := ByteArray.extract_extract
  rw [ByteArray.extract_zero_size, Nat.add_zero, Nat.zero_add] at cut
  rw [after_limited, cut]

/-- There is room for what the budget leaves. -/
theorem accepts_after_limited (budget : Nat) (data : ByteArray) (count : Nat) :
    ((limited budget).after data).accepts count = min count (budget - (data.extract 0 budget).size) := by
  rw [after_limited_eq]
  rfl

/-- More data fits if it is none, or if the budget is enough for all of it. -/
theorem accepts_after_limited_iff {budget : Nat} {a b : ByteArray} :
    ((limited budget).after a).accepts b.size = b.size ↔ b = ByteArray.empty ∨ (a ++ b).size ≤ budget := by
  rw [accepts_after_limited, ByteArray.size_extract, ByteArray.size_append, ← ByteArray.size_eq_zero_iff]
  omega

/-- Nothing of some data fits if there is no room at all. -/
theorem accepts_after_limited_eq_zero_iff {budget : Nat} {a b : ByteArray} :
    ((limited budget).after a).accepts b.size = 0 ∧ b.size ≠ 0 ↔
      budget - (a.extract 0 budget).size = 0 ∧ b ≠ ByteArray.empty := by
  rw [accepts_after_limited, Ne, Ne, ← ByteArray.size_eq_zero_iff]
  omega

end Buffer

/-! ### Fragments -/

theorem Writer.all_singleton (w : Writer Buffer Unit) : all [w] = w := bind_pure_unit

theorem Writer.print_eq_all (d : Display) :
    (print d : Writer Buffer Unit) = withFormat fun f => all ((d.printed f).map text) := by
  funext out
  change (if out.format.isPlain then plainly d else inField d) out = all ((d.printed out.format).map text) out
  unfold Display.printed
  by_cases plain : out.format.isPlain = true
  · rw [if_pos plain, if_pos plain]
    rfl
  · rw [if_neg plain, if_neg plain]
    exact (congrFun (all_singleton (text _)) out).symm

/-! ### One operation -/

namespace Operation

/-- Writing all of some bytes and telling nothing about it. -/
theorem run_of_writes {w : Writer Buffer Unit} {sink : Buffer} {format : Format} {data : ByteArray}
    (writes : w ⟨sink, format⟩ = Writer.bytes data ⟨sink, format⟩) :
    (do w; pure none : Writer Buffer (Option Nat)) ⟨sink, format⟩ =
      (if sink.accepts data.size = data.size then .ok none else .error .budgetExhausted,
        ⟨sink.after data, format⟩) := by
  rw [Writer.bind_apply, writes]
  simp only [Writer.bytes, Writer.onSink, Buffer.writeAll_eq]
  by_cases whole : sink.accepts data.size = data.size
  · rw [if_pos whole, if_pos whole]
    rfl
  · rw [if_neg whole, if_neg whole]

/-- A single write that tells how much was taken. -/
theorem run_single (data : ByteArray) (sink : Buffer) (format : Format) :
    run (single data) ⟨sink, format⟩ =
      (if sink.accepts data.size = 0 ∧ data.size ≠ 0 then .error .budgetExhausted
        else .ok (some (sink.accepts data.size)), ⟨sink.after data, format⟩) := by
  rw [run, Writer.bind_apply]
  simp only [Writer.single, Writer.onSink, Buffer.write_eq]
  by_cases full : sink.accepts data.size = 0 ∧ data.size ≠ 0
  · simp only [if_pos full]
  · simp only [if_neg full]
    rfl

/-- **What one operation does.**  The buffer keeps what it accepts of the bytes that are offered, and the format
changes whether they fit or not. -/
theorem run_eq (op : Operation) (sink : Buffer) (format : Format) :
    op.run ⟨sink, format⟩ =
      (op.result sink (op.bytes format).size, ⟨sink.after (op.bytes format), formatAfter format [op]⟩) := by
  cases op with
  | put fragments =>
    apply run_of_writes
    rw [Writer.withFormat, Writer.all_text]
    rfl
  | whole fragments =>
    apply run_of_writes
    rw [Writer.all_bytes]
    rfl
  | single data => exact run_single data sink format
  | flush =>
    rw [bytes, Buffer.after_empty]
    rfl
  | change f =>
    rw [bytes, Buffer.after_empty]
    rfl

/-- A buffer that grows takes everything. -/
theorem result_growing (op : Operation) (content : ByteArray) (size : Nat) :
    ∃ count, op.result (.growing content) size = .ok count := by
  cases op with
  | put fragments => exact ⟨none, if_pos rfl⟩
  | whole fragments => exact ⟨none, if_pos rfl⟩
  | single data => exact ⟨some size, if_neg fun full => full.2 full.1⟩
  | flush => exact ⟨none, rfl⟩
  | change f => exact ⟨none, rfl⟩

/-- Only what is printed depends on the format. -/
theorem bytes_congr {op : Operation} (unformatted : ∀ fragments, op ≠ .put fragments) (format format' : Format) :
    op.bytes format = op.bytes format' := by
  cases op with
  | put fragments => exact absurd rfl (unformatted fragments)
  | _ => rfl

/-! ### Operations in a row -/

theorem formatAfter_append (format : Format) (earlier later : List Operation) :
    formatAfter format (earlier ++ later) = formatAfter (formatAfter format earlier) later := by
  rw [formatAfter, List.filterMap_append, List.foldl_append]
  rfl

/-- **What is left of an output.**  The buffer has kept what it accepts of all that was offered to it in a row. -/
theorem after_eq (sink : Buffer) (format : Format) (ops : List Operation) :
    after ⟨sink, format⟩ ops = ⟨sink.after (offered format ops), formatAfter format ops⟩ := by
  induction ops generalizing sink format with
  | nil =>
    rw [offered, Buffer.after_empty]
    rfl
  | cons op ops ih =>
    -- The first operation leaves an output from which the others go on, whether it failed or not.
    have first : after ⟨sink, format⟩ (op :: ops) = after (op.run ⟨sink, format⟩).2 ops := rfl
    rw [first, run_eq, ih, offered, Buffer.after_append, ← formatAfter_append]
    rfl

/-- An operation is tried on what the earlier ones left. -/
theorem getElem?_attempts (out : Output Buffer) (earlier : List Operation) (op : Operation) (later : List Operation) :
    (attempts out (earlier ++ op :: later))[earlier.length]? =
      some ⟨(op.run (after out earlier)).1, (op.run (after out earlier)).2⟩ := by
  induction earlier generalizing out with
  | nil => rfl
  | cons first earlier ih =>
    rw [List.cons_append, attempts, List.length_cons, List.getElem?_cons_succ]
    exact ih _

/-- An attempt gives what the operation comes to on what the buffer kept of all that was offered before. -/
theorem attempt_eq (sink : Buffer) (format : Format) (earlier : List Operation) (op : Operation)
    (later : List Operation) :
    let current := formatAfter format earlier
    let before := offered format earlier
    (attempts ⟨sink, format⟩ (earlier ++ op :: later))[earlier.length]? =
      some ⟨op.result (sink.after before) (op.bytes current).size,
        ⟨sink.after (before ++ op.bytes current), formatAfter format (earlier ++ [op])⟩⟩ := by
  intro current before
  rw [getElem?_attempts, after_eq, run_eq, Buffer.after_append, formatAfter_append]

end Operation

/-! ### Actions -/

/-- An action does what it does as an operation. -/
theorem Action.run_of_operation? {ctx : Context} {action : Action} {op : Operation}
    (same : action.operation? ctx = some op) : action.run ctx = op.run := by
  cases action with
  | put v =>
    cases same
    rw [run, Operation.run, Writer.put, Writer.print_eq_all]
  | putField slot name =>
    cases same
    rw [run, Operation.run, Writer.put, Writer.print_eq_all]
  | text s =>
    cases same
    rw [run, Operation.run, List.map_singleton, Writer.all_singleton]
    rfl
  | bytes data =>
    cases same
    rw [run, Operation.run, List.map_singleton, Writer.all_singleton]
  | plain v =>
    cases same
    rw [run, Operation.run, Writer.plainly, List.map_map]
    rfl
  | showFormat =>
    cases same
    simp only [run, Operation.run, List.map_singleton, Writer.all_singleton]
    rfl
  | single s => cases same; rfl
  | flush => cases same; rfl
  | change c => cases same; rfl
  | replace format => cases same; rfl
  | fail message => cases same

/-- Actions that are operations are tried as operations. -/
theorem attempts_eq_operations {ctx : Context} {actions : List Action} {ops : List Operation}
    (same : actions.map (·.operation? ctx) = ops.map some) (out : Output Buffer) :
    attempts ctx out actions = Operation.attempts out ops := by
  induction actions generalizing ops out with
  | nil =>
    obtain rfl := List.map_eq_nil_iff.1 same.symm
    rfl
  | cons action actions ih =>
    cases ops with
    | nil => cases same
    | cons op ops =>
      obtain ⟨first, rest⟩ := List.cons.inj same
      simp only [attempts, Operation.attempts, Action.run_of_operation? first, ih rest]

/-- **Operations over a buffer with a budget**, whatever they are, whatever the format is at the start and whatever
fails.  An operation has bytes to offer that depend on the format only if they are printed through it: on the
format that all changes before it lead to, for changes take effect whatever the buffer is and whichever writes
failed.  To a buffer that grows all that is offered is appended, and every operation succeeds.  After any operation
a buffer with a budget holds just the start of all that was offered until then, as long as the budget or shorter,
so that it never holds more than it has budget for.  What is printed or written as a whole succeeds exactly if it
is nothing or if all that was offered until then fits the budget, and fails for lack of room otherwise.  A single
write takes as much as there is room for, and fails for lack of it exactly if there is none and something to
write.  Lists of actions are tried as the operations that they stand for. -/
theorem attempts_limited (budget : Nat) (format : Format) (earlier : List Operation) (op : Operation)
    (later : List Operation) :
    let ops := earlier ++ op :: later
    let attempt (sink : Buffer) := (Operation.attempts ⟨sink, format⟩ ops)[earlier.length]?
    let before := Operation.offered format earlier
    let bytes := op.bytes (Operation.formatAfter format earlier)
    let held := (before ++ bytes).extract 0 budget
    let final := Operation.formatAfter format (earlier ++ [op])
    (∃ result, attempt (.limited budget) = some ⟨result, ⟨⟨held, some budget⟩, final⟩⟩ ∧ held.size ≤ budget ∧
      match op with
      | .put _ | .whole _ =>
        result =
          if bytes = ByteArray.empty ∨ (before ++ bytes).size ≤ budget then .ok none else .error .budgetExhausted
      | .single _ =>
        let room := budget - (before.extract 0 budget).size
        result =
          if room = 0 ∧ bytes ≠ ByteArray.empty then .error .budgetExhausted else .ok (some (min bytes.size room))
      | .flush | .change _ => bytes = ByteArray.empty ∧ result = .ok none) ∧
    (∀ content, ∃ count, attempt (.growing content) =
      some ⟨.ok count, ⟨.growing (content ++ (before ++ bytes)), final⟩⟩) ∧
    (∀ sink, (attempt sink).map (·.output.format) = some final) ∧
    ((∀ fragments, op ≠ .put fragments) → ∀ other, op.bytes other = bytes) ∧
    ∀ ctx actions, actions.map (·.operation? ctx) = ops.map some →
      ∀ out, attempts ctx out actions = Operation.attempts out ops := by
  intro ops attempt before bytes held final
  have tried (sink : Buffer) :
      attempt sink = some ⟨op.result (sink.after before) bytes.size, ⟨sink.after (before ++ bytes), final⟩⟩ :=
    Operation.attempt_eq sink format earlier op later
  refine ⟨?limited, ?growing, ?formats, ?unformatted, ?actions⟩
  case limited =>
    refine ⟨op.result ((Buffer.limited budget).after before) bytes.size, ?_, ?_, ?_⟩
    · rw [tried, Buffer.after_limited_eq budget (before ++ bytes)]
    · rw [ByteArray.size_extract]
      omega
    · cases op with
      | put fragments => exact if_congr Buffer.accepts_after_limited_iff rfl rfl
      | whole fragments => exact if_congr Buffer.accepts_after_limited_iff rfl rfl
      | single data =>
        refine if_congr Buffer.accepts_after_limited_eq_zero_iff rfl ?_
        rw [Buffer.accepts_after_limited]
      | flush => exact ⟨rfl, rfl⟩
      | change f => exact ⟨rfl, rfl⟩
  case growing =>
    intro content
    obtain ⟨count, succeeds⟩ := op.result_growing (content ++ before) bytes.size
    refine ⟨count, ?_⟩
    rw [tried, Buffer.after_growing, Buffer.after_growing, succeeds]
  case formats =>
    intro sink
    rw [tried]
    rfl
  case unformatted =>
    intro unformatted other
    exact Operation.bytes_congr unformatted _ _
  case actions =>
    intro ctx actions same out
    exact attempts_eq_operations same out

/-- A single write is cut short, then there is no room for a value, and then nothing is written at no room. -/
theorem attempts_limited_without_room :
    let ctx : Context := ⟨[], .untouched⟩
    let actions : List Action :=
      [.text "ab", .change { width := some 2 }, .single "cd", .put (.char 'x'), .text ""]
    let tried := attempts ctx ⟨.limited 3, {}⟩ actions
    let left : Output Buffer := ⟨⟨"abc".toUTF8, some 3⟩, { width := 2 }⟩
    tried[2]? = some ⟨.ok (some 1), left⟩ ∧ tried[3]? = some ⟨.error .budgetExhausted, left⟩ ∧
      tried[4]? = some ⟨.ok none, left⟩ := by
  intro ctx actions tried left
  let wide : List Operation := [.whole ["ab".toUTF8], .change (FormatChange.apply { width := some 2 })]
  let cut : Operation := .single "cd".toUTF8
  let full : Operation := .put (Value.char 'x').display.printed
  let nothing : Operation := .whole ["".toUTF8]
  obtain ⟨⟨_, atCut, -, short⟩, -, -, -, link⟩ := attempts_limited 3 {} wide cut [full, nothing]
  obtain ⟨⟨_, atFull, -, failed⟩, -⟩ := attempts_limited 3 {} (wide ++ [cut]) full [nothing]
  obtain ⟨⟨_, atNothing, -, done⟩, -⟩ := attempts_limited 3 {} (wide ++ [cut, full]) nothing []
  have asOperations : tried = Operation.attempts ⟨.limited 3, {}⟩ (wide ++ [cut, full, nothing]) :=
    link ctx actions rfl _
  have left_eq {result : Except IoError (Option Nat)} {content : ByteArray} {format : Format}
      (held : content = "abc".toUTF8) (changed : format = { width := 2 }) :
      some (Attempt.mk result ⟨⟨content, some 3⟩, format⟩) = some ⟨result, left⟩ := by
    rw [held, changed]
  have room : min (cut.bytes (Operation.formatAfter {} wide)).size
      (3 - ((Operation.offered {} wide).extract 0 3).size) = 1 := by decide +kernel
  have took := short.trans (if_neg (by decide +kernel))
  have refused := failed.trans (if_neg (by decide +kernel))
  have wrote := done.trans (if_pos (.inl rfl))
  rw [took, room] at atCut
  rw [refused] at atFull
  rw [wrote] at atNothing
  rw [asOperations]
  refine ⟨?_, ?_, ?_⟩
  · exact atCut.trans (left_eq (by decide +kernel) rfl)
  · exact atFull.trans (left_eq (by decide +kernel) rfl)
  · exact atNothing.trans (left_eq (by decide +kernel) rfl)

end TextTemplate

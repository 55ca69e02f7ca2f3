import TextTemplate.Proofs.Padding
import TextTemplate.Binding

/-!
What a computation offers to its buffer.

A computation that never leaves a write half done has bytes of its own to offer, whatever its buffer holds.  A
buffer with room for all of them takes them all.  Any other keeps what fits, and the lack of room ends the
computation before anything else can.

* `Writer.Offers.bind_ok`, `Writer.Offers.bind_error`: what computations in a row offer.
* `Binding.streams_of_evaluator?`: every binding without single writes offers bytes of its own.
-/

namespace TextTemplate

namespace Buffer

@[simp] theorem after_empty (sink : Buffer) : sink.after ByteArray.empty = sink := by
  have whole : sink.accepts ByteArray.empty.size = ByteArray.empty.size :=
    Nat.le_zero.1 (sink.accepts_le _)
  rw [after, whole, ByteArray.extract_zero_size, ByteArray.append_empty]

theorem after_growing (content data : ByteArray) :
    (growing content).after data = growing (content ++ data) := by
  rw [after, accepts_growing, ByteArray.extract_zero_size]
  rfl

theorem accepts_limited (budget count : Nat) : (limited budget).accepts count = min budget count := by
  simp [accepts, limited, Nat.min_comm]

theorem after_limited (budget : Nat) (data : ByteArray) :
    (limited budget).after data = ⟨data.extract 0 (min budget data.size), some budget⟩ := by
  rw [after, accepts_limited]
  simp [limited]

end Buffer

namespace Writer

variable {α β : Type} {format middle final : Format}

/-- From `format` on, the computation offers `bytes` to its buffer, whatever that holds.  If they fit it comes
to `result` and leaves the format `final`; if they do not, it fails for that, and the buffer keeps what
fits. -/
structure Offers (w : Writer Buffer α) (format : Format) (result : Except IoError α) (bytes : ByteArray)
    (final : Format) : Prop where
  fits (sink : Buffer) : sink.accepts bytes.size = bytes.size →
    w ⟨sink, format⟩ = (result, ⟨sink.after bytes, final⟩)
  exceeds (sink : Buffer) : sink.accepts bytes.size < bytes.size →
    ∃ cut, w ⟨sink, format⟩ = (.error .budgetExhausted, ⟨sink.after bytes, cut⟩)

/-- The computation offers bytes that do not depend on its buffer. -/
def Streams (w : Writer Buffer α) : Prop := ∀ format, ∃ result bytes final, w.Offers format result bytes final

/-! ### Single computations -/

/-- A computation that leaves every buffer alone offers nothing. -/
theorem offers_empty {w : Writer Buffer α} {result : Except IoError α}
    (silent : ∀ sink, w ⟨sink, format⟩ = (result, ⟨sink, final⟩)) :
    w.Offers format result ByteArray.empty final where
  fits _ _ := by rw [silent, Buffer.after_empty]
  exceeds _ short := absurd short (Nat.not_lt_zero _)

theorem offers_bytes (data : ByteArray) (format : Format) :
    (bytes data : Writer Buffer Unit).Offers format (.ok ()) data format where
  fits _ fit := by simp only [bytes, onSink, Buffer.writeAll_eq, if_pos fit]
  exceeds _ short := ⟨format, by simp only [bytes, onSink, Buffer.writeAll_eq, if_neg (Nat.ne_of_lt short)]⟩

/-- What is printed in a format is a text like any other. -/
theorem offers_of_prints {w : Writer Buffer Unit} {s : String}
    (prints : ∀ sink, w ⟨sink, format⟩ = text s ⟨sink, format⟩) :
    w.Offers format (.ok ()) s.toUTF8 format where
  fits sink fit := by
    rw [prints]
    exact (offers_bytes _ format).fits sink fit
  exceeds sink short := by
    rw [prints]
    exact (offers_bytes _ format).exceeds sink short

theorem offers_pure (a : α) (format : Format) :
    (pure a : Writer Buffer α).Offers format (.ok a) ByteArray.empty format := offers_empty fun _ => rfl

/-- The format decides what is printed of a value. -/
theorem offers_put (v : Value) (format : Format) :
    (put v).Offers format (.ok ()) (format.printed v).toUTF8 format := offers_of_prints fun _ => put_eq v _

theorem streams_pure (a : α) : (pure a : Writer Buffer α).Streams := fun format => ⟨_, _, _, offers_pure a format⟩

theorem streams_bytes (data : ByteArray) : (bytes data).Streams :=
  fun format => ⟨_, _, _, offers_bytes data format⟩

theorem streams_text (s : String) : (text s).Streams := streams_bytes _

theorem streams_plainly (d : Display) : (plainly d).Streams := by
  rw [plainly_eq]
  exact streams_text _

theorem streams_put (v : Value) : (put v).Streams := fun format => ⟨_, _, _, offers_put v format⟩

theorem streams_showFormat : showFormat.Streams :=
  fun format => ⟨_, _, _, offers_of_prints (s := format.record.line) fun _ => rfl⟩

theorem streams_flush : flush.Streams := fun format => ⟨_, _, format, offers_empty fun _ => rfl⟩

theorem streams_modifyFormat (f : Format → Format) : (modifyFormat f).Streams :=
  fun format => ⟨_, _, f format, offers_empty fun _ => rfl⟩

theorem streams_fail (e : IoError) : (fail e : Writer Buffer α).Streams :=
  fun format => ⟨_, _, format, offers_empty fun _ => rfl⟩

/-! ### Computations in a row -/

theorem Offers.bind_error {w : Writer Buffer α} {next : α → Writer Buffer β} {e : IoError} {data : ByteArray}
    (failed : w.Offers format (.error e) data final) :
    (w >>= next).Offers format (.error e) data final where
  fits _ fit := by rw [bind_apply, failed.fits _ fit]
  exceeds _ short := by
    obtain ⟨cut, stopped⟩ := failed.exceeds _ short
    exact ⟨cut, by rw [bind_apply, stopped]⟩

/-- Both parts fit if the first fits and the second fits behind it; and if the first does not fit, the
second never begins. -/
theorem Offers.bind_ok {w : Writer Buffer α} {next : α → Writer Buffer β} {a : α} {result : Except IoError β}
    {first second : ByteArray} (ran : w.Offers format (.ok a) first middle)
    (went : (next a).Offers middle result second final) :
    (w >>= next).Offers format result (first ++ second) final := by
  constructor
  · intro sink fit
    rw [ByteArray.size_append, Buffer.accepts_add] at fit
    have room := sink.accepts_le first.size
    have room' := (sink.after first).accepts_le second.size
    have whole : sink.accepts first.size = first.size := by omega
    rw [bind_apply, ran.fits _ whole, Buffer.after_append_of_whole whole]
    exact went.fits _ (by omega)
  · intro sink short
    rcases Nat.lt_or_eq_of_le (sink.accepts_le first.size) with cut | whole
    · obtain ⟨left, stopped⟩ := ran.exceeds _ cut
      exact ⟨left, by rw [bind_apply, stopped, Buffer.after_append_of_cut cut]⟩
    · rw [ByteArray.size_append, Buffer.accepts_add] at short
      obtain ⟨left, stopped⟩ := went.exceeds (sink.after first) (by omega)
      exact ⟨left, by rw [bind_apply, ran.fits _ whole, Buffer.after_append_of_whole whole]; exact stopped⟩

theorem Streams.bind {w : Writer Buffer α} {next : α → Writer Buffer β} (first : w.Streams)
    (second : ∀ a, (next a).Streams) : (w >>= next).Streams := by
  intro format
  obtain ⟨result, bytes, middle, ran⟩ := first format
  cases result with
  | error e => exact ⟨_, _, _, ran.bind_error⟩
  | ok a =>
    obtain ⟨result', bytes', final, went⟩ := second a middle
    exact ⟨_, _, _, ran.bind_ok went⟩

theorem streams_all {ws : List (Writer Buffer Unit)} (each : ∀ w ∈ ws, w.Streams) : (all ws).Streams :=
  all_induction (streams_pure ()) (fun first second => first.bind fun _ => second) each

/-- The format that a computation leaves does not count for what it offers. -/
theorem Streams.isolated {w : Writer Buffer α} (streams : w.Streams) : (isolated w).Streams := by
  intro format
  obtain ⟨result, bytes, final, offers⟩ := streams format
  refine ⟨result, bytes, format, ?_, ?_⟩
  · intro sink fit
    simp only [Writer.isolated, offers.fits _ fit]
  · intro sink short
    obtain ⟨cut, stopped⟩ := offers.exceeds _ short
    exact ⟨format, by simp only [Writer.isolated, stopped]⟩

end Writer

/-! ### Bindings -/

/-- The action is one write, which may take less than all. -/
def Action.isSingle : Action → Bool
  | single _ => true
  | _ => false

/-- The binding never leaves it at one write that may take less than all. -/
def Binding.writesWhole : Binding → Bool
  | custom actions => actions.all fun action => !action.isSingle
  | value _ | field _ _ | shared _ => true

theorem Action.streams_run {action : Action} (whole : action.isSingle = false) (ctx : Context) :
    (action.run ctx).Streams := by
  have quiet {α : Type} {w : Writer Buffer α} (first : w.Streams) :
      (do let _ ← w; pure none : Writer Buffer (Option Nat)).Streams := first.bind fun _ => Writer.streams_pure _
  cases action with
  | put v => exact quiet (Writer.streams_put v)
  | putField slot name => exact quiet (Writer.streams_put _)
  | text s => exact quiet (Writer.streams_text s)
  | bytes data => exact quiet (Writer.streams_bytes data)
  | plain v => exact quiet (Writer.streams_plainly _)
  | single s => cases whole
  | flush => exact quiet Writer.streams_flush
  | change c => exact quiet (Writer.streams_modifyFormat _)
  | replace f => exact quiet (Writer.streams_modifyFormat _)
  | showFormat => exact quiet Writer.streams_showFormat
  | fail message => exact Writer.streams_fail _

/-- **Every binding offers bytes of its own**, if none of its actions is a single write. -/
theorem Binding.streams_of_evaluator? {shape : Shape} {binding : Binding} {eval : Evaluator Buffer Context}
    (whole : binding.writesWhole = true) (defined : binding.evaluator? shape = some eval)
    (ctx : Context) : (eval ctx).Streams := by
  cases binding with
  | value v =>
    cases defined
    exact Writer.streams_put v
  | field accessor name =>
    obtain ⟨slot, -, rfl⟩ := Option.map_eq_some_iff.1 defined
    exact Writer.streams_put _
  | shared cell =>
    cases defined
    exact Writer.streams_put _
  | custom actions =>
    cases defined
    refine Writer.streams_all fun w mem => ?_
    obtain ⟨action, listed, rfl⟩ := List.mem_map.1 mem
    have notSingle := List.all_eq_true.1 whole action listed
    rw [Bool.not_eq_true'] at notSingle
    exact (action.streams_run notSingle ctx).bind fun _ => Writer.streams_pure ()

end TextTemplate

import TextTemplate.IoError

/-!
Where bytes are written.

A sink is any state together with what a single write does to it.  A write may take less than it is offered;
writing all goes on until everything is taken, or until the sink fails or takes nothing more.  A buffer is
the sink that keeps what it takes: all that it is offered, or only so much.

* `Sink.writeAll_of_taken`, `Sink.writeAll_of_refused`, `Sink.writeAll_of_failed`: one round of writing all.
* `Buffer.writeAll_of_fits`, `Buffer.writeAll_of_exceeds`: what does not fit a buffer is lost and the rest is
  kept.
-/

namespace TextTemplate

/-- Bytes are compared as the core library compares them. -/
instance instDecidableEqBytes : DecidableEq ByteArray := ByteArray.instDecidableEq

/-- A state that takes bytes.  A failure is final: nothing is tried again because of it. -/
class Sink (σ : Type) where
  /-- A single write, with the number of bytes that were taken. -/
  write (sink : σ) (data : ByteArray) : Except IoError Nat × σ
  flush (sink : σ) : Except IoError Unit × σ
  /-- No more is taken than was offered. -/
  write_le {sink after : σ} {data : ByteArray} {count : Nat} :
    write sink data = (.ok count, after) → count ≤ data.size

namespace Sink

variable {σ : Type} [Sink σ] {sink after : σ} {data : ByteArray}

/-- Writes until all is taken. -/
def writeAll (sink : σ) (data : ByteArray) : Except IoError Unit × σ :=
  if data.size = 0 then (.ok (), sink)
  else
    match write sink data with
    | (.error e, sink) => (.error e, sink)
    | (.ok 0, sink) => (.error .nothingTaken, sink)
    | (.ok (count + 1), sink) => writeAll sink (data.extract (count + 1) data.size)
termination_by data.size
decreasing_by
  simp only [ByteArray.size_extract]
  omega

/-- Nothing is offered to the sink if there is nothing to write. -/
theorem writeAll_of_empty (sink : σ) (empty : data.size = 0) : writeAll sink data = (.ok (), sink) := by
  rw [writeAll, if_pos empty]

theorem writeAll_of_failed {e : IoError} (nonempty : data.size ≠ 0) (failed : write sink data = (.error e, after)) :
    writeAll sink data = (.error e, after) := by
  rw [writeAll, if_neg nonempty, failed]

/-- A sink that takes nothing is not asked again. -/
theorem writeAll_of_refused (nonempty : data.size ≠ 0) (refused : write sink data = (.ok 0, after)) :
    writeAll sink data = (.error .nothingTaken, after) := by
  rw [writeAll, if_neg nonempty, refused]

/-- Writing goes on with what was not taken. -/
theorem writeAll_of_taken {count : Nat} (nonempty : data.size ≠ 0) (some_taken : count ≠ 0)
    (taken : write sink data = (.ok count, after)) :
    writeAll sink data = writeAll after (data.extract count data.size) := by
  obtain ⟨less, rfl⟩ := Nat.exists_eq_succ_of_ne_zero some_taken
  rw [writeAll, if_neg nonempty, taken]

end Sink

/-- A sink that keeps what it takes. -/
structure Buffer where
  content : ByteArray
  /-- How many bytes the buffer takes in all, if there is a limit. -/
  budget : Option Nat
deriving DecidableEq

namespace Buffer

/-- An unlimited buffer that holds `content`. -/
def growing (content : ByteArray) : Buffer := ⟨content, none⟩

/-- An empty buffer that takes `budget` bytes. -/
def limited (budget : Nat) : Buffer := ⟨ByteArray.empty, some budget⟩

/-- How many of `count` bytes find room. -/
def accepts (buffer : Buffer) (count : Nat) : Nat :=
  match buffer.budget with
  | none => count
  | some budget => min count (budget - buffer.content.size)

/-- The buffer takes what fits, and fails when there is something to write and no room at all. -/
def write (buffer : Buffer) (data : ByteArray) : Except IoError Nat × Buffer :=
  let count := buffer.accepts data.size
  if count = 0 ∧ data.size ≠ 0 then (.error .budgetExhausted, buffer)
  else (.ok count, { buffer with content := buffer.content ++ data.extract 0 count })

theorem accepts_le (buffer : Buffer) (count : Nat) : buffer.accepts count ≤ count := by
  unfold accepts
  split <;> omega

instance : Sink Buffer where
  write := write
  flush buffer := (.ok (), buffer)
  write_le {buffer after data count} taken := by
    unfold write at taken
    simp only at taken
    split at taken
    · cases taken
    · cases taken
      exact buffer.accepts_le data.size

theorem write_of_room {buffer : Buffer} {data : ByteArray} (room : buffer.accepts data.size ≠ 0) :
    Sink.write buffer data =
      (.ok (buffer.accepts data.size),
        { buffer with content := buffer.content ++ data.extract 0 (buffer.accepts data.size) }) :=
  if_neg fun full => room full.1

theorem writeAll_of_fits {buffer : Buffer} {data : ByteArray} (fits : buffer.accepts data.size = data.size) :
    Sink.writeAll buffer data = (.ok (), { buffer with content := buffer.content ++ data }) := by
  by_cases empty : data.size = 0
  · rw [Sink.writeAll_of_empty buffer empty, ByteArray.size_eq_zero_iff.1 empty, ByteArray.append_empty]
  · have written := write_of_room (fits ▸ empty)
    rw [fits, ByteArray.extract_zero_size] at written
    rw [Sink.writeAll_of_taken empty empty written]
    exact Sink.writeAll_of_empty _ (by simp)

theorem writeAll_of_full {buffer : Buffer} {data : ByteArray} (full : buffer.accepts data.size = 0)
    (nonempty : data.size ≠ 0) : Sink.writeAll buffer data = (.error .budgetExhausted, buffer) :=
  Sink.writeAll_of_failed nonempty (if_pos ⟨full, nonempty⟩)

theorem writeAll_of_exceeds {buffer : Buffer} {data : ByteArray}
    (exceeds : buffer.accepts data.size < data.size) :
    Sink.writeAll buffer data =
      (.error .budgetExhausted,
        { buffer with content := buffer.content ++ data.extract 0 (buffer.accepts data.size) }) := by
  have nonempty : data.size ≠ 0 := by omega
  rcases Nat.eq_zero_or_pos (buffer.accepts data.size) with full | room
  · rw [full, ByteArray.extract_same, ByteArray.append_empty]
    exact writeAll_of_full full nonempty
  · -- What fits is taken in one write, and then there is no room for the rest.
    have some_room := Nat.ne_of_gt room
    rw [Sink.writeAll_of_taken nonempty some_room (write_of_room some_room)]
    apply writeAll_of_full
    · unfold accepts at exceeds room ⊢
      split at exceeds
      · omega
      · rename_i budget limited
        simp only [limited, ByteArray.size_append, ByteArray.size_extract] at exceeds room ⊢
        omega
    · simp only [ByteArray.size_extract]
      omega

end Buffer
end TextTemplate

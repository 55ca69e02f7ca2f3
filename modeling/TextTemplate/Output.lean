import TextTemplate.Sink
import TextTemplate.Format

/-!
A sink together with the format in which values are printed to it, and the computations that write.

A computation that fails keeps what was written before; the sequence of two stops at the first failure.

* `Writer.bind_apply`: a sequence goes on from where its first part leaves off.
-/

namespace TextTemplate

structure Output (σ : Type) where
  sink : σ
  format : Format
deriving DecidableEq

/-- A computation that writes to a sink of the kind `σ`, may change the format, and may fail. -/
def Writer (σ α : Type) : Type := Output σ → Except IoError α × Output σ

namespace Writer

variable {σ α β : Type}

protected def pure (a : α) : Writer σ α := fun out => (.ok a, out)

protected def bind (w : Writer σ α) (next : α → Writer σ β) : Writer σ β := fun out =>
  match w out with
  | (.ok a, out) => next a out
  | (.error e, out) => (.error e, out)

instance : Monad (Writer σ) where
  pure := Writer.pure
  bind := Writer.bind

instance : LawfulMonad (Writer σ) := LawfulMonad.mk' (Writer σ)
  (fun w => by
    funext out
    change Writer.bind w Writer.pure out = w out
    unfold Writer.bind
    split <;> simp_all [Writer.pure])
  (fun _ _ => rfl)
  (fun w f g => by
    funext out
    change Writer.bind (Writer.bind w f) g out = Writer.bind w (fun a => Writer.bind (f a) g) out
    unfold Writer.bind
    rcases w out with ⟨_ | _, _⟩ <;> rfl)

/-- A sequence runs its second part from where the first leaves off, unless the first fails. -/
theorem bind_apply (w : Writer σ α) (next : α → Writer σ β) (out : Output σ) :
    (w >>= next) out =
      match w out with
      | (.ok a, out) => next a out
      | (.error e, out) => (.error e, out) := rfl

def fail (e : IoError) : Writer σ α := fun out => (.error e, out)

/-- Runs computations in order up to the first that fails. -/
def all : List (Writer σ Unit) → Writer σ Unit
  | [] => pure ()
  | w :: ws => do
    w
    all ws

/-- Changes the format. -/
def modifyFormat (f : Format → Format) : Writer σ Unit := fun ⟨sink, format⟩ =>
  (.ok (), ⟨sink, f format⟩)

/-- Does what depends on the current format. -/
def withFormat (next : Format → Writer σ α) : Writer σ α := fun out => next out.format out

/-- Runs a computation and puts the format back that was there before it, whether it fails or not. -/
def isolated (w : Writer σ α) : Writer σ α := fun out =>
  let format := out.format
  let (result, out) := w out
  (result, { out with format })

/-- Does something with the sink alone. -/
def onSink (f : σ → Except IoError α × σ) : Writer σ α := fun ⟨sink, format⟩ =>
  let (result, sink) := f sink
  (result, ⟨sink, format⟩)

variable [Sink σ]

/-- Writes all of the bytes, whatever the format. -/
def bytes (data : ByteArray) : Writer σ Unit := onSink (Sink.writeAll · data)

/-- Writes a text as it stands, whatever the format. -/
def text (s : String) : Writer σ Unit := bytes s.toUTF8

/-- A single write of bytes, with the number that were taken. -/
def single (data : ByteArray) : Writer σ Nat := onSink (Sink.write · data)

def flush : Writer σ Unit := onSink Sink.flush

/-- Writes the text of something as it comes, fragment by fragment. -/
def plainly (d : Display) : Writer σ Unit := all ((d.fragments none false).map text)

/-- Writes the text of something in a field, at once. -/
def inField (d : Display) : Writer σ Unit := withFormat fun f => text (String.ofList (f.field (d.body f)))

/-- Prints through the current format. -/
def print (d : Display) : Writer σ Unit := withFormat fun f => if f.isPlain then plainly d else inField d

/-- Prints a value through the current format. -/
def put (v : Value) : Writer σ Unit := print v.display

/-- Writes the current format in record notation. -/
def showFormat : Writer σ Unit := withFormat fun f => text f.record.line

end Writer
end TextTemplate

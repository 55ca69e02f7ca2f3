import TextTemplate.Output
import TextTemplate.Context

/-!
The single things that can be done with an output, as data.
-/

namespace TextTemplate

inductive Action where
  /-- Print a value through the format. -/
  | put (v : Value)
  /-- Print a field of the context through the format. -/
  | putField (slot : Nat) (name : String)
  /-- Write a text as it stands. -/
  | text (s : String)
  /-- Write bytes as they stand. -/
  | bytes (data : ByteArray)
  /-- Write the plain text of a value, whatever the format. -/
  | plain (v : Value)
  /-- One write, which may take less than all. -/
  | single (s : String)
  | flush
  /-- Change some settings of the format. -/
  | change (change : FormatChange)
  /-- Take another format. -/
  | replace (format : Format)
  /-- Write the format in record notation. -/
  | showFormat
  | fail (message : String)
deriving DecidableEq

namespace Action

variable {σ : Type} [Sink σ]

/-- Does the action; only a single write tells how much it took. -/
def run (action : Action) (ctx : Context) : Writer σ (Option Nat) :=
  match action with
  | put v => do Writer.put v; pure none
  | putField slot name => do Writer.put (ctx.field slot name); pure none
  | text s => do Writer.text s; pure none
  | bytes data => do Writer.bytes data; pure none
  | plain v => do Writer.plainly v.display; pure none
  | single s => do let count ← Writer.single s.toUTF8; pure (some count)
  | flush => do Writer.flush; pure none
  | change c => do Writer.modifyFormat c.apply; pure none
  | replace format => do Writer.modifyFormat fun _ => format; pure none
  | showFormat => do Writer.showFormat; pure none
  | fail message => Writer.fail (.failed message)

/-- Does the actions in order, up to the first that fails. -/
def runAll (actions : List Action) (ctx : Context) : Writer σ Unit :=
  Writer.all (actions.map fun action => do let _ ← action.run ctx; pure ())

end Action

/-- An attempted action: what came of it, and the output after it. -/
structure Attempt (σ : Type) where
  result : Except IoError (Option Nat)
  output : Output σ

/-- Tries the actions in order; a failure does not stop the others. -/
def attempts {σ : Type} [Sink σ] (ctx : Context) : Output σ → List Action → List (Attempt σ)
  | _, [] => []
  | out, action :: actions =>
    let (result, out) := action.run ctx out
    ⟨result, out⟩ :: attempts ctx out actions

end TextTemplate

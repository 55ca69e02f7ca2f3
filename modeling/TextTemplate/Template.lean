import TextTemplate.Output
import TextTemplate.Diagnostic

/-!
A template: a text cut into literal parts and substitutions, ready to be expanded.

The cut is made once.  Expanding writes the pieces in order: literal text as it stands, one marker for an
escape, whatever its evaluator writes for a variable, and nothing for an omitted reference.

* `Template.expand_format`: expanding leaves the format as it was.
-/

namespace TextTemplate

/-- What a variable writes to a sink of the kind `σ`, given a context. -/
abbrev Evaluator (σ γ : Type) : Type := γ → Writer σ Unit

/-- What stands in place of a part of the text; names stand for members of `ε`. -/
inductive Replacement (ε : Type) where
  /-- One marker. -/
  | marker
  /-- What the named variable writes. -/
  | reference (name : String) (eval : ε)
  /-- Nothing: a reference to an undefined name. -/
  | omitted

/-- A part of the text that is replaced, between two byte offsets. -/
structure Substitution (ε : Type) where
  start : Nat
  stop : Nat
  replacement : Replacement ε

/-- The place of a substitution that was asked for, with the name of its variable; an escape has none. -/
structure Span where
  start : Nat
  stop : Nat
  name : Option String
deriving DecidableEq, Repr

/-- A part of a template, as it is expanded. -/
inductive Piece (ε : Type) where
  | literal (text : String)
  | substitution (substitution : Substitution ε)

structure Template (ε : Type) where
  text : String
  marker : Marker
  pieces : List (Piece ε)
  /-- The problems that were tolerated. -/
  diagnostics : List Diagnostic

variable {ε : Type}

/-- The variable `name` stands there. -/
def Replacement.refersTo (r : Replacement ε) (name : String) : Bool :=
  match r with
  | reference other _ => other = name
  | marker | omitted => false

/-- Omitted references have no span. -/
def Substitution.span? (s : Substitution ε) : Option Span :=
  match s.replacement with
  | .marker => some ⟨s.start, s.stop, none⟩
  | .reference name _ => some ⟨s.start, s.stop, some name⟩
  | .omitted => none

def Span.record (s : Span) : Text.Record :=
  .record "Span"
    [("begin", .nat s.start), ("end", .nat s.stop), ("variable", .option (s.name.map .text))] true

namespace Piece

def substitution? : Piece ε → Option (Substitution ε)
  | literal _ => none
  | substitution s => some s

/-- A variable is isolated: the format it leaves behind is dropped. -/
def write {σ γ : Type} [Sink σ] (marker : Marker) (ctx : γ) : Piece (Evaluator σ γ) → Writer σ Unit
  | literal text => Writer.text text
  | substitution s =>
    match s.replacement with
    | .marker => Writer.text marker.text
    | .reference _ eval => Writer.isolated (eval ctx)
    | .omitted => pure ()

/-- Cuts the text from `cursor` on at the substitutions. -/
def cut (text : String) (cursor : Nat) : List (Substitution ε) → Except Text.SliceError (List (Piece ε))
  | [] => do
    let tail ← Text.slice text cursor text.utf8ByteSize
    .ok [literal tail]
  | s :: rest => do
    let before ← Text.slice text cursor s.start
    let pieces ← cut text s.stop rest
    .ok (literal before :: substitution s :: pieces)

end Piece

namespace Template

/-- The substitutions, omitted references included, in text order. -/
def substitutions (t : Template ε) : List (Substitution ε) := t.pieces.filterMap Piece.substitution?

def spans (t : Template ε) : List Span := t.substitutions.filterMap Substitution.span?

/-- Some reference stands for the variable `name`. -/
def refersTo (t : Template ε) (name : String) : Bool :=
  t.substitutions.any fun s => s.replacement.refersTo name

def record (t : Template ε) : Text.Record :=
  .record "Template"
    [("text", .text t.text), ("substitutions", .list (t.spans.map Span.record)),
      ("diagnostics", .list (t.diagnostics.map Diagnostic.record))] true

variable {σ γ : Type} [Sink σ]

def expand (t : Template (Evaluator σ γ)) (ctx : γ) : Writer σ Unit :=
  Writer.all (t.pieces.map (Piece.write t.marker ctx))

/-- Expands into a sink, from the default format on. -/
def expandInto (t : Template (Evaluator σ γ)) (ctx : γ) (sink : σ) : Except IoError Unit × σ :=
  let (result, out) := t.expand ctx ⟨sink, {}⟩
  (result, out.sink)

/-- Expands into a new text; what is written has to be text as a whole. -/
def expandToText (t : Template (Evaluator Buffer γ)) (ctx : γ) : Except IoError String := do
  let (result, sink) := t.expandInto ctx (.growing ByteArray.empty)
  result
  (Text.Utf8.decode sink.content).mapError .notText

end Template

variable {σ γ : Type} [Sink σ]

theorem Piece.write_format (marker : Marker) (ctx : γ) (piece : Piece (Evaluator σ γ)) (out : Output σ) :
    (piece.write marker ctx out).2.format = out.format := by
  cases piece with
  | literal text => rfl
  | substitution s =>
    rcases s with ⟨start, stop, replacement⟩
    cases replacement <;> rfl

theorem Template.expand_format (t : Template (Evaluator σ γ)) (ctx : γ) (out : Output σ) :
    (t.expand ctx out).2.format = out.format := by
  unfold expand
  generalize t.pieces = pieces
  induction pieces generalizing out with
  | nil => rfl
  | cons piece pieces ih =>
    have kept := Piece.write_format t.marker ctx piece out
    change (Writer.bind _ _ out).2.format = _
    unfold Writer.bind
    split
    · rename_i after ran
      rw [ran] at kept
      rw [← kept]
      exact ih after
    · rename_i after ran
      rw [ran] at kept
      exact kept

end TextTemplate

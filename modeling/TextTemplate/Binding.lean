import TextTemplate.Template
import TextTemplate.Action

/-!
The ways to say what a variable writes.
-/

namespace TextTemplate

inductive Binding where
  /-- Always this value. -/
  | value (v : Value)
  /-- A field of the context. -/
  | field (accessor : Accessor) (name : String)
  /-- The content that a cell has when the template is expanded. -/
  | shared (cell : String)
  /-- Any actions, up to the first that fails. -/
  | custom (actions : List Action)
deriving DecidableEq

namespace Binding

/-- What a binding writes in a context of the given shape.  A field without a slot of its own stands for
nothing. -/
def evaluator? {σ : Type} [Sink σ] (shape : Shape) : Binding → Option (Evaluator σ Context)
  | value v => some fun _ => Writer.put v
  | field accessor name =>
    (shape.slotOf? accessor).map fun slot ctx => Writer.put (ctx.field slot name)
  | shared cell => some fun ctx => Writer.put (ctx.cells cell).readThrough
  | custom actions => some fun ctx => Action.runAll actions ctx

/-- A binding shows nothing of what it holds. -/
def record : Text.Record := .record "Binding" [] false

end Binding
end TextTemplate

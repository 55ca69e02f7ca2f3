import TextTemplate.Value

/-!
What a template is expanded against: the slots of a context, and the cells that the host keeps.

Every slot holds the fields of one owner.  A shape names the owner of each slot, and a field is reached
by its owner, where that owner has one slot only, or by the slot.

* `Shape.owner_of_slotOf?`: an owner stands for a slot that it owns.
* `Cell.readThrough_eq`: a cell is read through its poison.
-/

namespace TextTemplate

/-- The fields of one slot. -/
abbrev Fields := List (String × Value)

/-- A field that is absent reads as a question mark. -/
def Fields.get (fields : Fields) (name : String) : Value := (fields.lookup name).getD (.char '?')

/-- A value that the host keeps changing, behind a lock.  A cell is poisoned when a writer broke off while it
held the lock. -/
structure Cell where
  content : Value := .integer 0
  poisoned : Bool := false
deriving DecidableEq, Repr

/-- The lock of a poisoned cell was taken all the same: the error holds what the lock guards. -/
structure PoisonError where
  guarded : Value
deriving DecidableEq, Repr

namespace Cell

/-- Takes the lock of the cell for reading. -/
def read (cell : Cell) : Except PoisonError Value :=
  if cell.poisoned then .error ⟨cell.content⟩ else .ok cell.content

/-- Reads the cell, through its poison if it has any. -/
def readThrough (cell : Cell) : Value :=
  match cell.read with
  | .ok content => content
  | .error e => e.guarded

/-- Poison makes no difference to what is read. -/
theorem readThrough_eq (cell : Cell) : cell.readThrough = cell.content := by
  unfold readThrough read
  cases cell.poisoned <;> rfl

end Cell

/-- The cells by name.  A cell that was never touched holds zero. -/
abbrev Cells := String → Cell

namespace Cells

def untouched : Cells := fun _ => {}

def update (cells : Cells) (name : String) (f : Cell → Cell) : Cells := fun other =>
  if other = name then f (cells name) else cells other

def set (cells : Cells) (name : String) (v : Value) : Cells :=
  cells.update name fun cell => { cell with content := v }

def poison (cells : Cells) (name : String) : Cells :=
  cells.update name fun cell => { cell with poisoned := true }

end Cells

structure Context where
  slots : List Fields
  cells : Cells

/-- A field of a slot; a slot that is absent has no fields. -/
def Context.field (ctx : Context) (slot : Nat) (name : String) : Value :=
  ((ctx.slots[slot]?).getD []).get name

/-- The kind of thing whose fields a slot holds. -/
abbrev Owner := Nat

/-- The owner of every slot. -/
structure Shape where
  owners : List Owner
deriving DecidableEq, Repr

/-- How a field binding names its slot. -/
inductive Accessor where
  /-- The one slot of this owner. -/
  | owner (owner : Owner)
  | slot (slot : Nat)
  /-- A look at the context as a whole, which picks the slot itself. -/
  | whole (slot : Nat)
deriving DecidableEq, Repr

/-- The slot that an accessor reads.  An owner of no slot, or of several, names none, and a slot is
named only where the shape has it; a look at the whole context may pick a slot that is absent. -/
def Shape.slotOf? (shape : Shape) : Accessor → Option Nat
  | .owner owner => if shape.owners.count owner = 1 then shape.owners.idxOf? owner else none
  | .slot slot => if slot < shape.owners.length then some slot else none
  | .whole slot => some slot

/-- The context of a shape whose slots hold the given fields.  Fields beyond the slots of the shape are
left out, and slots without fields are empty. -/
def Shape.context (shape : Shape) (slots : List Fields) (cells : Cells) : Context :=
  ⟨slots.take shape.owners.length, cells⟩

theorem Shape.owner_of_slotOf? {shape : Shape} {owner : Owner} {slot : Nat}
    (h : shape.slotOf? (.owner owner) = some slot) : shape.owners[slot]? = some owner := by
  simp only [slotOf?] at h
  split at h
  · rename_i once
    rw [List.idxOf?, List.findIdx?_eq_some_iff_getElem] at h
    obtain ⟨inside, found, _⟩ := h
    rw [List.getElem?_eq_getElem inside]
    exact congrArg some (by simpa using found)
  · cases h

end TextTemplate

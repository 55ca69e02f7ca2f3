import TextTemplate.Value
import TextTemplate.Text.Record

/-!
How printed values are laid out: a field of a least width, filled up on the side that the alignment
leaves free.

* `Format.length_field`: a field is as wide as its text or the asked width, whichever is more.
-/

namespace TextTemplate

/-- Where a value stands in its field. -/
inductive Align where
  | left
  | right
  | center
deriving DecidableEq, Repr

structure Format where
  /-- The least number of characters of a field. -/
  width : Nat := 0
  precision : Option Nat := none
  fill : Char := ' '
  align : Align := .right
  signPlus : Bool := false
deriving DecidableEq, Repr

/-- New values for some of the settings of a format. -/
structure FormatChange where
  width : Option Nat := none
  precision : Option (Option Nat) := none
  fill : Option Char := none
  align : Option Align := none
  signPlus : Option Bool := none
deriving DecidableEq, Repr

/-- The format after a change; what the change leaves out stays. -/
def FormatChange.apply (change : FormatChange) (f : Format) : Format where
  width := change.width.getD f.width
  precision := change.precision.getD f.precision
  fill := change.fill.getD f.fill
  align := change.align.getD f.align
  signPlus := change.signPlus.getD f.signPlus

def Align.record : Align → Text.Record
  | left => .word "Left"
  | right => .word "Right"
  | center => .word "Center"

namespace Format

def record (f : Format) : Text.Record :=
  .record "Format"
    [("width", .nat f.width), ("precision", .option (f.precision.map .nat)), ("fill", .char f.fill),
      ("align", f.align.record), ("sign_plus", .bool f.signPlus)] true

/-- Values are printed as they are. -/
def isPlain (f : Format) : Bool := f.width = 0 && f.precision.isNone && !f.signPlus

/-- The text of a value before it is laid out. -/
def body (f : Format) (v : Value) : List Char := v.chars f.precision f.signPlus

/-- How many fill characters go before and after a text that leaves `room` characters free.  An odd
one out goes after a centered text. -/
def padding (align : Align) (room : Nat) : Nat × Nat :=
  match align with
  | .left => (0, room)
  | .right => (room, 0)
  | .center => (room / 2, room - room / 2)

/-- A text laid out in a field.  A text that is as wide as the field, or wider, stands for itself. -/
def field (f : Format) (body : List Char) : List Char :=
  if f.width ≤ body.length then body
  else
    let (before, after) := padding f.align (f.width - body.length)
    List.replicate before f.fill ++ body ++ List.replicate after f.fill

/-- What printing a value writes. -/
def printed (f : Format) (v : Value) : String :=
  if f.isPlain then v.plain else String.ofList (f.field (f.body v))

theorem padding_add (align : Align) (room : Nat) :
    (padding align room).1 + (padding align room).2 = room := by
  cases align <;> simp [padding]
  omega

theorem padding_zero (align : Align) : padding align 0 = (0, 0) := by cases align <;> rfl

/-- A text that fills its field is one that leaves no room. -/
theorem field_eq (f : Format) (body : List Char) :
    f.field body =
      List.replicate (padding f.align (f.width - body.length)).1 f.fill ++ body ++
        List.replicate (padding f.align (f.width - body.length)).2 f.fill := by
  unfold field
  split
  · rename_i wide
    rw [Nat.sub_eq_zero_of_le wide, padding_zero, List.replicate_zero, List.append_nil, List.nil_append]
  · rfl

theorem length_field (f : Format) (body : List Char) :
    (f.field body).length = max f.width body.length := by
  have := padding_add f.align (f.width - body.length)
  simp only [field_eq, List.length_append, List.length_replicate]
  omega

end Format

/-- The characters that a format lays out. -/
def Display.body (d : Display) (f : Format) : List Char := (d.text f.precision f.signPlus).toList

theorem Value.body_display (v : Value) (f : Format) : v.display.body f = f.body v := by
  rw [Display.body, text_display, String.toList_ofList]
  rfl

end TextTemplate

import Mathlib.Data.Nat.PSub
import TextTemplate.Proofs.Expansion

/-!
Printing in a field.

What can be printed has a text under every precision and sign setting.  A format that asks for nothing lets that
text be written as it comes, in fragments; any other format has it laid out in a field and written at once.  A
field is counted in characters, and where nothing is asked for the two ways write the same.

* `Format.field?_eq`: the free room of a field is only asked for where there is some.
* `Writer.print_eq_inField`: laying out and writing as it comes agree.
* `print_pads`: what is written of anything that can be printed, under every format.
-/

namespace TextTemplate

namespace Format

/-- Lays a text out in a field, by a subtraction that is refused where it would go below zero. -/
def field? (f : Format) (body : List Char) : Option (List Char) :=
  if f.width ≤ body.length then some body
  else do
    let room ← Nat.psub f.width body.length
    let (before, after) := padding f.align room
    some (List.replicate before f.fill ++ body ++ List.replicate after f.fill)

end Format

/-! ### Fields -/

namespace Format

theorem isPlain_iff {f : Format} : f.isPlain = true ↔ f.width = 0 ∧ f.precision = none ∧ f.signPlus = false := by
  simp [isPlain, and_assoc]

/-- The subtraction is never refused: a text that leaves no room is not asked for any. -/
theorem field?_eq (f : Format) (body : List Char) : f.field? body = some (f.field body) := by
  unfold field? field
  by_cases wide : f.width ≤ body.length
  · rw [if_pos wide, if_pos wide]
  · rw [if_neg wide, if_neg wide, Nat.psub_eq_sub (by omega)]
    rfl

theorem field_of_le {f : Format} {body : List Char} (wide : f.width ≤ body.length) : f.field body = body :=
  if_pos wide

/-- Fill characters stand on the side that the alignment leaves free, or on both sides of a centered text. -/
theorem padding_cases (align : Align) (room : Nat) :
    let (before, after) := padding align room
    match align with
    | .left => before = 0
    | .right => after = 0
    | .center => before = (before + after) / 2 := by
  cases align with
  | left => rfl
  | right => rfl
  | center =>
    dsimp only
    rw [padding_add]
    rfl

end Format

/-! ### The two ways to write -/

theorem Display.body_of_plain (d : Display) {f : Format} (precision : f.precision = none)
    (sign : f.signPlus = false) : String.ofList (d.body f) = d.text none false := by
  rw [body, precision, sign, String.ofList_toList]

namespace Writer

/-- A buffer holds fragments as it holds all of them at once. -/
theorem plainly_eq (d : Display) : (plainly d : Writer Buffer Unit) = text (d.text none false) := all_text _

/-- A format that asks for nothing makes no field: what is laid out is what is written as it comes. -/
theorem plainly_eq_inField (d : Display) {f : Format} (plain : f.isPlain = true) (sink : Buffer) :
    plainly d ⟨sink, f⟩ = inField d ⟨sink, f⟩ := by
  obtain ⟨width, precision, sign⟩ := Format.isPlain_iff.1 plain
  have narrow : f.width ≤ (d.body f).length := by omega
  have laidOut : inField d ⟨sink, f⟩ = text (String.ofList (f.field (d.body f))) ⟨sink, f⟩ := rfl
  rw [laidOut, Format.field_of_le narrow, d.body_of_plain precision sign, plainly_eq]

/-- Printing lays out a field, under every format. -/
theorem print_eq_inField (d : Display) : (print d : Writer Buffer Unit) = inField d := by
  funext out
  change (if out.format.isPlain then plainly d else inField d) out = _
  by_cases plain : out.format.isPlain = true
  · rw [if_pos plain]
    exact plainly_eq_inField d plain out.sink
  · rw [if_neg plain]

/-- What is laid out is written as a text, and the format stays. -/
theorem print_eq (d : Display) (sink : Buffer) (f : Format) :
    print d ⟨sink, f⟩ = text (String.ofList (f.field (d.body f))) ⟨sink, f⟩ := by
  rw [print_eq_inField]
  rfl

/-- The text of a printed value is the field that it is laid out in. -/
theorem ofList_field_eq (f : Format) (v : Value) :
    String.ofList (f.field (v.display.body f)) = f.printed v := by
  rw [v.body_display, Format.printed]
  by_cases plain : f.isPlain = true
  · obtain ⟨width, precision, sign⟩ := Format.isPlain_iff.1 plain
    have narrow : f.width ≤ (f.body v).length := by omega
    rw [if_pos plain, Format.field_of_le narrow, Format.body, precision, sign]
    rfl
  · rw [if_neg plain]

/-- What a value is printed as is written as a text. -/
theorem put_eq (v : Value) (out : Output Buffer) : put v out = text (out.format.printed v) out := by
  rw [← ofList_field_eq]
  exact print_eq v.display out.sink out.format

end Writer

/-- **What printing writes**, whatever is printed, in fragments or not, and whatever the format is.  The text under
the precision and the sign of the format stands between fill characters, as many as the width leaves room for:
none before it if it stands on the left, none after it on the right, and half of them before it in the center,
rounded down.  So a field has as many characters as its width asks for, or as the text has, however long the
characters are in bytes.  It is written into every buffer as one text would be, and the format stays.  A text that
is as wide as its field stands alone, whatever the fill character and the alignment.  A format that asks for
nothing has the text written as it comes, and it comes to the same in a field.  The room beside a text is only
asked for if there is some.  And values are printed so, where a precision of a text counts its characters. -/
theorem print_pads (d : Display) (f : Format) :
    let body := d.body f
    (∃ before after,
      let field := List.replicate before f.fill ++ body ++ List.replicate after f.fill
      before + after = f.width - body.length ∧
      (match f.align with
      | .left => before = 0
      | .right => after = 0
      | .center => before = (before + after) / 2) ∧
      field.length = max f.width body.length ∧
      (f.width ≤ body.length → field = body) ∧
      f.field? body = some field ∧
      (∀ content, Writer.print d ⟨Buffer.growing content, f⟩ =
        (.ok (), ⟨.growing (content ++ (String.ofList field).toUTF8), f⟩)) ∧
      ∀ sink : Buffer, Writer.print d ⟨sink, f⟩ = Writer.text (String.ofList field) ⟨sink, f⟩ ∧
        (Writer.print d ⟨sink, f⟩).2.format = f) ∧
    (f.width ≤ body.length → ∀ fill align (sink : Buffer),
      let other := { f with fill, align }
      Writer.print d ⟨sink, other⟩ = Writer.text (String.ofList body) ⟨sink, other⟩) ∧
    (f.width = 0 → f.precision = none → f.signPlus = false → ∀ sink : Buffer,
      Writer.print d ⟨sink, f⟩ = Writer.plainly d ⟨sink, f⟩ ∧
      Writer.plainly d ⟨sink, f⟩ = Writer.inField d ⟨sink, f⟩) ∧
    (f.precision = none → f.signPlus = false → String.ofList body = d.text none false) ∧
    (∀ v : Value, (Writer.put v : Writer Buffer Unit) = Writer.print v.display ∧
      v.display.body f = v.chars f.precision f.signPlus) ∧
    ∀ s count forced, (Value.text s).chars (some count) forced = s.toList.take count ∧
      (Value.text s).chars none forced = s.toList := by
  intro body
  refine ⟨?field, ?alone, ?plain, ?unset, ?values, ?texts⟩
  case field =>
    refine ⟨_, _, Format.padding_add f.align (f.width - body.length), Format.padding_cases .., ?_⟩
    rw [← f.field_eq body]
    refine ⟨f.length_field body, Format.field_of_le, f.field?_eq body, ?_, ?_⟩
    · intro content
      rw [Writer.print_eq]
      exact Writer.bytes_growing _ content f
    · intro sink
      rw [Writer.print_eq]
      exact ⟨rfl, rfl⟩
  case alone =>
    intro wide fill align sink other
    have wide : other.width ≤ (d.body other).length := wide
    rw [Writer.print_eq, Format.field_of_le wide]
    rfl
  case plain =>
    intro width precision sign sink
    have plain : f.isPlain = true := Format.isPlain_iff.2 ⟨width, precision, sign⟩
    have same := Writer.plainly_eq_inField d plain sink
    rw [Writer.print_eq_inField, same]
    exact ⟨rfl, rfl⟩
  case unset =>
    intro precision sign
    exact d.body_of_plain precision sign
  case values =>
    intro v
    exact ⟨rfl, v.body_display f⟩
  case texts =>
    intro s count forced
    exact ⟨List.append_nil _, List.append_nil _⟩

/-- Two fragments in the center of wide fill characters, and in fields that they fill. -/
theorem print_pads_centered_fragments :
    let d : Display := ⟨fun precision _ => match precision with
      | none => ["é", "ab"]
      | some _ => ["é", "a"]⟩
    let centered : Format := { width := 5, precision := some 2, fill := 'ü', align := .center }
    let filled : Format := { width := 3, fill := 'ü', align := .left }
    Writer.print d ⟨Buffer.growing "<".toUTF8, centered⟩ = (.ok (), ⟨.growing "<üéaüü".toUTF8, centered⟩) ∧
      (∀ sink : Buffer, Writer.print d ⟨sink, filled⟩ = Writer.text "éab" ⟨sink, filled⟩) ∧
      ∀ sink : Buffer, Writer.plainly d ⟨sink, {}⟩ = Writer.inField d ⟨sink, {}⟩ := by
  intro d centered filled
  have cut : d.body centered = ['é', 'a'] := by decide +kernel
  have whole : d.body { width := 3 } = ['é', 'a', 'b'] := by decide +kernel
  obtain ⟨⟨before, after, sum, half, -, -, -, appended, -⟩, -⟩ := print_pads d centered
  obtain ⟨-, alone, -⟩ := print_pads d { width := 3 }
  obtain ⟨-, -, plain, -⟩ := print_pads d {}
  rw [cut] at sum appended
  rw [whole] at alone
  refine ⟨?_, alone (Nat.le_refl 3) 'ü' .left, fun sink => (plain rfl rfl rfl sink).2⟩
  have sum : before + after = 3 := sum
  have half : before = (before + after) / 2 := half
  obtain rfl : before = 1 := by omega
  obtain rfl : after = 2 := by omega
  exact appended "<".toUTF8

end TextTemplate

import TextTemplate.Number.Shortest

/-!
Values that a template can print, and their text.

A precision asks for a number of places of a floating-point number and for at most so many characters
of a text, a truth value or a character; an integer has none.  A forced sign puts a plus before numbers
that are not negative.

* `Value.text_display`: the fragments in which a value is written make up its text.
-/

namespace TextTemplate

open Number

inductive Value where
  | text (s : String)
  | integer (n : Int)
  | truth (b : Bool)
  | char (c : Char)
  | float (x : Binary)
deriving DecidableEq, Repr

/-- What stands before the digits of a number. -/
def signText (negative forced : Bool) : List Char :=
  if negative then ['-'] else if forced then ['+'] else []

/-- The parts in which a floating-point number is written: its sign, and then as many places as asked for, or
the fewest digits that read back.  Zero keeps its sign; what is no number has none. -/
def Number.Binary.fragments (x : Binary) (precision : Option Nat) (forced : Bool) : List (List Char) :=
  match x.datum with
  | .nan => [['N', 'a', 'N']]
  | .infinite negative => [signText negative forced, ['i', 'n', 'f']]
  | .finite negative mantissa exponent =>
    signText negative forced ::
      match precision with
      | some places => [fixedPlaces places mantissa exponent]
      | none => (Shortest.decimal mantissa exponent x.narrowBelow).fragments

namespace Value

/-- The parts in which a value is written, under a precision and a sign setting. -/
def fragments (precision : Option Nat) (forced : Bool) : Value → List (List Char)
  | .text s => [cut s.toList]
  | .integer n => [signText (n < 0) forced, digits n.natAbs]
  | .truth b => [cut (if b then ['t', 'r', 'u', 'e'] else ['f', 'a', 'l', 's', 'e'])]
  | .char c => [cut [c]]
  | .float x => x.fragments precision forced
where
  cut (cs : List Char) : List Char :=
    match precision with
    | some count => cs.take count
    | none => cs

/-- The text of a value under a precision and a sign setting. -/
def chars (precision : Option Nat) (forced : Bool) (v : Value) : List Char :=
  (v.fragments precision forced).flatten

/-- The text of a value without any setting. -/
def plain (v : Value) : String := String.ofList (v.chars none false)

end Value

/-- Something that can be printed: the fragments of its text under a precision and a sign setting. -/
structure Display where
  fragments : Option Nat → Bool → List String

/-- The text under a precision and a sign setting. -/
def Display.text (d : Display) (precision : Option Nat) (forced : Bool) : String :=
  String.join (d.fragments precision forced)

def Value.display (v : Value) : Display :=
  ⟨fun precision forced => (v.fragments precision forced).map String.ofList⟩

/-- The fragments of a value make up its text. -/
theorem Value.text_display (v : Value) (precision : Option Nat) (forced : Bool) :
    v.display.text precision forced = String.ofList (v.chars precision forced) := by
  change String.join ((v.fragments precision forced).map String.ofList) =
    String.ofList (v.fragments precision forced).flatten
  generalize v.fragments precision forced = parts
  induction parts with
  | nil => rfl
  | cons part parts ih => rw [List.map_cons, String.join_cons, ih, List.flatten_cons, String.ofList_append]
end TextTemplate

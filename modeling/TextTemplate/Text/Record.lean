import TextTemplate.Text.Quoted

/-!
Record notation: a structured value as text, on one line or spread over indented lines.

On one line a record reads `Point { x: 1, y: 2 }`, a list `[1, 2]` and a tagged value `Some(1)`.
Spread out, every field, item and argument has a line of its own that ends in a comma; an empty list
stays on one line.  A record that does not show all of its fields ends in two dots.
-/

namespace TextTemplate.Text

/-- A structured value, ready to be written. -/
inductive Record where
  /-- A word that is written as it stands. -/
  | word (text : String)
  /-- A record with named fields.  `complete` says that all of its fields are shown. -/
  | record (name : String) (fields : List (String × Record)) (complete : Bool)
  /-- A tag with arguments. -/
  | tagged (tag : String) (arguments : List Record)
  | list (items : List Record)

namespace Record

def text (s : String) : Record := .word (Quoted.text s)

def char (c : Char) : Record := .word (Quoted.char c)

def nat (n : Nat) : Record := .word (toString n)

def bool (b : Bool) : Record := .word (toString b)

def option (x : Option Record) : Record :=
  match x with
  | none => .word "None"
  | some x => .tagged "Some" [x]

/-! ### On one line -/

def listed (items : List String) : String := String.intercalate ", " items

mutual

def line : Record → String
  | .word text => text
  | .record name [] true => name
  | .record name [] false => name ++ " \x7b .. \x7d"
  | .record name (field :: fields) complete =>
    name ++ " \x7b " ++
      listed (lineFields (field :: fields) ++ if complete then [] else [".."]) ++ " \x7d"
  | .tagged tag [] => tag
  | .tagged tag (x :: xs) => tag ++ "(" ++ listed (lineItems (x :: xs)) ++ ")"
  | .list items => "[" ++ listed (lineItems items) ++ "]"

def lineItems : List Record → List String
  | [] => []
  | item :: items => line item :: lineItems items

def lineFields : List (String × Record) → List String
  | [] => []
  | (name, value) :: fields => (name ++ ": " ++ line value) :: lineFields fields

end

/-! ### Spread over lines -/

/-- Four blanks for every level of nesting. -/
def margin (depth : Nat) : String := String.ofList (List.replicate (4 * depth) ' ')

/-- The items of a bracketed group, a line each, between an opening and a closing line. -/
def spread (depth : Nat) (opening closing : String) (items : List String) : String :=
  opening ++ "\n" ++ String.join (items.map fun item => margin (depth + 1) ++ item ++ "\n") ++
    margin depth ++ closing

mutual

def lines (depth : Nat) : Record → String
  | .word text => text
  | .record name [] true => name
  | .record name [] false => name ++ " \x7b .. \x7d"
  | .record name (field :: fields) complete =>
    spread depth (name ++ " \x7b") "\x7d"
      (linesFields (depth + 1) (field :: fields) ++ if complete then [] else [".."])
  | .tagged tag [] => tag
  | .tagged tag (x :: xs) => spread depth (tag ++ "(") ")" (linesItems (depth + 1) (x :: xs))
  | .list [] => "[]"
  | .list (item :: items) => spread depth "[" "]" (linesItems (depth + 1) (item :: items))

def linesItems (depth : Nat) : List Record → List String
  | [] => []
  | item :: items => (lines depth item ++ ",") :: linesItems depth items

def linesFields (depth : Nat) : List (String × Record) → List String
  | [] => []
  | (name, value) :: fields => (name ++ ": " ++ lines depth value ++ ",") :: linesFields depth fields

end

/-- A value spread over indented lines. -/
def indented (value : Record) : String := lines 0 value

end Record
end TextTemplate.Text

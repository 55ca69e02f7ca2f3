/-!
Reading a list of characters from its front.
-/

namespace TextTemplate.Toml

/-- A reader takes characters from the front, or refuses. -/
abbrev Reader (α : Type) := StateT (List Char) Option α

namespace Reader

variable {α β : Type}

/-- Refuses. -/
def refuse : Reader α := fun _ => none

/-- The next character, which stays. -/
def peek? : Reader (Option Char) := fun cs => some (cs.head?, cs)

/-- One character of a class. -/
def one (p : Char → Bool) : Reader Char
  | [] => none
  | c :: cs => if p c then some (c, cs) else none

/-- This character. -/
def char (c : Char) : Reader Unit := do
  let _ ← one (· = c)

/-- These characters. -/
def word : List Char → Reader Unit
  | [] => pure ()
  | c :: cs => do
    char c
    word cs

/-- All characters of a class that come next. -/
def span (p : Char → Bool) : Reader (List Char) := fun cs => some (cs.span p)

/-- At least one character of a class, and all that come next. -/
def run (p : Char → Bool) : Reader (List Char) := fun cs =>
  match cs.span p with
  | ([], _) => none
  | (taken, rest) => some (taken, rest)

/-- The first reader, or else the second. -/
def either (a b : Reader α) : Reader α := fun cs => (a cs).or (b cs)

/-- A reader that may refuse. -/
def maybe (a : Reader α) : Reader (Option α) := fun cs =>
  match a cs with
  | some (x, rest) => some (some x, rest)
  | none => some (none, cs)

/-- A reader as often as it takes something. -/
def many (a : Reader α) : Reader (List α) := fun cs =>
  match a cs with
  | none => some ([], cs)
  | some (x, rest) =>
    if rest.length < cs.length then
      match many a rest with
      | none => none
      | some (xs, rest) => some (x :: xs, rest)
    else
      some ([], cs)
termination_by cs => cs.length

/-- Something at least once, with something else in between. -/
def separated (a : Reader α) (separator : Reader β) : Reader (List α) := do
  let first ← a
  let rest ← many do
    let _ ← separator
    a
  pure (first :: rest)

/-- Nothing is left. -/
def done : Reader Unit
  | [] => some ((), [])
  | _ :: _ => none

/-- What a reader makes of a whole text. -/
def whole (a : Reader α) (text : List Char) : Option α :=
  match a text with
  | some (x, []) => some x
  | _ => none

end Reader
end TextTemplate.Toml

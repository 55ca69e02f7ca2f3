import TextTemplate.Toml.Number
import TextTemplate.Toml.Table

/-!
The statements of a document: headers and entries, a line each.
-/

namespace TextTemplate.Toml

open Reader

/-- Parts of a dotted key, and how deep arrays and tables in braces are nested, stay below this. -/
def nestingLimit : Nat := 80

inductive Statement where
  /-- An empty line, or one that holds a comment only. -/
  | blank
  | header (path : Path)
  | arrayHeader (path : Path)
  | entry (path : Path) (v : Value)

def isBare (c : Char) : Bool := c.isAlphanum || c = '_' || c = '-'

/-- A part of a key: a string on one line, or a bare word. -/
def simpleKey : Reader String := do
  let cs ← either basic (either literal (run isBare))
  pure (String.ofList cs)

/-- A key, with blanks around every part. -/
def key : Reader Path := do
  let parts ← separated (do blanks; let part ← simpleKey; blanks; pure part) (char '.')
  match parts with
  | [] => refuse
  | first :: rest => if rest.length + 1 < nestingLimit then pure ⟨first, rest⟩ else refuse

def boolean : Reader Value :=
  either (do word ['t', 'r', 'u', 'e']; pure (.boolean true))
    (do word ['f', 'a', 'l', 's', 'e']; pure (.boolean false))

def scalar : Reader Value := either (do let s ← string; pure (.string s)) (either boolean number)

/-- Items between brackets, with a comma after each but perhaps the last. -/
def array (item : Reader Value) : Reader Value := do
  char '['
  let items ← many do
    layout
    let v ← item
    layout
    match ← peek? with
    | some ']' => pure v
    | _ => do
      char ','
      pure v
  layout
  char ']'
  pure (.array items)

/-- A key, an equals sign and a value. -/
def entry (item : Reader Value) : Reader (Path × Value) := do
  let path ← key
  char '='
  blanks
  let v ← item
  pure (path, v)

/-- Entries between braces, on one line, with commas in between. -/
def inlineTable (item : Reader Value) : Reader Value := do
  char '\x7b'
  blanks
  match ← peek? with
  | some '\x7d' => do
    char '\x7d'
    pure (.inline [])
  | _ => do
    let pairs ← separated (do let pair ← entry item; blanks; pure pair) (char ',')
    char '\x7d'
    match Table.ofPairs? pairs with
    | some entries => pure (.inline entries)
    | none => refuse

/-- A value with at most `depth` levels of arrays and tables in braces. -/
def value : (depth : Nat) → Reader Value
  | 0 => scalar
  | depth + 1 => do
    match ← peek? with
    | some '[' => array (value depth)
    | some '\x7b' => inlineTable (value depth)
    | _ => scalar

/-- A line of a document. -/
def statement : Reader Statement := do
  blanks
  match ← peek? with
  | none => refuse
  | some '[' => do
    char '['
    match ← peek? with
    | some '[' => do
      char '['
      let path ← key
      word [']', ']']
      lineEnd
      pure (.arrayHeader path)
    | _ => do
      let path ← key
      char ']'
      lineEnd
      pure (.header path)
  | some '#' | some '\n' | some '\r' => do
    lineEnd
    pure .blank
  | _ => do
    let (path, v) ← entry (value (nestingLimit - 1))
    lineEnd
    pure (.entry path v)

/-- All lines, up to the last blanks. -/
def statements : Reader (List Statement) := do
  let lines ← many statement
  blanks
  pure lines

end TextTemplate.Toml

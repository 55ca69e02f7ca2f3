import TextTemplate.Toml.Blank

/-!
Strings: with escapes between double quotes, literal between single quotes, and over several lines
between three quotes of a kind.
-/

namespace TextTemplate.Toml

open Reader

def hexValue (c : Char) : Nat :=
  if c.isDigit then c.toNat - '0'.toNat
  else if 'a' ≤ c ∧ c ≤ 'f' then c.toNat - 'a'.toNat + 10
  else c.toNat - 'A'.toNat + 10

def isHex (c : Char) : Bool := c.isDigit || ('a' ≤ c && c ≤ 'f') || ('A' ≤ c && c ≤ 'F')

/-- A given number of hexadecimal digits. -/
def hexDigits : Nat → Nat → Reader Nat
  | 0, value => pure value
  | count + 1, value => do
    let c ← one isHex
    hexDigits count (16 * value + hexValue c)

/-- A character by the number of its code point. -/
def codePoint (count : Nat) : Reader Char := do
  let n ← hexDigits count 0
  if n.isValidChar then pure (Char.ofNat n) else refuse

/-- What stands after a backslash. -/
def escaped : Reader Char := do
  match ← one fun _ => true with
  | 'b' => pure '\x08'
  | 't' => pure '\t'
  | 'n' => pure '\n'
  | 'f' => pure '\x0c'
  | 'r' => pure '\r'
  | '"' => pure '"'
  | '\\' => pure '\\'
  | 'u' => codePoint 4
  | 'U' => codePoint 8
  | _ => refuse

/-- Characters of a string with escapes, as far as they stand for themselves, or one escape. -/
def basicRun : Reader (List Char) :=
  either (run fun c => isPlain c && c != '"' && c != '\\') do
    char '\\'
    let c ← escaped
    pure [c]

def basic : Reader (List Char) := do
  char '"'
  let runs ← many basicRun
  char '"'
  pure runs.flatten

def literal : Reader (List Char) := do
  char '\''
  let cs ← span fun c => isPlain c && c != '\''
  char '\''
  pure cs

/-- A backslash at the end of a line, which takes away all blanks and line ends up to the next
character. -/
def joint : Reader Unit := do
  char '\\'
  blanks
  newline
  let _ ← many (either (do let _ ← run isBlank) newline)

/-- One or two quotes inside a string between three of them: another character follows, and not a third
quote. -/
def innerQuotes (quote : Char) : Reader (List Char) := fun cs =>
  match cs with
  | q :: r :: c :: rest =>
    if q ≠ quote then none
    else if r ≠ quote then some ([q], r :: c :: rest)
    else if c ≠ quote then some ([q, r], c :: rest)
    else none
  | [q, r] => if q = quote ∧ r ≠ quote then some ([q], [r]) else none
  | _ => none

/-- The end of a string between three quotes.  Up to two more quotes belong to the string. -/
def closing (quote : Char) : Reader (List Char) := fun cs =>
  let count := (cs.takeWhile (· = quote)).length
  if count < 3 then none
  else
    let extra := min 2 (count - 3)
    some (List.replicate extra quote, cs.drop (extra + 3))

/-- A string between three quotes, made of the given parts; a line end right at its start is dropped. -/
def multiline (quote : Char) (part : Reader (List Char)) : Reader (List Char) := do
  word [quote, quote, quote]
  let _ ← maybe newline
  let parts ← many (either part (innerQuotes quote))
  let extra ← closing quote
  pure (parts.flatten ++ extra)

/-- A part of a string of several lines with escapes. -/
def basicPart : Reader (List Char) :=
  either (do joint; pure []) (either basicRun (do newline; pure ['\n']))

/-- A part of a literal string of several lines. -/
def literalPart : Reader (List Char) :=
  either (run fun c => isPlain c && c != '\'') (do newline; pure ['\n'])

def string : Reader String := do
  let cs ← either (multiline '"' basicPart) (either basic (either (multiline '\'' literalPart) literal))
  pure (String.ofList cs)

end TextTemplate.Toml

import TextTemplate.Text.CharSet.Unprintable
import TextTemplate.Text.CharSet.Extender

/-!
Quoted texts and characters.

A quoted text reads unambiguously and shows every character: the quote itself, the backslash and the
usual controls have short escapes, and what has no glyph of its own, or would attach to the character
before it, is written by its code point.
-/

namespace TextTemplate.Text.Quoted

/-- Lower-case hexadecimal digits without leading zeros. -/
def hex (n : Nat) : List Char := Nat.toDigits 16 n

/-- A character by its code point. -/
def byCode (c : Char) : List Char := ['\\', 'u', '\x7b'] ++ hex c.toNat ++ ['\x7d']

/-- How `c` is written between two `quote` characters. -/
def escape (quote c : Char) : List Char :=
  match c with
  | '\x00' => ['\\', '0']
  | '\t' => ['\\', 't']
  | '\r' => ['\\', 'r']
  | '\n' => ['\\', 'n']
  | '\\' => ['\\', '\\']
  | c =>
    if c = quote then ['\\', c]
    else if CharSet.extender.contains c || CharSet.unprintable.contains c then byCode c
    else [c]

def enclose (quote : Char) (text : List Char) : String :=
  String.ofList (quote :: (text.flatMap (escape quote) ++ [quote]))

/-- A text between double quotes. -/
def text (s : String) : String := enclose '"' s.toList

/-- A character between single quotes. -/
def char (c : Char) : String := enclose '\'' [c]

end TextTemplate.Text.Quoted

import TextTemplate.Toml.Reader

/-!
What stands between the parts of a document: blanks, line ends and comments.
-/

namespace TextTemplate.Toml

open Reader

def isBlank (c : Char) : Bool := c = ' ' || c = '\t'

/-- What a line may hold: every character but the controls, of which the tab alone is allowed. -/
def isPlain (c : Char) : Bool := c = '\t' || (' ' ≤ c && c ≤ '~') || '\u0080' ≤ c

def blanks : Reader Unit := do
  let _ ← span isBlank

/-- A line feed, perhaps after a carriage return. -/
def newline : Reader Unit := either (char '\n') do
  char '\r'
  char '\n'

/-- From a number sign to the end of the line. -/
def comment : Reader Unit := do
  char '#'
  let _ ← span isPlain

/-- Nothing but a comment up to the end of the line or of the document. -/
def lineEnd : Reader Unit := do
  blanks
  let _ ← maybe comment
  either done newline

/-- Blanks, comments and line ends, as they may stand inside an array. -/
def layout : Reader Unit := do
  let _ ← many (either (do let _ ← run isBlank) (either newline comment))

end TextTemplate.Toml

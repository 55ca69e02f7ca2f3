import TextTemplate.Text.Utf8

/-!
What can go wrong where bytes enter or leave.
-/

namespace TextTemplate

/-- The families of such errors. -/
inductive IoKind where
  | writeZero
  | invalidData
  | other
  | notFound
deriving DecidableEq, Repr

inductive IoError where
  /-- A sink with a budget has no room left. -/
  | budgetExhausted
  /-- A sink took nothing of what it was offered. -/
  | nothingTaken
  /-- The written bytes spell no text. -/
  | notText (fault : Text.Utf8.Fault)
  /-- A failure with a message of its own. -/
  | failed (message : String)
  /-- There is no such file. -/
  | missingFile
  /-- The file does not hold text. -/
  | fileNotText
deriving DecidableEq, Repr

namespace IoError

def kind : IoError → IoKind
  | budgetExhausted | nothingTaken => .writeZero
  | notText _ | fileNotText => .invalidData
  | failed _ => .other
  | missingFile => .notFound

def message : IoError → String
  | budgetExhausted => "FailingWriter budget exhausted"
  | nothingTaken => "failed to write whole buffer"
  | notText fault => fault.message
  | failed message => message
  | missingFile => "No such file or directory (os error 2)"
  | fileNotText => "stream did not contain valid UTF-8"

end IoError

def IoKind.text : IoKind → String
  | .writeZero => "WriteZero"
  | .invalidData => "InvalidData"
  | .other => "Other"
  | .notFound => "NotFound"

end TextTemplate

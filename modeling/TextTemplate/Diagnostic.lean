import TextTemplate.Token

/-!
Problems found while reading a template, and the error of a text that is refused for them.
-/

namespace TextTemplate

inductive Problem where
  /-- The marker is the last character of the text. -/
  | unterminatedMarker
  /-- A brace is opened after the marker and never closed. -/
  | unterminatedBrace
  /-- A reference, as written in `excerpt`, to a name that is not defined. -/
  | undefinedVariable (name excerpt : String)
deriving DecidableEq, Repr

/-- A problem at the byte offset of the marker that started it. -/
structure Diagnostic where
  problem : Problem
  offset : Nat
  marker : Char
deriving DecidableEq, Repr

namespace Problem

def record : Problem → Text.Record
  | unterminatedMarker => .word "UnterminatedMarker"
  | unterminatedBrace => .word "UnterminatedBrace"
  | undefinedVariable name excerpt =>
    .record "UndefinedVariable" [("name", .text name), ("excerpt", .text excerpt)] true

end Problem

namespace Diagnostic

def message (d : Diagnostic) : String :=
  match d.problem with
  | .unterminatedMarker => "Unterminated `" ++ String.singleton d.marker ++ "` at end of text"
  | .unterminatedBrace => "Unterminated `" ++ String.singleton d.marker ++ "\x7b`"
  | .undefinedVariable name excerpt =>
    "Undefined variable `" ++ name ++ "` in substitution `" ++ excerpt ++ "`"

def record (d : Diagnostic) : Text.Record :=
  .record "Diagnostic"
    [("kind", d.problem.record), ("offset", .nat d.offset), ("marker", .char d.marker)] true

end Diagnostic

/-- Why a text gives no template. -/
inductive ParseError where
  /-- Its problems are not tolerated. -/
  | rejected (diagnostics : List Diagnostic)
  /-- It cannot be cut at the given offsets. -/
  | uncut (fault : Text.SliceError)
deriving DecidableEq, Repr

namespace ParseError

def diagnostics : ParseError → List Diagnostic
  | rejected diagnostics => diagnostics
  | uncut _ => []

/-- Names the first problem and counts the others. -/
def message : ParseError → String
  | rejected [] => "Failed to parse template"
  | rejected [only] => "Failed to parse template: " ++ only.message
  | rejected (first :: rest) =>
    "Failed to parse template: " ++ first.message ++ " (and " ++ Nat.repr rest.length ++ " more)"
  | uncut fault =>
    "Failed to cut template text at " ++ Nat.repr fault.start ++ " and " ++ Nat.repr fault.stop

end ParseError
end TextTemplate

import TextTemplate.Marker
import TextTemplate.Text.Slice

/-!
The places where a text uses its marker.
-/

namespace TextTemplate

/-- The two ways to write a reference: the marker and one character, or the marker and a name between
braces. -/
inductive Spelling where
  | compact
  | braced
deriving DecidableEq, Repr

inductive TokenKind where
  /-- The marker twice. -/
  | escape
  | reference (spelling : Spelling) (name : String)
  /-- The marker with nothing after it. -/
  | unterminatedMarker
  /-- The marker and an opening brace that is never closed. -/
  | unterminatedBrace
deriving DecidableEq, Repr

/-- A use of the marker, between two byte offsets. -/
structure Token where
  kind : TokenKind
  start : Nat
  stop : Nat
deriving DecidableEq, Repr

/-- The token as it stands in the text. -/
def Token.excerpt (token : Token) (text : String) : Except Text.SliceError String :=
  Text.slice text token.start token.stop

end TextTemplate

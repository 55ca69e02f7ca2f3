import TextTemplate.Config
import TextTemplate.Toml.Value

/-!
A configuration written as a document.

What makes entries of a text is left to whoever decodes it.  The entries are taken in the order in which they
are written, and the first that does not fit is the one reported.
-/

namespace TextTemplate.Config

/-- The configuration with one more entry. -/
def withEntry (config : Config) : String × Toml.Value → Except Misfit Config
  | ("lenient", .boolean lenient) => .ok { config with lenient }
  | ("lenient", v) => .error (.wrongType v.wording "a boolean")
  | ("marker", .string s) =>
    match Marker.ofText s with
    | .ok marker => .ok { config with marker }
    | .error e => .error (.invalidMarker e)
  | ("marker", v) => .error (.wrongType v.wording "a string")
  | (name, _) => .error (.unknownField name)

def ofEntries (entries : Toml.Entries) : Except Misfit Config := entries.foldlM withEntry {}

def ofText (reader : Toml.DocumentReader) (text : String) : Except ConfigError Config :=
  match reader.read? text with
  | none => .error .malformed
  | some entries => (ofEntries entries).mapError .misfit

/-- The configuration in the file at `path`, given what the file holds if there is one. -/
def ofFile (reader : Toml.DocumentReader) (path : String) (content : Option ByteArray) :
    Except ConfigError Config :=
  match content with
  | none => .error (.unreadable path .missingFile)
  | some bytes =>
    match Text.Utf8.decode bytes with
    | .error _ => .error (.unreadable path .fileNotText)
    | .ok text => ofText reader text

end TextTemplate.Config

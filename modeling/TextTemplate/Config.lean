import TextTemplate.Marker
import TextTemplate.Log
import TextTemplate.IoError

/-!
How a substituter reads templates, and what can be wrong with a configuration.
-/

namespace TextTemplate

structure Config where
  /-- Problems are tolerated and logged as warnings. -/
  lenient : Bool := false
  marker : Marker := default
  /-- The receiver of diagnostics, standard error unless one is chosen. -/
  logger : Option Logger := none
deriving DecidableEq

def Config.record (config : Config) : Text.Record :=
  .record "SubstConfig"
    [("lenient", .bool config.lenient), ("marker", config.marker.record),
      ("logger", .option (config.logger.map fun _ => .text "<custom>"))] true

/-- What does not fit in a configuration that is otherwise well formed. -/
inductive Misfit where
  | unknownField (name : String)
  /-- A value of another type than the one expected, both as they are worded. -/
  | wrongType (found expected : String)
  | invalidMarker (e : InvalidMarker)
deriving DecidableEq, Repr

inductive ConfigError where
  /-- The file at `path` cannot be read. -/
  | unreadable (path : String) (e : IoError)
  /-- The text is no document at all. -/
  | malformed
  | misfit (fault : Misfit)
  | invalidMarker (e : InvalidMarker)
deriving DecidableEq, Repr

def Misfit.message : Misfit → String
  | unknownField name => "unknown field `" ++ name ++ "`, expected `lenient` or `marker`"
  | wrongType found expected => "invalid type: " ++ found ++ ", expected " ++ expected
  | invalidMarker e => e.message

def ConfigError.message : ConfigError → String
  | unreadable path e => "failed to read config file " ++ path ++ ": " ++ e.message
  | malformed => "failed to parse config"
  | misfit fault => "failed to parse config: " ++ fault.message
  | invalidMarker e => e.message

end TextTemplate

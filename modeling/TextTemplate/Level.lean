import TextTemplate.Text.Record

/-!
How grave a logged message is.

There are seven levels of a log of one's own and five severities of the shared one; a level without a
severity of its name goes to the nearest severity below it.
-/

namespace TextTemplate

/-- The severities that all programs share. -/
inductive Severity where
  | trace | debug | info | warn | error
deriving DecidableEq, Repr

inductive Level where
  | trace | debug | detail | info | warn | error | fatal
deriving DecidableEq, Repr

def Severity.text : Severity → String
  | .trace => "TRACE"
  | .debug => "DEBUG"
  | .info => "INFO"
  | .warn => "WARN"
  | .error => "ERROR"

namespace Level

/-- All levels, the least grave first. -/
def all : List Level := [.trace, .debug, .detail, .info, .warn, .error, .fatal]

def text : Level → String
  | .trace => "trace"
  | .debug => "debug"
  | .detail => "detail"
  | .info => "info"
  | .warn => "warn"
  | .error => "error"
  | .fatal => "fatal"

def ofText? (s : String) : Option Level := all.find? fun level => level.text = s

def severity : Level → Severity
  | .trace => .trace
  | .debug | .detail => .debug
  | .info => .info
  | .warn => .warn
  | .error | .fatal => .error

def rank : Level → Nat
  | .trace => 0
  | .debug => 1
  | .detail => 2
  | .info => 3
  | .warn => 4
  | .error => 5
  | .fatal => 6

instance : Ord Level := ⟨fun a b => compare a.rank b.rank⟩

/-- The level's word with a capital. -/
def record (level : Level) : Text.Record := .word level.text.capitalize

end Level
end TextTemplate

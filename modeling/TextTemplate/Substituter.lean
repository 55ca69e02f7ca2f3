import TextTemplate.Token.Scanner
import TextTemplate.Variables
import TextTemplate.Config

/-!
A table of variables together with the way templates are read.

A text is scanned once and every reference is looked up.  A strict substituter refuses a text with any
problem; a lenient one drops undefined references, keeps stray markers as text, and gives a template.
-/

namespace TextTemplate

/-- The outcome of looking tokens up. -/
structure Scan (ε : Type) where
  substitutions : List (Substitution ε)
  diagnostics : List Diagnostic

/-- What looking tokens up has come to so far, with the messages that were logged on the way. -/
structure Logged (ε : Type) where
  scan : Scan ε
  entries : List Entry

structure Substituter (ε : Type) where
  config : Config
  table : Variables ε

/-- What reading a text gave, what it has to say, and what it tells the shared log about itself. -/
structure Reading (ε : Type) where
  outcome : Except ParseError (Template ε)
  entries : List Entry
  summary : List Event

variable {ε : Type}

namespace Scan

def empty : Scan ε := ⟨[], []⟩

def append (a b : Scan ε) : Scan ε :=
  ⟨a.substitutions ++ b.substitutions, a.diagnostics ++ b.diagnostics⟩

end Scan

namespace Logged

def empty : Logged ε := ⟨.empty, []⟩

/-- A token is replaced. -/
def replace (so : Logged ε) (token : Token) (r : Replacement ε) : Logged ε :=
  { so with scan := so.scan.append ⟨[⟨token.start, token.stop, r⟩], []⟩ }

/-- A token is a problem, which is logged as soon as it is found. -/
def report (so : Logged ε) (level : Level) (marker : Marker) (token : Token) (p : Problem) : Logged ε :=
  let diagnostic : Diagnostic := ⟨p, token.start, marker.char⟩
  ⟨so.scan.append ⟨[], [diagnostic]⟩, so.entries ++ [⟨level, diagnostic.message⟩]⟩

/-- Looks a token up.  Only an undefined reference takes its place in the text away; a stray marker or
opening brace stays in it. -/
def visit (level : Level) (text : String) (marker : Marker) (table : Variables ε) (so : Logged ε) (token : Token) :
    Except Text.SliceError (Logged ε) :=
  match token.kind with
  | .escape => .ok (so.replace token .marker)
  | .unterminatedMarker => .ok (so.report level marker token .unterminatedMarker)
  | .unterminatedBrace => .ok (so.report level marker token .unterminatedBrace)
  | .reference _ name =>
    match table.find? name with
    | some eval => .ok (so.replace token (.reference name eval))
    | none => do
      let excerpt ← token.excerpt text
      .ok ((so.replace token .omitted).report level marker token (.undefinedVariable name excerpt))

/-- Looks tokens up, one after the other. -/
def ofTokens (level : Level) (text : String) (marker : Marker) (table : Variables ε) (tokens : List Token) :
    Except Text.SliceError (Logged ε) :=
  tokens.foldlM (visit level text marker table) empty

/-- Scans a text and looks all of its tokens up. -/
def ofText (level : Level) (text : String) (marker : Marker) (table : Variables ε) :
    Except Text.SliceError (Logged ε) := do
  ofTokens level text marker table (← tokensOf text marker)

end Logged

/-- The name under which substituters enter the shared log. -/
def engineTarget : String := "textsubst_core::template::engine"

namespace Substituter

def ofConfig (config : Config) : Substituter ε := ⟨config, .empty⟩

def lenient (s : Substituter ε) : Bool := s.config.lenient

def marker (s : Substituter ε) : Marker := s.config.marker

/-- The receiver of diagnostics. -/
def logger (s : Substituter ε) : Logger := s.config.logger.getD .standardError

/-- The level at which problems are logged. -/
def problemLevel (s : Substituter ε) : Level := if s.lenient then .warn else .error

def isDefined (s : Substituter ε) (name : String) : Bool := s.table.isDefined name

/-- Binds a name that is not bound yet. -/
def define (s : Substituter ε) (name : String) (eval : ε) : Except SetupError (Substituter ε) := do
  let table ← s.table.define name eval
  .ok { s with table }

/-- What a successful definition tells the shared log. -/
def defineEvent (name : String) : Event :=
  ⟨.debug, engineTarget, "defined substitution variable `" ++ name ++ "`"⟩

/-- Scans a text, and logs its problems. -/
def scanLogged (s : Substituter ε) (text : String) : Except Text.SliceError (Logged ε) :=
  Logged.ofText s.problemLevel text s.marker s.table

def scan (s : Substituter ε) (text : String) : Except Text.SliceError (Scan ε) := do
  let logged ← s.scanLogged text
  .ok logged.scan

/-- The template of a scanned text, or its problems. -/
def compile (s : Substituter ε) (text : String) (scanned : Scan ε) : Except ParseError (Template ε) :=
  if !scanned.diagnostics.isEmpty && !s.lenient then
    .error (.rejected scanned.diagnostics)
  else
    match Piece.cut text 0 scanned.substitutions with
    | .error fault => .error (.uncut fault)
    | .ok pieces => .ok ⟨text, s.marker, pieces, scanned.diagnostics⟩

/-- What a scan tells the shared log. -/
def scanEvent (text : String) (scanned : Scan ε) : Event :=
  ⟨.trace, engineTarget,
    "parsed template of " ++ Nat.repr text.utf8ByteSize ++ " bytes: " ++
      Nat.repr scanned.substitutions.length ++ " substitutions, " ++
      Nat.repr scanned.diagnostics.length ++ " problems"⟩

/-- Reads a text: scans it, and makes a template of what was found. -/
def read (s : Substituter ε) (text : String) : Reading ε :=
  match s.scanLogged text with
  | .error fault => ⟨.error (.uncut fault), [], []⟩
  | .ok logged => ⟨s.compile text logged.scan, logged.entries, [scanEvent text logged.scan]⟩

def parse (s : Substituter ε) (text : String) : Except ParseError (Template ε) := (s.read text).outcome

def record (s : Substituter ε) : Text.Record :=
  .record "Substituter"
    [("lenient", .bool s.lenient), ("marker", s.marker.record),
      ("variables", .list (s.table.names.map .text))] false

end Substituter

/-- What a reading sends out, with the given receiver of diagnostics. -/
def Reading.trail (r : Reading ε) (logger : Logger) : Trail :=
  logger.receiveAll r.entries ++ ⟨[], r.summary⟩

theorem Substituter.define_of_fresh (s : Substituter ε) {name : String} (fresh : s.isDefined name = false)
    (eval : ε) : s.define name eval = .ok { s with table := s.table.insert name eval } := by
  unfold isDefined at fresh
  unfold define Variables.define
  rw [if_neg (by simp [fresh])]
  rfl

end TextTemplate

import TextTemplate.Binding
import TextTemplate.Error

/-!
A session of a host: one substituter, the templates that were read with it, the cells that the host
changes, and the log that the host keeps.

Templates look at the table they were read with, so every definition, even one that fails, drops them.
-/

namespace TextTemplate

/-- What a host can do. -/
inductive Step where
  | define (name : String) (binding : Binding)
  /-- Read a template and keep it under `id`; a template that is refused leaves nothing there. -/
  | parse (id text : String)
  /-- The same, with the problems going to a log of the step's own. -/
  | parseAside (id text : String)
  | expand (id : String) (slots : List Fields) (format : Format) (sink : Buffer)
  | expandInto (id : String) (slots : List Fields) (sink : Buffer)
  | expandToText (id : String) (slots : List Fields)
  | refersTo (id name : String)
  | inspect (id : String)
  | showTemplate (id : String)
  | copy (id target : String)
  | expandOnce (text : String) (slots : List Fields) (format : Format) (sink : Buffer)
  | query (name : String)
  | showSubstituter
  | showBinding (binding : Binding)
  | setCell (cell : String) (content : Value)
  | poisonCell (cell : String)
  | logState
  | clearLog

/-- What a host gets to see. -/
inductive Answer where
  | defined
  | notDefined (e : SetupError)
  /-- The binding names no slot of the context. -/
  | noSlot
  | noTemplate
  | parsed (spans : List Span) (diagnostics : List Diagnostic) (aside : Option (List Entry))
  | refused (e : ParseError) (aside : Option (List Entry))
  | expanded (result : Except Error Unit) (output : Output Buffer)
  | expandedInto (result : Except IoError Unit) (sink : Buffer)
  | expandedToText (result : Except IoError String)
  | refers (yes : Bool)
  | inspected (text : String) (spans : List Span) (diagnostics : List Diagnostic)
  | shown (record : Text.Record)
  | copied (spans : List Span)
  | described (names : List String) (lenient : Bool) (marker : Marker) (defined : Bool)
  | cell (poisoned : Bool)
  | log (entries : List Entry)
  | logCleared

structure Session where
  shape : Shape
  substituter : Substituter (Evaluator Buffer Context)
  templates : List (String × Template (Evaluator Buffer Context))
  cells : Cells
  log : List Entry

namespace Session

def start (shape : Shape) (config : Config) : Session where
  shape := shape
  substituter := .ofConfig config
  templates := []
  cells := .untouched
  log := []

/-- The receiver of diagnostics. -/
def logger (s : Session) : Logger := s.substituter.logger

def template? (s : Session) (id : String) : Option (Template (Evaluator Buffer Context)) := s.templates.lookup id

def drop (s : Session) (id : String) : Session :=
  { s with templates := s.templates.filter fun entry => entry.1 != id }

def keep (s : Session) (id : String) (t : Template (Evaluator Buffer Context)) : Session :=
  { s with templates := (id, t) :: (s.drop id).templates }

def context (s : Session) (slots : List Fields) : Context := s.shape.context slots s.cells

def define (s : Session) (name : String) (binding : Binding) : Session × Answer × Trail :=
  match binding.evaluator? s.shape with
  | none => (s, .noSlot, .empty)
  | some eval =>
    let s := { s with templates := [] }
    match s.substituter.define name eval with
    | .error e => (s, .notDefined e, .empty)
    | .ok substituter => ({ s with substituter }, .defined, .ofEvent (Substituter.defineEvent name))

/-- Keeps the template of a reading, or drops what was there. -/
def keepReading (s : Session) (id : String) (reading : Reading (Evaluator Buffer Context))
    (aside : Option (List Entry)) : Session × Answer :=
  match reading.outcome with
  | .error e => (s.drop id, .refused e aside)
  | .ok t => (s.keep id t, .parsed t.spans t.diagnostics aside)

/-- Does a step with the template that is kept under `id`. -/
def withTemplate (s : Session) (id : String) (answer : Template (Evaluator Buffer Context) → Answer) : Answer :=
  match s.template? id with
  | none => .noTemplate
  | some t => answer t

/-- The session after a step, apart from its log, with the answer and all that was sent out. -/
def perform (s : Session) : Step → Session × Answer × Trail
  | .define name binding => s.define name binding
  | .parse id text =>
    let reading := s.substituter.read text
    let (s', answer) := s.keepReading id reading none
    (s', answer, reading.trail s.logger)
  | .parseAside id text =>
    let reading := s.substituter.read text
    let aside := reading.trail .memory
    let (s', answer) := s.keepReading id reading (some aside.entries)
    (s', answer, ⟨[], aside.events⟩)
  | .expand id slots format sink =>
    (s, s.withTemplate id fun t =>
      let (result, out) := t.expand (s.context slots) ⟨sink, format⟩
      .expanded (result.mapError .io) out, .empty)
  | .expandInto id slots sink =>
    (s, s.withTemplate id fun t =>
      let (result, sink) := t.expandInto (s.context slots) sink
      .expandedInto result sink, .empty)
  | .expandToText id slots =>
    (s, s.withTemplate id fun t => .expandedToText (t.expandToText (s.context slots)), .empty)
  | .refersTo id name => (s, s.withTemplate id fun t => .refers (t.refersTo name), .empty)
  | .inspect id =>
    (s, s.withTemplate id fun t => .inspected t.text t.spans t.diagnostics, .empty)
  | .showTemplate id => (s, s.withTemplate id fun t => .shown t.record, .empty)
  | .copy id target =>
    match s.template? id with
    | none => (s, .noTemplate, .empty)
    | some t => (s.keep target t, .copied t.spans, .empty)
  | .expandOnce text slots format sink =>
    let ((result, out), trail) := s.substituter.expandLogged text (s.context slots) ⟨sink, format⟩
    (s, .expanded result out, trail)
  | .query name =>
    (s, .described s.substituter.table.names s.substituter.lenient s.substituter.marker
      (s.substituter.isDefined name), .empty)
  | .showSubstituter => (s, .shown s.substituter.record, .empty)
  | .showBinding _ => (s, .shown Binding.record, .empty)
  | .setCell cell content =>
    let cells := s.cells.set cell content
    ({ s with cells }, .cell (cells cell).poisoned, .empty)
  | .poisonCell cell =>
    let cells := s.cells.poison cell
    ({ s with cells }, .cell (cells cell).poisoned, .empty)
  | .logState => (s, .log s.log, .empty)
  | .clearLog => ({ s with log := [] }, .logCleared, .empty)

/-- What is seen of a step: the answer, and what was sent out while it ran. -/
structure Report where
  answer : Answer
  trail : Trail

def step (s : Session) (step : Step) : Session × Report :=
  let (s, answer, trail) := s.perform step
  ({ s with log := s.log ++ trail.entries }, ⟨answer, trail⟩)

def run (s : Session) : List Step → Session × List Report
  | [] => (s, [])
  | first :: rest =>
    let (s, report) := s.step first
    let (s, reports) := s.run rest
    (s, report :: reports)

end Session
end TextTemplate

import TextTemplate.Proofs.Steps

/-!
What the log holds after a run.

Problems are logged while a text is looked through, before it is known what becomes of the text.  So there
are three accounts of the problems of a text: the entries of the log, the error or the template, and what the
host is told.  They agree at every step, and the log of a run is that of its steps in order.

* `Session.log_step`: what one step adds to the log.
* `Session.accounts_step`: what the answer to a step and its entries tell of problems.
* `run_logs`: the log of a run, told by its steps.
-/

namespace TextTemplate

/-- A step of a run, with the session that it is taken in. -/
structure Visit where
  before : Session
  step : Step

namespace Visit

def report (v : Visit) : Session.Report := (v.before.step v.step).2

/-- The problems that the step reports to the session: those of the text that it reads, unless they go to a
log of its own. -/
def found (v : Visit) : List Diagnostic :=
  match v.step with
  | .parse _ text | .expandOnce text _ _ _ => v.before.substituter.problems text
  | _ => []

/-- Reading the text comes to an error or to a template, which carries the problems of the text, and the
answer is made of it. -/
def Carries (v : Visit) (text : String) (ofError : ParseError → Answer)
    (ofTemplate : Template (Evaluator Buffer Context) → Answer) : Prop :=
  match v.before.substituter.parse text with
  | .error e => e.diagnostics = v.before.substituter.problems text ∧ v.report.answer = ofError e
  | .ok t => t.diagnostics = v.before.substituter.problems text ∧ v.report.answer = ofTemplate t

/-- The problems of a text that the step reads are carried by what comes of it.  A step with a log of its own
shows that log as well. -/
def Carried (v : Visit) (logged : List Diagnostic → List Entry) : Prop :=
  match v.step with
  | .parse _ text => v.Carries text (.refused · none) fun t => .parsed t.spans t.diagnostics none
  | .parseAside _ text =>
    let aside := some (logged (v.before.substituter.problems text))
    v.Carries text (.refused · aside) fun t => .parsed t.spans t.diagnostics aside
  | .expandOnce text slots format sink =>
    v.Carries text (fun e => .expanded (.error (.parse e)) ⟨sink, format⟩) fun t =>
      let (result, out) := t.expand (v.before.context slots) ⟨sink, format⟩
      .expanded (result.mapError .io) out
  | _ => True

/-- The step sends what it found to the log of the session, in text order and nothing else, and carries the
problems of what it reads. -/
structure Accounts (v : Visit) (logged : List Diagnostic → List Entry) : Prop where
  entries : v.report.trail.entries = logged v.found
  ascending : v.found.Pairwise (·.offset < ·.offset)
  carried : v.Carried logged

/-- What comes of a text carries the problems of the text, so only the answer is left to be shown. -/
theorem carries_of_answer {v : Visit} {text : String} {ofError : ParseError → Answer}
    {ofTemplate : Template (Evaluator Buffer Context) → Answer}
    (answered : v.report.answer =
      match v.before.substituter.parse text with
      | .error e => ofError e
      | .ok t => ofTemplate t) : v.Carries text ofError ofTemplate := by
  unfold Carries
  cases outcome : v.before.substituter.parse text with
  | error e =>
    rw [outcome] at answered
    exact ⟨Substituter.diagnostics_of_refused outcome, answered⟩
  | ok t =>
    rw [outcome] at answered
    obtain ⟨-, rfl⟩ := Substituter.parse_eq_ok_iff.1 outcome
    exact ⟨rfl, answered⟩

end Visit

namespace Session

/-- The steps of a run, each with the session that it is taken in. -/
def visits (s : Session) : List Step → List Visit
  | [] => []
  | step :: steps => ⟨s, step⟩ :: (s.step step).1.visits steps

/-- Problems as the session logs them. -/
def logged (s : Session) : List Diagnostic → List Entry :=
  List.map fun d => ⟨s.substituter.problemLevel, d.message⟩

variable (s : Session)

/-! ### One step -/

theorem entries_trail_memory (text : String) :
    ((s.substituter.read text).trail .memory).entries = s.logged (s.substituter.problems text) := by
  rw [Reading.trail, Logger.receiveAll_memory, s.substituter.entries_read, Trail.entries_append]
  exact List.append_nil _

/-- A definition logs nothing, whatever becomes of it. -/
theorem silent_define (name : String) (binding : Binding) :
    (s.define name binding).1.log = s.log ∧ (s.define name binding).2.2.entries = [] := by
  unfold define
  cases (binding.evaluator? s.shape : Option (Evaluator Buffer Context)) with
  | none => exact ⟨rfl, rfl⟩
  | some eval =>
    simp only
    cases s.substituter.define name eval <;> exact ⟨rfl, rfl⟩

theorem silent_copy (id target : String) :
    (s.perform (.copy id target)).1.log = s.log ∧ (s.perform (.copy id target)).2.2.entries = [] := by
  simp only [perform]
  cases s.template? id <;> exact ⟨rfl, rfl⟩

/-- What a step sends to the log is what it found. -/
theorem entries_step (memory : s.logger = .memory) (step : Step) :
    (s.step step).2.trail.entries = s.logged (Visit.found ⟨s, step⟩) := by
  have read (text : String) :
      ((s.substituter.read text).trail s.logger).entries = s.logged (s.substituter.problems text) := by
    rw [memory, s.entries_trail_memory]
  cases step with
  | parse id text => exact read text
  | expandOnce text slots format sink => exact read text
  | define name binding => exact (s.silent_define name binding).2
  | copy id target => exact (s.silent_copy id target).2
  | _ => rfl

/-- A step adds what it sends out to the log; only clearing it takes anything away. -/
theorem log_step {step : Step} (kept : step ≠ .clearLog) :
    (s.step step).1.log = s.log ++ (s.step step).2.trail.entries := by
  have same : (s.perform step).1.log = s.log := by
    have read (id : String) (reading : Reading (Evaluator Buffer Context)) (aside : Option (List Entry)) :
        (s.keepReading id reading aside).1.log = s.log := by
      unfold keepReading
      cases reading.outcome <;> rfl
    cases step with
    | parse id text => exact read id _ none
    | parseAside id text => exact read id _ _
    | define name binding => exact (s.silent_define name binding).1
    | copy id target => exact (s.silent_copy id target).1
    | clearLog => exact absurd rfl kept
    | _ => rfl
  exact congrArg (· ++ _) same

theorem carried_step (step : Step) : Visit.Carried ⟨s, step⟩ s.logged := by
  have read (id text : String) (aside : Option (List Entry)) :
      (s.keepReading id (s.substituter.read text) aside).2 =
        match s.substituter.parse text with
        | .error e => .refused e aside
        | .ok t => .parsed t.spans t.diagnostics aside := by
    unfold keepReading Substituter.parse
    cases (s.substituter.read text).outcome <;> rfl
  cases step with
  | parse id text => exact Visit.carries_of_answer (read id text none)
  | parseAside id text =>
    refine Visit.carries_of_answer ?_
    rw [← s.entries_trail_memory]
    exact read id text _
  | expandOnce text slots format sink =>
    refine Visit.carries_of_answer ?_
    change Answer.expanded (s.substituter.expand text _ _).1 (s.substituter.expand text _ _).2 = _
    cases parsed : s.substituter.parse text with
    | error e => rw [Substituter.expand_of_refused parsed]
    | ok t => rw [Substituter.expand_of_parsed parsed]
  | _ => trivial

theorem accounts_step (memory : s.logger = .memory) (step : Step) :
    Visit.Accounts ⟨s, step⟩ s.logged where
  entries := s.entries_step memory step
  ascending := by
    cases step with
    | parse id text => exact s.substituter.ascending_problems text
    | expandOnce text slots format sink => exact s.substituter.ascending_problems text
    | _ => exact .nil
  carried := s.carried_step step

/-! ### Runs -/

theorem logger_step (step : Step) : (s.step step).1.logger = s.logger :=
  congrArg (fun config => config.logger.getD .standardError) (s.leads_step step).config

theorem logged_step (step : Step) : (s.step step).1.logged = s.logged := by
  unfold logged Substituter.problemLevel Substituter.lenient
  rw [(s.leads_step step).config]

theorem reports_run (steps : List Step) : (s.run steps).2 = (s.visits steps).map Visit.report := by
  induction steps generalizing s with
  | nil => rfl
  | cons step steps ih => exact congrArg ((s.step step).2 :: ·) (ih _)

theorem accounts_run {s : Session} (memory : s.logger = .memory) (steps : List Step) :
    ∀ v ∈ s.visits steps, v.Accounts s.logged := by
  intro v mem
  -- No step changes the receiver or the level, so all sessions of the run log as the first does.
  induction steps generalizing s with
  | nil => cases mem
  | cons step steps ih =>
    rcases List.mem_cons.1 mem with rfl | later
    · exact s.accounts_step memory step
    · have rest := ih ((s.logger_step step).trans memory) later
      rwa [s.logged_step] at rest

theorem log_run {s : Session} {steps : List Step} (kept : .clearLog ∉ steps) :
    (s.run steps).1.log = s.log ++ (s.visits steps).flatMap (·.report.trail.entries) := by
  induction steps generalizing s with
  | nil => exact (List.append_nil _).symm
  | cons step steps ih =>
    rw [List.mem_cons, not_or] at kept
    rw [run, ih kept.2, s.log_step (Ne.symm kept.1), List.append_assoc]
    rfl

end Session

/-- **No problem is lost, logged twice or sent astray.**  Let a session log to memory, and let it take any
steps but to clear that log.  In the end the log holds what it held before and then, step by step, one entry
for each problem that the step found: its message, as a warning if the substituter is lenient and as an error
if it is not.  Steps find problems in the texts that they parse for the session or expand once, in text
order.  The same problems are carried by the error or the template that comes of the text.  Parsing with a
log of its own enters the problems there instead, and all other steps find none. -/
theorem run_logs {s : Session} (memory : s.logger = .memory) {steps : List Step}
    (kept : .clearLog ∉ steps) :
    let level : Level := if s.substituter.lenient then .warn else .error
    let logged : List Diagnostic → List Entry := List.map fun d => ⟨level, d.message⟩
    (s.run steps).1.log = s.log ++ (s.visits steps).flatMap (fun v => logged v.found) ∧
    (s.run steps).2 = (s.visits steps).map Visit.report ∧
    ∀ v ∈ s.visits steps, v.Accounts logged := by
  intro level logged
  have accounts := Session.accounts_run memory steps
  refine ⟨?_, s.reports_run steps, accounts⟩
  rw [Session.log_run kept, List.flatMap_def, List.flatMap_def,
    List.map_congr_left fun v mem => (accounts v mem).entries]
  rfl

theorem run_logs_refused_aside_cut :
    let s : Session := { Session.start ⟨[]⟩ { logger := some .memory } with log := [⟨.info, "begun"⟩] }
    let steps : List Step :=
      [.define "x" (.value (.integer 7)), .define "x" (.value (.integer 8)), .parse "a" "@y@",
        .parseAside "a" "@z", .parse "b" "@x", .expand "b" [] {} (.limited 0),
        .expandOnce "@x@z" [] {} (.growing ByteArray.empty)]
    s.logger = .memory ∧ .clearLog ∉ steps ∧ (s.run steps).1.log =
      [⟨.info, "begun"⟩, ⟨.error, "Undefined variable `y` in substitution `@y`"⟩,
        ⟨.error, "Unterminated `@` at end of text"⟩,
        ⟨.error, "Undefined variable `z` in substitution `@z`"⟩] := by
  intro s steps
  have memory : s.logger = .memory := rfl
  have kept : .clearLog ∉ steps := by simp [steps]
  obtain ⟨log, -, -⟩ := run_logs memory kept
  refine ⟨memory, kept, log.trans ?_⟩
  -- All texts are read with the substituter that the two definitions leave behind.
  let defined := (s.run (steps.take 2)).1.substituter
  have twice : ((s.step (.define "x" (.value (.integer 7)))).1.step
      (.define "x" (.value (.integer 8)))).1.substituter = defined := rfl
  have same (s : Session) (step : Step) (noBinding : ∀ name, step.binds? name = none) :
      (s.step step).1.substituter = s.substituter := (s.leads_step step).substituter noBinding
  simp only [steps, Session.visits, List.flatMap_cons, Visit.found, same _ (.parse ..) fun _ => rfl,
    same _ (.parseAside ..) fun _ => rfl, same _ (.expand ..) fun _ => rfl, twice]
  have closedY : ∀ l ∈ [.compact 'y'], Lexeme.Closed defined.marker l := by decide
  have closedX : ∀ l ∈ [.compact 'x'], Lexeme.Closed defined.marker l := by decide
  have closedXZ : ∀ l ∈ [.compact 'x', .compact 'z'], Lexeme.Closed defined.marker l := by decide
  have readY : lexemes defined.marker "@y@".toList = [.compact 'y', .strayMarker] := by
    have whole := lexemes_spell_append closedY [defined.marker.char]
    rwa [lexemes_last] at whole
  have readX : lexemes defined.marker "@x".toList = [.compact 'x'] := lexemes_spell closedX
  have readXZ : lexemes defined.marker "@x@z".toList = [.compact 'x', .compact 'z'] :=
    lexemes_spell closedXZ
  simp only [Substituter.problems, Substituter.placed, readY, readX, readXZ]
  rfl

end TextTemplate

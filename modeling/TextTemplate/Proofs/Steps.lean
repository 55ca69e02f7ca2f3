import TextTemplate.Proofs.Definitions
import TextTemplate.Session

/-!
What a step changes in a session.

A definition may change the table of variables, setting or poisoning a cell changes the cells, and all other
steps change no more than the log and which templates are kept.  So what a session holds after a run can be
told from the steps of the run.

* `Session.leads_step`: all that a step can do to a session, its log apart.
* `Session.content_run`: a cell holds what it was last set to.
* `Session.find?_run`: a name stands for the first binding that was given to it.
* `Session.current_run`: every template that is kept is what its text is read as.
* `Session.report_run`: what is reported of a step is what the step does where the run has got to.
-/

namespace TextTemplate

namespace Step

/-- The binding that a step gives to `name`, if the name is free. -/
def binds? (name : String) : Step → Option Binding
  | define other binding => if name = other then some binding else none
  | _ => none

/-- The value that a step puts into `cell`. -/
def sets? (cell : String) : Step → Option Value
  | setCell other content => if cell = other then some content else none
  | _ => none

end Step

namespace Cells

theorem content_set (cells : Cells) (cell other : String) (v : Value) :
    (cells.set other v cell).content = if cell = other then v else (cells cell).content := by
  unfold set update
  by_cases same : cell = other
  · rw [if_pos same, if_pos same]
  · rw [if_neg same, if_neg same]

/-- A poisoned cell holds what it held. -/
theorem content_poison (cells : Cells) (cell other : String) :
    (cells.poison other cell).content = (cells cell).content := by
  unfold poison update
  by_cases same : cell = other
  · rw [if_pos same, same]
  · rw [if_neg same]

end Cells

namespace Session

/-- A template that is kept was kept before, or its text was read just now. -/
def Keeps (s : Session) (templates : List (String × Template (Evaluator Buffer Context))) : Prop :=
  ∀ entry ∈ templates,
    (∃ kept ∈ s.templates, entry.2 = kept.2) ∨ entry.2 = s.substituter.template entry.2.text

/-- What a step can do to a session.  Nothing is said of the log. -/
inductive Leads (s : Session) : Step → Session → Prop where
  | define {name : String} {binding : Binding} {eval : Evaluator Buffer Context} (log : List Entry) :
      binding.evaluator? s.shape = some eval →
      Leads s (.define name binding)
        { s with substituter := (s.substituter.defineNext (name, eval)).2, templates := [], log }
  | noSlot {name : String} {binding : Binding} (log : List Entry) :
      (binding.evaluator? s.shape : Option (Evaluator Buffer Context)) = none →
      Leads s (.define name binding) { s with log }
  | setCell (cell : String) (content : Value) (log : List Entry) :
      Leads s (.setCell cell content) { s with cells := s.cells.set cell content, log }
  | poisonCell (cell : String) (log : List Entry) :
      Leads s (.poisonCell cell) { s with cells := s.cells.poison cell, log }
  | other {step : Step} {templates : List (String × Template (Evaluator Buffer Context))} (log : List Entry) :
      (∀ name, step.binds? name = none) → (∀ cell, step.sets? cell = none) → s.Keeps templates →
      Leads s step { s with templates, log }

variable (s : Session)

/-! ### One step -/

/-- The templates that are there already may stay. -/
theorem keeps_templates : s.Keeps s.templates := fun entry mem => .inl ⟨entry, mem, rfl⟩

theorem keeps_drop (id : String) : s.Keeps (s.drop id).templates :=
  fun entry mem => s.keeps_templates entry (List.mem_filter.1 mem).1

theorem keeps_keep {id : String} {t : Template (Evaluator Buffer Context)}
    (kept : (∃ entry ∈ s.templates, t = entry.2) ∨ t = s.substituter.template t.text) :
    s.Keeps (s.keep id t).templates := by
  intro entry mem
  rcases List.mem_cons.1 mem with rfl | mem
  · exact kept
  · exact s.keeps_drop id entry mem

theorem mem_of_template? {id : String} {t : Template (Evaluator Buffer Context)} (kept : s.template? id = some t) :
    (id, t) ∈ s.templates := by
  obtain ⟨before, after, entries, -⟩ := List.lookup_eq_some_iff.1 kept
  simp [entries]

/-- Keeping what was read changes the kept templates only. -/
theorem keepReading_eq (id text : String) (aside : Option (List Entry)) :
    ∃ templates, s.Keeps templates ∧
      (s.keepReading id (s.substituter.read text) aside).1 = { s with templates } := by
  unfold keepReading
  cases outcome : (s.substituter.read text).outcome with
  | error e => exact ⟨_, s.keeps_drop id, rfl⟩
  | ok t =>
    obtain ⟨-, rfl⟩ := Substituter.parse_eq_ok_iff.1 outcome
    exact ⟨_, s.keeps_keep (.inr rfl), rfl⟩

/-- A text that is accepted is kept as the template that it is read as. -/
theorem template?_step_parse {id text : String} {t : Template (Evaluator Buffer Context)}
    (parsed : s.substituter.parse text = .ok t) :
    (s.step (.parse id text)).1.template? id = some t := by
  unfold Substituter.parse at parsed
  simp only [step, perform, keepReading, parsed]
  exact List.lookup_cons_self

theorem leads_define (name : String) (binding : Binding) :
    s.Leads (.define name binding) (s.step (.define name binding)).1 := by
  simp only [step, perform, define]
  cases stands : (binding.evaluator? s.shape : Option (Evaluator Buffer Context)) with
  | none => exact .noSlot _ stands
  | some eval =>
    have leads (log : List Entry) : s.Leads (.define name binding) _ := .define log stands
    unfold Substituter.defineNext at leads
    cases defined : s.substituter.define name eval with
    | error e =>
      simp only [defined] at leads ⊢
      exact leads _
    | ok substituter =>
      simp only [defined] at leads ⊢
      exact leads _

/-- All that a step can do to a session. -/
theorem leads_step (step : Step) : s.Leads step (s.step step).1 := by
  have read (step : Step) (id text : String) (aside : Option (List Entry)) (log : List Entry)
      (noBinding : ∀ name, step.binds? name = none) (noCell : ∀ cell, step.sets? cell = none) :
      s.Leads step { (s.keepReading id (s.substituter.read text) aside).1 with log } := by
    obtain ⟨templates, keeps, eq⟩ := s.keepReading_eq id text aside
    rw [eq]
    exact .other log noBinding noCell keeps
  cases step with
  | define name binding => exact s.leads_define name binding
  | setCell cell content => exact .setCell cell content _
  | poisonCell cell => exact .poisonCell cell _
  | parse id text => exact read _ id text none _ (fun _ => rfl) (fun _ => rfl)
  | parseAside id text => exact read _ id text _ _ (fun _ => rfl) (fun _ => rfl)
  | copy id target =>
    simp only [Session.step, perform]
    cases kept : s.template? id with
    | none => exact .other _ (fun _ => rfl) (fun _ => rfl) s.keeps_templates
    | some t =>
      have keeps : s.Keeps (s.keep target t).templates :=
        s.keeps_keep (.inl ⟨_, s.mem_of_template? kept, rfl⟩)
      exact .other _ (fun _ => rfl) (fun _ => rfl) keeps
  | _ => exact .other _ (fun _ => rfl) (fun _ => rfl) s.keeps_templates

namespace Leads

variable {s} {step : Step} {s' : Session}

theorem shape (leads : s.Leads step s') : s'.shape = s.shape := by
  cases leads <;> rfl

theorem config (leads : s.Leads step s') : s'.substituter.config = s.substituter.config := by
  cases leads with
  | define => exact Substituter.config_defineNext ..
  | _ => rfl

/-- Only a definition changes the substituter. -/
theorem substituter (leads : s.Leads step s') (noBinding : ∀ name, step.binds? name = none) :
    s'.substituter = s.substituter := by
  cases leads with
  | @define name =>
    have given := noBinding name
    rw [Step.binds?, if_pos rfl] at given
    cases given
  | _ => rfl

/-- Only a step that sets a cell changes what it holds. -/
theorem content (leads : s.Leads step s') (cell : String) :
    (s'.cells cell).content = (step.sets? cell).getD (s.cells cell).content := by
  cases leads with
  | define => rfl
  | noSlot => rfl
  | setCell other content =>
    rw [s.cells.content_set, Step.sets?]
    split <;> rfl
  | poisonCell other => exact s.cells.content_poison cell other
  | other _ _ noCell =>
    rw [noCell]
    rfl

/-- Only a definition of a name that is free changes what the name stands for. -/
theorem find? (leads : s.Leads step s') (name : String) :
    s'.substituter.table.find? name =
      (s.substituter.table.find? name).or ((step.binds? name).bind (·.evaluator? s.shape)) := by
  cases leads with
  | @define other binding eval _ stands =>
    rw [Substituter.find?_defineNext, Step.binds?]
    by_cases same : name = other
    · rw [if_pos same, if_pos same, Option.bind_some, stands]
    · rw [if_neg same, if_neg same, Option.bind_none]
  | @noSlot other binding _ absent =>
    rw [Step.binds?]
    by_cases same : name = other
    · rw [if_pos same, Option.bind_some, absent, Option.or_none]
    · rw [if_neg same, Option.bind_none, Option.or_none]
  | setCell => exact Option.or_none.symm
  | poisonCell => exact Option.or_none.symm
  | other _ noBinding => rw [noBinding, Option.bind_none, Option.or_none]

end Leads

/-- Every template that is kept is what its text is read as. -/
def Current (s : Session) : Prop :=
  ∀ entry ∈ s.templates, entry.2 = s.substituter.template entry.2.text

theorem current_start (shape : Shape) (config : Config) : (start shape config).Current := by
  intro entry mem
  cases mem

theorem Leads.current {s s' : Session} {step : Step} (leads : s.Leads step s') (current : s.Current) :
    s'.Current := by
  cases leads with
  | define => exact nofun
  | noSlot => exact current
  | setCell => exact current
  | poisonCell => exact current
  | other _ _ _ keeps =>
    intro entry mem
    rcases keeps entry mem with ⟨kept, before, eq⟩ | read
    · rw [eq]
      exact current kept before
    · exact read

/-! ### Runs -/

/-- What no step changes stays through a run. -/
theorem run_invariant {P : Session → Prop} (kept : ∀ s step, P s → P (s.step step).1) {s : Session}
    (start : P s) (steps : List Step) : P (s.run steps).1 := by
  induction steps generalizing s with
  | nil => exact start
  | cons step steps ih => exact ih (kept s step start)

theorem run_append (steps more : List Step) :
    s.run (steps ++ more) = (((s.run steps).1.run more).1, (s.run steps).2 ++ ((s.run steps).1.run more).2) := by
  induction steps generalizing s with
  | nil => rfl
  | cons step steps ih =>
    simp only [List.cons_append, run, ih]

theorem length_reports (steps : List Step) : (s.run steps).2.length = steps.length := by
  induction steps generalizing s with
  | nil => rfl
  | cons step steps ih => exact congrArg (· + 1) (ih _)

/-- Every step of a run is reported as it goes in the session that the steps before it lead to. -/
theorem report_run (before : List Step) (step : Step) (after : List Step) :
    (s.run (before ++ step :: after)).2[before.length]? = some ((s.run before).1.step step).2 := by
  rw [run_append, List.getElem?_append_right (Nat.le_of_eq (s.length_reports before)), length_reports,
    Nat.sub_self]
  rfl

theorem current_run {s : Session} (current : s.Current) (steps : List Step) : (s.run steps).1.Current :=
  run_invariant (fun s step => (s.leads_step step).current) current steps

/-- A cell holds what it was last set to. -/
theorem content_run (steps : List Step) (cell : String) :
    ((s.run steps).1.cells cell).content =
      ((steps.filterMap (Step.sets? cell)).getLast?).getD (s.cells cell).content := by
  induction steps generalizing s with
  | nil => rfl
  | cons step steps ih =>
    -- A later step that sets the cell has the last word.
    rw [run, ih, (s.leads_step step).content, List.filterMap_cons]
    cases step.sets? cell with
    | none => rfl
    | some content =>
      rw [List.getLast?_cons]
      rfl

/-- Steps that do not set a cell leave its content alone. -/
theorem content_run_of_not_mem {steps : List Step} {cell : String}
    (untouched : ∀ v, .setCell cell v ∉ steps) :
    ((s.run steps).1.cells cell).content = (s.cells cell).content := by
  have none : steps.filterMap (Step.sets? cell) = [] := by
    rw [List.filterMap_eq_nil_iff]
    intro step mem
    cases step with
    | setCell other v =>
      rw [Step.sets?, if_neg]
      rintro rfl
      exact untouched v mem
    | _ => rfl
  rw [content_run, none]
  rfl

/-- A name stands for the first binding that was given to it and that stands for anything. -/
theorem find?_run (steps : List Step) (name : String) :
    (s.run steps).1.substituter.table.find? name =
      (s.substituter.table.find? name).or
        ((steps.filterMap (Step.binds? name)).findSome? (·.evaluator? s.shape)) := by
  induction steps generalizing s with
  | nil => exact Option.or_none.symm
  | cons step steps ih =>
    -- What the table holds before the step is found first, and what later steps give is found last.
    rw [run, ih, (s.leads_step step).find?, (s.leads_step step).shape, List.filterMap_cons, Option.or_assoc]
    cases step.binds? name with
    | none => rfl
    | some binding =>
      rw [Option.bind_some, List.findSome?_cons]
      cases (binding.evaluator? s.shape : Option (Evaluator Buffer Context)) <;> rfl

end Session
end TextTemplate

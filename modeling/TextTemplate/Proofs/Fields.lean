import TextTemplate.Proofs.Cells

/-!
Variables that stand for fields of the context.

A field binding names its slot when the variable is defined, and from then on it reads one field of that slot.
So an expansion sees the context through the fields that its variables read, and how a binding came to name its
slot is forgotten.

* `Shape.slotOf?_eq_some_iff`: the slot that an accessor names; an owner names the only slot that it has.
* `Template.expand_eq_withValues`: a template writes as one that has the values in place of its variables.
* `Session.run_alike`: bindings that name the same slot may be exchanged in a run.
* `expand_fields`: two contexts that agree on what is read cannot be told apart by a template.
-/

namespace TextTemplate

/-! ### What is read -/

/-- The binding prints one value: its own, or a field of the context. -/
def Binding.isDirect : Binding → Bool
  | value _ | field _ _ => true
  | shared _ | custom _ => false

/-- The field of the context that a binding reads. -/
def Binding.field? (shape : Shape) : Binding → Option (Nat × String)
  | field accessor name => (shape.slotOf? accessor).map (·, name)
  | value _ | shared _ | custom _ => none

/-- The one value that a binding prints in a context. -/
def Binding.valueIn? (shape : Shape) (ctx : Context) : Binding → Option Value
  | value v => some v
  | field accessor name => (shape.slotOf? accessor).map (ctx.field · name)
  | shared _ | custom _ => none

/-- The variables of the template stand for the bindings of their names. -/
def Template.BoundBy {σ : Type} [Sink σ] (t : Template (Evaluator σ Context)) (shape : Shape)
    (bindingOf : String → Option Binding) : Prop :=
  ∀ sub ∈ t.substitutions, ∀ name eval, sub.replacement = .reference name eval →
    ∃ binding, bindingOf name = some binding ∧ binding.evaluator? shape = some eval

/-- A variable that the template refers to reads this field. -/
def Template.Reads {ε : Type} (t : Template ε) (shape : Shape) (bindingOf : String → Option Binding) (slot : Nat)
    (field : String) : Prop :=
  ∃ name binding, t.refersTo name = true ∧ bindingOf name = some binding ∧
    binding.field? shape = some (slot, field)

/-- The template whose names stand for values, and not for anything in a context. -/
def Template.withValues {σ ε : Type} [Sink σ] (t : Template ε) (valueOf : String → Option Value) :
    Template (Evaluator σ Unit) :=
  t.map fun name _ _ => (valueOf name).elim (pure ()) Writer.put

/-- The binding that a name has after a run: the first that was given to it and names a slot if it has to. -/
def Session.boundAfter (shape : Shape) (steps : List Step) (name : String) : Option Binding :=
  (steps.filterMap (Step.binds? name)).find? fun binding =>
    (binding.evaluator? shape : Option (Evaluator Buffer Context)).isSome

/-- The same step, or the same definition of a variable with another accessor to the same slot. -/
inductive Step.Alike (shape : Shape) : Step → Step → Prop where
  | refl (step : Step) : Alike shape step step
  | field {name field : String} {accessor accessor' : Accessor} :
      shape.slotOf? accessor = shape.slotOf? accessor' →
      Alike shape (.define name (.field accessor field)) (.define name (.field accessor' field))

/-! ### Slots -/

/-- A member stands in one place only if it stands neither before nor behind that place. -/
theorem forall_getElem?_iff {α : Type} {a : α} {before after : List α} :
    (∀ i, (before ++ a :: after)[i]? = some a ↔ i = before.length) ↔ a ∉ before ∧ a ∉ after := by
  constructor
  · intro only
    constructor
    · intro mem
      obtain ⟨i, inside, found⟩ := List.getElem_of_mem mem
      have at_i : (before ++ a :: after)[i]? = some a := by
        rw [List.getElem?_append_left inside, List.getElem?_eq_getElem inside, found]
      exact absurd ((only i).1 at_i) inside.ne
    · intro mem
      obtain ⟨i, found⟩ := List.getElem?_of_mem mem
      have at_i : (before ++ a :: after)[before.length + (i + 1)]? = some a := by
        rw [List.getElem?_append_right (Nat.le_add_right ..), Nat.add_sub_cancel_left, List.getElem?_cons_succ,
          found]
      have here := (only _).1 at_i
      omega
  · rintro ⟨first, last⟩ i
    constructor
    · intro found
      rcases Nat.lt_trichotomy i before.length with lt | rfl | gt
      · rw [List.getElem?_append_left lt] at found
        exact absurd (List.mem_of_getElem? found) first
      · rfl
      · obtain ⟨j, rfl⟩ := Nat.exists_eq_add_of_lt gt
        rw [Nat.add_assoc, List.getElem?_append_right (Nat.le_add_right ..), Nat.add_sub_cancel_left,
          List.getElem?_cons_succ] at found
        exact absurd (List.mem_of_getElem? found) last
    · rintro rfl
      rw [List.getElem?_append_right le_rfl, Nat.sub_self, List.getElem?_cons_zero]

namespace Shape

variable {shape : Shape} {slot : Nat}

/-- An owner of a slot is listed once if it owns no other slot. -/
theorem count_owners_iff {owner : Owner} (owned : shape.owners[slot]? = some owner) :
    shape.owners.count owner = 1 ↔ ∀ other, shape.owners[other]? = some owner ↔ other = slot := by
  obtain ⟨inside, found⟩ := List.getElem?_eq_some_iff.1 owned
  have split : shape.owners = shape.owners.take slot ++ owner :: shape.owners.drop (slot + 1) := by
    rw [← found, List.getElem_cons_drop, List.take_append_drop]
  generalize before_eq : shape.owners.take slot = before at split
  generalize shape.owners.drop (slot + 1) = after at split
  have place : slot = before.length := by rw [← before_eq, List.length_take_of_le inside.le]
  rw [split, place, forall_getElem?_iff, List.count_append, List.count_cons_self, ← List.count_eq_zero,
    ← List.count_eq_zero]
  omega

/-- An owner names a slot if it owns that slot and no other. -/
theorem slotOf?_owner_iff {owner : Owner} :
    shape.slotOf? (.owner owner) = some slot ↔ ∀ other, shape.owners[other]? = some owner ↔ other = slot := by
  constructor
  · intro named
    have owned := owner_of_slotOf? named
    rw [← count_owners_iff owned]
    simp only [slotOf?] at named
    split at named
    · assumption
    · cases named
  · intro only
    have owned := (only slot).2 rfl
    obtain ⟨inside, found⟩ := List.getElem?_eq_some_iff.1 owned
    simp only [slotOf?]
    rw [if_pos ((count_owners_iff owned).2 only), List.idxOf?_eq_some_iff]
    refine ⟨inside, found, fun other lt here => ?_⟩
    exact absurd ((only other).1 (List.getElem?_eq_some_iff.2 ⟨_, here⟩)) lt.ne

/-- **The slot that an accessor names.** -/
theorem slotOf?_eq_some_iff {accessor : Accessor} :
    shape.slotOf? accessor = some slot ↔
      match accessor with
      | .owner owner => ∀ other, shape.owners[other]? = some owner ↔ other = slot
      | .slot asked => asked = slot ∧ slot < shape.owners.length
      | .whole asked => asked = slot := by
  cases accessor with
  | owner owner => exact slotOf?_owner_iff
  | whole asked => simp [slotOf?]
  | slot asked =>
    simp only [slotOf?]
    constructor
    · intro named
      split at named
      · rename_i inside
        cases named
        exact ⟨rfl, inside⟩
      · cases named
    · rintro ⟨rfl, inside⟩
      rw [if_pos inside]

end Shape

/-! ### One template -/

variable {σ : Type} [Sink σ] {shape : Shape} {ctx ctx' : Context}

/-- A field binding is its slot, however that was named. -/
theorem Binding.evaluator?_congr {accessor accessor' : Accessor}
    (same : shape.slotOf? accessor = shape.slotOf? accessor') (field : String) :
    ((Binding.field accessor field).evaluator? shape : Option (Evaluator σ Context)) =
      (Binding.field accessor' field).evaluator? shape := by
  simp only [evaluator?, same]

/-- A binding that prints one value reads at most one field for it. -/
theorem Binding.put_of_isDirect {binding : Binding} {eval : Evaluator σ Context} (direct : binding.isDirect = true)
    (stands : binding.evaluator? shape = some eval)
    (same : ∀ slot field, binding.field? shape = some (slot, field) →
      ctx.field slot field = ctx'.field slot field) :
    ∃ v, binding.valueIn? shape ctx = some v ∧ eval ctx' = Writer.put v := by
  cases binding with
  | value v =>
    cases stands
    exact ⟨v, rfl, rfl⟩
  | field accessor name =>
    obtain ⟨slot, named, rfl⟩ := Option.map_eq_some_iff.1 stands
    have reads : (field accessor name).field? shape = some (slot, name) := by rw [field?, named]; rfl
    refine ⟨ctx.field slot name, ?_, ?_⟩
    · rw [valueIn?, named]
      rfl
    · rw [same slot name reads]
  | shared cell => cases direct
  | custom actions => cases direct

/-- The variables of a text stand for bindings if those of the table do. -/
theorem Substituter.boundBy_of_parse {s : Substituter (Evaluator σ Context)} {bindingOf : String → Option Binding}
    (bound : ∀ name eval, s.table.find? name = some eval →
      ∃ binding, bindingOf name = some binding ∧ binding.evaluator? shape = some eval) {text : String}
    {t : Template (Evaluator σ Context)} (parsed : s.parse text = .ok t) : t.BoundBy shape bindingOf := by
  obtain ⟨-, rfl⟩ := Substituter.parse_eq_ok_iff.1 parsed
  intro sub mem name eval refers
  exact bound name eval (Substituter.find?_of_reference mem refers)

namespace Template

variable {t : Template (Evaluator σ Context)} {bindingOf : String → Option Binding}

/-- Every variable of the template prints one value, which is the same in the two contexts. -/
theorem BoundBy.put_of_reference (bound : t.BoundBy shape bindingOf)
    (direct : ∀ name binding, t.refersTo name = true → bindingOf name = some binding → binding.isDirect = true)
    (agree : ∀ slot field, t.Reads shape bindingOf slot field → ctx.field slot field = ctx'.field slot field)
    {sub : Substitution (Evaluator σ Context)} (mem : sub ∈ t.substitutions) {name : String}
    {eval : Evaluator σ Context} (refers : sub.replacement = .reference name eval) :
    ∃ v, (bindingOf name).bind (·.valueIn? shape ctx) = some v ∧ eval ctx' = Writer.put v := by
  have referred := (t.refersTo_iff_reference name).2 ⟨sub, mem, eval, refers⟩
  obtain ⟨binding, given, stands⟩ := bound sub mem name eval refers
  obtain ⟨v, value, put⟩ := Binding.put_of_isDirect (direct name binding referred given) stands
    fun slot field reads => agree slot field ⟨name, binding, referred, given, reads⟩
  refine ⟨v, ?_, put⟩
  rw [given]
  exact value

/-- A template whose variables print values may as well have these values in their places. -/
theorem expand_eq_withValues {valueOf : String → Option Value}
    (stands : ∀ sub ∈ t.substitutions, ∀ name eval, sub.replacement = .reference name eval →
      ∃ v, valueOf name = some v ∧ eval ctx = Writer.put v) :
    t.expand ctx = (t.withValues valueOf).expand () := by
  unfold expand withValues
  simp only [Template.map, List.map_map]
  refine congrArg Writer.all (List.map_congr_left fun piece mem => ?_)
  cases piece with
  | literal text => rfl
  | substitution sub =>
    have listed : sub ∈ t.substitutions := List.mem_filterMap.2 ⟨_, mem, rfl⟩
    obtain ⟨start, stop, replacement⟩ := sub
    cases replacement with
    | marker => rfl
    | omitted => rfl
    | reference name eval =>
      obtain ⟨v, value, put⟩ := stands _ listed name eval rfl
      simp only [Function.comp_apply, Piece.map, Substitution.map, Replacement.map, Piece.write, put, value]
      rfl

end Template

/-! ### Runs -/

/-- The first value that is found is that of the first member that has one. -/
theorem findSome?_eq_bind_find? {α β : Type} (f : α → Option β) (l : List α) :
    l.findSome? f = (l.find? fun a => (f a).isSome).bind f := by
  induction l with
  | nil => rfl
  | cons a l ih =>
    rw [List.findSome?_cons, List.find?_cons]
    cases h : f a with
    | none => exact ih
    | some b => exact h.symm

namespace Session

variable {s : Session}

/-- Templates that a session keeps are bound by the bindings of its run. -/
theorem boundBy_run {config : Config} {steps : List Step} {id : String} {t : Template (Evaluator Buffer Context)}
    (kept : ((start shape config).run steps).1.template? id = some t) :
    t.BoundBy shape (boundAfter shape steps) := by
  intro sub mem name eval refers
  -- A template that is kept is what its text is read as now, whenever it was read.
  have read : t = Substituter.template _ t.text :=
    current_run (current_start shape config) steps _ (mem_of_template? _ kept)
  rw [read] at mem
  have found := Substituter.find?_of_reference mem refers
  rw [find?_run] at found
  change none.or _ = _ at found
  rw [Option.none_or, findSome?_eq_bind_find?] at found
  exact Option.bind_eq_some_iff.1 found

/-- A step does the same with another accessor to the same slot. -/
theorem step_alike {step step' : Step} (alike : step.Alike s.shape step') : s.step step = s.step step' := by
  cases alike with
  | refl => rfl
  | field same => simp only [Session.step, perform, define, Binding.evaluator?_congr same]

/-- **Accessors to the same slot may be exchanged** in a run: nothing that is seen of it changes. -/
theorem run_alike {steps steps' : List Step} (alike : List.Forall₂ (Step.Alike s.shape) steps steps') :
    s.run steps = s.run steps' := by
  generalize known : s.shape = shape at alike
  induction alike generalizing s with
  | nil => rfl
  | @cons step step' steps steps' first _ ih =>
    have same := step_alike (known ▸ first)
    have shape_after : (s.step step).1.shape = shape := (s.leads_step step).shape.trans known
    simp only [run]
    rw [← same, ih shape_after]

end Session

/-- **What an expansion sees of the context.**  Let the shape be any, and let a session define variables and read
templates in any steps.  Every reference of a template that it keeps then stands for the first binding that was
given to the name and names a slot if it has to; and so it is with any substituter whose variables stand for
bindings.  Let all variables that a template refers to be values or fields, and take any two contexts in which the
fields that these variables read have the same values; other fields, slots and cells may differ in any way.
Expanding the template then comes to the same in both, for every format and every sink: it prints the values and
the fields in their places, each field from the slot that its binding names.  Into a buffer that is one text.  An
owner names the slot that it owns, if it owns no other; a slot that is named is that slot, whether others hold
fields of the same owner or not; and a look at the whole context reads the slot that it picks.  Accessors to the
same slot give the same variable.  So if definitions of fields name their slots in another one of these ways, the
run is the same with all that is seen of it, for all texts that it reads and expands. -/
theorem expand_fields (shape : Shape) :
    (∀ config steps id t, ((Session.start shape config).run steps).1.template? id = some t →
      t.BoundBy shape (Session.boundAfter shape steps)) ∧
    (∀ (σ : Type) [Sink σ] (s : Substituter (Evaluator σ Context)) (bindingOf : String → Option Binding),
      (∀ name eval, s.table.find? name = some eval →
        ∃ binding, bindingOf name = some binding ∧ binding.evaluator? shape = some eval) →
      ∀ text t, s.parse text = .ok t → t.BoundBy shape bindingOf) ∧
    (∀ (σ : Type) [Sink σ] (t : Template (Evaluator σ Context)) (bindingOf : String → Option Binding),
      t.BoundBy shape bindingOf →
      (∀ name binding, t.refersTo name = true → bindingOf name = some binding → binding.isDirect = true) →
      ∀ ctx ctx' : Context,
        (∀ slot field, t.Reads shape bindingOf slot field → ctx.field slot field = ctx'.field slot field) →
        ∀ out : Output σ,
          let valueOf name := (bindingOf name).bind (·.valueIn? shape ctx)
          t.expand ctx out = (t.withValues valueOf).expand () out ∧ t.expand ctx' out = t.expand ctx out) ∧
    (∀ (t : Template (Evaluator Buffer Context)) (bindingOf : String → Option Binding),
      t.BoundBy shape bindingOf →
      (∀ name binding, t.refersTo name = true → bindingOf name = some binding → binding.isDirect = true) →
      ∀ (ctx : Context) (out : Output Buffer),
        let valueOf name := (bindingOf name).bind (·.valueIn? shape ctx)
        t.expand ctx out = Writer.text (t.printed out.format valueOf) out) ∧
    (∀ accessor slot, shape.slotOf? accessor = some slot ↔
      match accessor with
      | .owner owner => ∀ other, shape.owners[other]? = some owner ↔ other = slot
      | .slot asked => asked = slot ∧ slot < shape.owners.length
      | .whole asked => asked = slot) ∧
    (∀ (σ : Type) [Sink σ] (accessor accessor' : Accessor) (field : String),
      shape.slotOf? accessor = shape.slotOf? accessor' →
      ((Binding.field accessor field).evaluator? shape : Option (Evaluator σ Context)) =
        (Binding.field accessor' field).evaluator? shape) ∧
    ∀ config steps steps', List.Forall₂ (Step.Alike shape) steps steps' →
      (Session.start shape config).run steps = (Session.start shape config).run steps' := by
  refine ⟨?kept, ?parsed, ?expanded, ?text, ?named, ?same, ?exchanged⟩
  case kept =>
    intro config steps id t kept
    exact Session.boundBy_run kept
  case parsed =>
    intro σ _ s bindingOf bound text t parsed
    exact Substituter.boundBy_of_parse bound parsed
  case expanded =>
    intro σ _ t bindingOf bound direct ctx ctx' agree out valueOf
    have here : t.expand ctx = (t.withValues valueOf).expand () :=
      Template.expand_eq_withValues fun _ mem _ _ => bound.put_of_reference direct (fun _ _ _ => rfl) mem
    have there : t.expand ctx' = (t.withValues valueOf).expand () :=
      Template.expand_eq_withValues fun _ mem _ _ => bound.put_of_reference direct agree mem
    exact ⟨congrFun here out, congrFun (there.trans here.symm) out⟩
  case text =>
    intro t bindingOf bound direct ctx out valueOf
    exact Template.expand_eq_text (fun _ mem _ _ => bound.put_of_reference direct (fun _ _ _ => rfl) mem) out
  case named =>
    intro accessor slot
    exact Shape.slotOf?_eq_some_iff
  case same =>
    intro σ _ accessor accessor' field same
    exact Binding.evaluator?_congr same field
  case exchanged =>
    intro config steps steps' alike
    exact Session.run_alike alike

theorem expand_fields_same_owner :
    let shape : Shape := ⟨[0, 0, 1]⟩
    let port : Accessor → Binding := (.field · "port")
    let steps : List Step :=
      [.define "h" (port (.owner 0)), .define "l" (port (.slot 0)), .define "r" (port (.slot 1)),
        .define "h" (.field (.owner 1) "host"), .parse "t" "@l@r@h"]
    let steps' : List Step :=
      [.define "h" (port (.slot 3)), .define "l" (port (.whole 0)), .define "r" (port (.slot 1)),
        .define "h" (.field (.whole 2) "host"), .parse "t" "@l@r@h"]
    let s := ((Session.start shape {}).run steps).1
    let slots : List Fields := [[("port", .integer 80)], [("port", .integer 8080)], [("host", .text "x")]]
    let slots' : List Fields :=
      [[("host", .text "y"), ("port", .integer 80)], [("port", .integer 8080)], [("host", .text "x")]]
    shape.slotOf? (.owner 0) = none ∧ shape.slotOf? (.owner 1) = some 2 ∧
      (Session.start shape {}).run steps = (Session.start shape {}).run steps' ∧
      ∃ t, s.template? "t" = some t ∧
        t.expand ⟨slots, .untouched⟩ ⟨.growing ByteArray.empty, {}⟩ =
          (.ok (), ⟨.growing "808080x".toUTF8, {}⟩) ∧
        t.expand ⟨slots', Cells.untouched.poison "c"⟩ ⟨.growing ByteArray.empty, {}⟩ =
          (.ok (), ⟨.growing "808080x".toUTF8, {}⟩) := by
  intro shape port steps steps' s slots slots'
  obtain ⟨bound, -, expanded, text, named, -, exchanged⟩ := expand_fields shape
  refine ⟨?_, ?_, ?_, ?_⟩
  · cases slot : shape.slotOf? (.owner 0) with
    | none => rfl
    | some slot =>
      have only := (named _ _).1 slot
      have first : 0 = _ := (only 0).1 rfl
      have second : 1 = _ := (only 1).1 rfl
      omega
  · rfl
  · apply exchanged
    exact .cons (.field rfl) (.cons (.field rfl) (.cons (.refl _) (.cons (.field rfl) (.cons (.refl _) .nil))))
  · let defined := ((Session.start shape {}).run (steps.take 4)).1
    let t := defined.substituter.template "@l@r@h"
    have closed : ∀ l ∈ [.compact 'l', .compact 'r', .compact 'h'],
        Lexeme.Closed defined.substituter.marker l := by decide
    have read : lexemes defined.substituter.marker "@l@r@h".toList =
        [.compact 'l', .compact 'r', .compact 'h'] := lexemes_spell closed
    have parsed : defined.substituter.parse "@l@r@h" = .ok t := by
      apply Substituter.parse_of_clean
      rw [Substituter.problems, Substituter.placed, read]
      rfl
    have kept : s.template? "t" = some t := defined.template?_step_parse parsed
    have given (name : String) (binding : Binding)
        (found : Session.boundAfter shape steps name = some binding) :
        binding = port (.owner 0) ∨ binding = port (.slot 0) ∨ binding = port (.slot 1) ∨
          binding = .field (.owner 1) "host" := by
      have listed := Session.mem_of_binds? (List.mem_of_find?_eq_some found)
      simp only [steps, List.mem_cons, Step.define.injEq, List.mem_nil_iff, reduceCtorEq, or_false] at listed
      tauto
    have direct (name : String) (binding : Binding) (_ : t.refersTo name = true)
        (found : Session.boundAfter shape steps name = some binding) : binding.isDirect = true := by
      rcases given name binding found with rfl | rfl | rfl | rfl <;> rfl
    have agree (slot : Nat) (field : String)
        (reads : t.Reads shape (Session.boundAfter shape steps) slot field) :
        Context.field ⟨slots, .untouched⟩ slot field =
          Context.field ⟨slots', Cells.untouched.poison "c"⟩ slot field := by
      obtain ⟨name, binding, -, found, reads⟩ := reads
      rcases given name binding found with rfl | rfl | rfl | rfl <;> cases reads <;> rfl
    have standing := bound {} steps "t" t kept
    have here := text t _ standing direct ⟨slots, .untouched⟩ ⟨.growing ByteArray.empty, {}⟩
    have there := (expanded Buffer t _ standing direct _ _ agree ⟨.growing ByteArray.empty, {}⟩).2
    have printed : t.printed {} (fun name => (Session.boundAfter shape steps name).bind
        (·.valueIn? shape ⟨slots, .untouched⟩)) = "808080x" := by
      unfold t Template.printed Substituter.template Substituter.placed
      rw [read]
      rfl
    have written := here.trans (Writer.emits_bytes _ {} ByteArray.empty)
    rw [printed, ByteArray.empty_append] at written
    exact ⟨t, kept, written, there.trans written⟩

end TextTemplate

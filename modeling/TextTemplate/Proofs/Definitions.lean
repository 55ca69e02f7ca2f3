import Mathlib
import TextTemplate.Proofs.Expansion
import TextTemplate.Text.Order

/-!
Definitions in a row.

A substituter starts without variables, and every call either binds a new name or is refused.  What the
calls leave behind is a search through them from the first: it does not depend on where refused calls stand
between the others, nor, once every name has found its first call, on the order of the calls.

* `find?_defineNext`: one call is searched after all that stood in the table before it.
* `eq_of_lookup_eq`: entries in ascending order are known by what is found among them.
* `Variables.Holds`: what a run of calls and the table have to do with each other.
* `defineAll_ofConfig`: what a run of definitions leaves behind, told by the calls alone.
-/

namespace TextTemplate

variable {ε : Type}

/-- A call that defines a variable: the name, and what it is to write. -/
abbrev Definition (ε : Type) : Type := String × ε

namespace Substituter

/-- One call.  A refused one leaves the substituter as it was. -/
def defineNext (s : Substituter ε) (call : Definition ε) : Except SetupError Unit × Substituter ε :=
  match s.define call.1 call.2 with
  | .ok s => (.ok (), s)
  | .error e => (.error e, s)

/-- Calls in order, each on what the one before it left behind. -/
def defineAll (s : Substituter ε) : List (Definition ε) → List (Except SetupError Unit) × Substituter ε
  | [] => ([], s)
  | call :: calls =>
    let (result, s) := s.defineNext call
    let (results, s) := s.defineAll calls
    (result :: results, s)

end Substituter

/-! ### Entries in ascending order -/

theorem isSome_lookup_iff {entries : List (String × ε)} {name : String} :
    (entries.lookup name).isSome = true ↔ name ∈ entries.map Prod.fst := by
  simp [List.lookup_isSome_iff]

theorem lookup_eq_none_of_lt {entries : List (String × ε)} {name : String}
    (below : ∀ other ∈ entries.map Prod.fst, name < other) : entries.lookup name = none := by
  rw [List.lookup_eq_none_iff]
  intro entry mem
  have differ := String.ne_of_lt (below entry.1 (List.mem_map_of_mem mem))
  simpa using differ

/-- No name before the first one is found. -/
theorem le_of_lookup {entry : String × ε} {entries : List (String × ε)} {name : String}
    {eval : ε} (ascending : ((entry :: entries).map Prod.fst).Pairwise (· < ·))
    (found : (entry :: entries).lookup name = some eval) : entry.1 ≤ name := by
  refine String.not_lt.1 fun less => ?_
  have absent : (entry :: entries).lookup name = none := by
    apply lookup_eq_none_of_lt
    intro other mem
    rcases List.mem_cons.1 mem with rfl | later
    · exact less
    · exact String.lt_trans less ((List.pairwise_cons.1 ascending).1 other later)
  rw [absent] at found
  cases found

/-- Entries in ascending order are known by what is found among them. -/
theorem eq_of_lookup_eq {xs ys : List (String × ε)}
    (ascending : (xs.map Prod.fst).Pairwise (· < ·)) (ascending' : (ys.map Prod.fst).Pairwise (· < ·))
    (same : ∀ name, xs.lookup name = ys.lookup name) : xs = ys := by
  induction xs generalizing ys with
  | nil =>
    cases ys with
    | nil => rfl
    | cons y ys => cases (same y.1).trans List.lookup_cons_self
  | cons x xs ih =>
    cases ys with
    | nil => cases (same x.1).symm.trans List.lookup_cons_self
    | cons y ys =>
      obtain ⟨name, eval⟩ := x
      obtain ⟨name', eval'⟩ := y
      -- Each list starts with the least of the names that are found in it.
      obtain rfl : name = name' := String.le_antisymm
        (le_of_lookup ascending ((same name').trans List.lookup_cons_self))
        (le_of_lookup ascending' ((same name).symm.trans List.lookup_cons_self))
      obtain ⟨below, later⟩ := List.pairwise_cons.1 ascending
      obtain ⟨below', later'⟩ := List.pairwise_cons.1 ascending'
      have first := same name
      rw [List.lookup_cons_self, List.lookup_cons_self] at first
      obtain rfl := Option.some.inj first
      have rest : xs = ys := by
        refine ih later later' fun other => ?_
        by_cases here : other = name
        · rw [here, lookup_eq_none_of_lt below, lookup_eq_none_of_lt below']
        · have found := same other
          rwa [Variables.lookup_cons, Variables.lookup_cons, if_neg here, if_neg here] at found
      rw [rest]

/-! ### One call -/

namespace Variables

theorem find?_eq_none_iff {table : Variables ε} {name : String} :
    table.find? name = none ↔ table.isDefined name = false := by
  unfold isDefined
  cases table.find? name <;> simp

theorem mem_names_iff {table : Variables ε} {name : String} :
    name ∈ table.names ↔ table.isDefined name = true := isSome_lookup_iff.symm

theorem mem_names_insertEntry {name other : String} {eval : ε}
    {entries : List (String × ε)} :
    other ∈ (insertEntry name eval entries).map Prod.fst ↔ other = name ∨ other ∈ entries.map Prod.fst := by
  induction entries with
  | nil => simp [insertEntry]
  | cons entry entries ih =>
    unfold insertEntry
    split
    · simp
    · rw [List.map_cons, List.mem_cons, ih, List.map_cons, List.mem_cons]
      exact or_left_comm

theorem ascending_insertEntry {name : String} {eval : ε} {entries : List (String × ε)}
    (ascending : (entries.map Prod.fst).Pairwise (· < ·)) (fresh : name ∉ entries.map Prod.fst) :
    ((insertEntry name eval entries).map Prod.fst).Pairwise (· < ·) := by
  induction entries with
  | nil => exact List.pairwise_singleton ..
  | cons entry entries ih =>
    obtain ⟨below, later⟩ := List.pairwise_cons.1 ascending
    rw [List.map_cons, List.mem_cons, not_or] at fresh
    unfold insertEntry
    split
    · rename_i less
      refine List.pairwise_cons.2 ⟨fun other mem => ?_, ascending⟩
      rcases List.mem_cons.1 mem with rfl | mem
      · exact less
      · exact String.lt_trans less (below other mem)
    · rename_i notLess
      refine List.pairwise_cons.2 ⟨fun other mem => ?_, ih later fresh.2⟩
      rcases mem_names_insertEntry.1 mem with rfl | mem
      · exact String.not_le.1 fun atMost => fresh.1 (String.le_antisymm atMost (String.not_lt.1 notLess))
      · exact below other mem

end Variables

namespace Substituter

variable (s : Substituter ε) (call : Definition ε)

theorem defineNext_of_defined (defined : s.isDefined call.1 = true) :
    s.defineNext call = (.error (.duplicateVariable call.1), s) := by
  unfold isDefined at defined
  unfold defineNext define Variables.define
  rw [if_pos defined]
  rfl

theorem defineNext_of_fresh (fresh : s.isDefined call.1 = false) :
    s.defineNext call = (.ok (), { s with table := s.table.insert call.1 call.2 }) := by
  unfold defineNext
  rw [s.define_of_fresh fresh]

theorem config_defineNext : (s.defineNext call).2.config = s.config := by
  cases defined : s.isDefined call.1 with
  | true => rw [s.defineNext_of_defined call defined]
  | false => rw [s.defineNext_of_fresh call defined]

/-- A call is searched after all that stood in the table before it. -/
theorem find?_defineNext (name : String) :
    (s.defineNext call).2.table.find? name =
      (s.table.find? name).or (if name = call.1 then some call.2 else none) := by
  cases defined : s.isDefined call.1 with
  | true =>
    rw [s.defineNext_of_defined call defined]
    cases found : s.table.find? name with
    | some eval => rfl
    | none =>
      have differ : name ≠ call.1 := by
        rintro rfl
        exact Bool.eq_false_iff.1 (Variables.find?_eq_none_iff.1 found) defined
      rw [if_neg differ]
      rfl
  | false =>
    rw [s.defineNext_of_fresh call defined, Variables.find?_insert defined]
    by_cases same : name = call.1
    · subst same
      rw [if_pos rfl, if_pos rfl, Variables.find?_eq_none_iff.2 defined]
      rfl
    · rw [if_neg same, if_neg same, Option.or_none]

theorem ascending_defineNext (ascending : s.table.names.Pairwise (· < ·)) :
    (s.defineNext call).2.table.names.Pairwise (· < ·) := by
  cases defined : s.isDefined call.1 with
  | true =>
    rw [s.defineNext_of_defined call defined]
    exact ascending
  | false =>
    rw [s.defineNext_of_fresh call defined]
    refine Variables.ascending_insertEntry ascending fun mem => ?_
    exact Bool.eq_false_iff.1 defined (Variables.mem_names_iff.1 mem)

end Substituter

/-! ### Runs of calls -/

/-- The table holds the first binding of every name among the calls, in ascending order of the names. -/
structure Variables.Holds (table : Variables ε) (calls : List (Definition ε)) : Prop where
  find?_eq : ∀ name, table.find? name = calls.lookup name
  ascending : table.names.Pairwise (· < ·)

namespace Variables.Holds

variable {table : Variables ε} {calls : List (Definition ε)}

theorem empty : (Variables.empty : Variables ε).Holds [] := ⟨fun _ => rfl, .nil⟩

/-- The defined names are those of the calls. -/
theorem isDefined_iff (holds : table.Holds calls) {name : String} :
    table.isDefined name = true ↔ name ∈ calls.map Prod.fst := by
  rw [isDefined, holds.find?_eq, isSome_lookup_iff]

theorem defineNext {s : Substituter ε} (holds : s.table.Holds calls) (call : Definition ε) :
    (s.defineNext call).2.table.Holds (calls ++ [call]) := by
  refine ⟨fun name => ?_, s.ascending_defineNext call holds.ascending⟩
  rw [s.find?_defineNext, holds.find?_eq, List.lookup_append]
  exact congrArg (calls.lookup name).or (lookup_cons name call.1 call.2 []).symm

/-- Tables that hold the same bindings are the same. -/
theorem eq_of_lookup {table' : Variables ε} {calls' : List (Definition ε)} (holds : table.Holds calls)
    (holds' : table'.Holds calls') (same : ∀ name, calls.lookup name = calls'.lookup name) :
    table = table' := by
  have entries : table.entries = table'.entries := by
    refine eq_of_lookup_eq holds.ascending holds'.ascending fun name => ?_
    rw [← find?, ← find?, holds.find?_eq, holds'.find?_eq, same]
  obtain ⟨_⟩ := table
  obtain ⟨_⟩ := table'
  exact congrArg Variables.mk entries

end Variables.Holds

namespace Substituter

variable {s : Substituter ε} {before : List (Definition ε)}

/-- A call is refused if and only if its name was used before. -/
theorem result_defineNext (holds : s.table.Holds before) (call : Definition ε) :
    (s.defineNext call).1 =
      if call.1 ∈ before.map Prod.fst then .error (.duplicateVariable call.1) else .ok () := by
  cases defined : s.isDefined call.1 with
  | true => rw [s.defineNext_of_defined call defined, if_pos (holds.isDefined_iff.1 defined)]
  | false =>
    have unused : call.1 ∉ before.map Prod.fst :=
      fun mem => Bool.eq_false_iff.1 defined (holds.isDefined_iff.2 mem)
    rw [s.defineNext_of_fresh call defined, if_neg unused]

/-- What a run of calls on a table that holds earlier ones comes to. -/
theorem defineAll_eq (holds : s.table.Holds before) (calls : List (Definition ε)) :
    (∀ i, (s.defineAll calls).1[i]? = calls[i]?.map fun call =>
        if call.1 ∈ (before ++ calls.take i).map Prod.fst then .error (.duplicateVariable call.1)
        else .ok ()) ∧
      (s.defineAll calls).2.config = s.config ∧
      (s.defineAll calls).2.table.Holds (before ++ calls) := by
  induction calls generalizing s before with
  | nil =>
    refine ⟨fun i => rfl, rfl, ?_⟩
    rw [List.append_nil]
    exact holds
  | cons call calls ih =>
    obtain ⟨results, config, after⟩ := ih (holds.defineNext call)
    refine ⟨fun i => ?_, config.trans (s.config_defineNext call), ?_⟩
    · cases i with
      | zero =>
        rw [List.take_zero, List.append_nil]
        exact congrArg some (result_defineNext holds call)
      | succ i =>
        have later := results i
        rw [List.append_assoc, List.singleton_append] at later
        exact later
    · rw [List.append_assoc, List.singleton_append] at after
      exact after

theorem defineAll_append (s : Substituter ε) (before calls : List (Definition ε)) :
    (s.defineAll (before ++ calls)).2 = ((s.defineAll before).2.defineAll calls).2 := by
  induction before generalizing s with
  | nil => rfl
  | cons call before ih => exact ih _

end Substituter

/-- **What definitions leave behind.**  Call a fresh substituter to define variables, in any order and as
often as one likes.  A call is refused if and only if its name was used by a call before it, whether the
substituter is lenient or not, and it then changes nothing.  In the end the defined names are those of the
calls, in the order of their bytes; and in every text every reference stands for the first binding of its
name, so that expanding into a buffer writes what a search through the calls from the first finds.  Calls that bind the
same names to the same first bindings, in whatever order, leave the same substituter behind. -/
theorem defineAll_ofConfig {γ : Type} (config : Config) (calls : List (Definition (Evaluator Buffer γ))) :
    let fresh : Substituter (Evaluator Buffer γ) := .ofConfig config
    let results := (fresh.defineAll calls).1
    let s := (fresh.defineAll calls).2
    (∀ i : Nat, results[i]? = calls[i]?.map fun call =>
      if call.1 ∈ (calls.take i).map Prod.fst then .error (.duplicateVariable call.1) else .ok ()) ∧
    (∀ call : Definition (Evaluator Buffer γ), call.1 ∈ calls.map Prod.fst →
      (fresh.defineAll (calls ++ [call])).2 = s) ∧
    (∀ name, s.isDefined name = true ↔ name ∈ calls.map Prod.fst) ∧
    (∀ name, name ∈ s.table.names ↔ name ∈ calls.map Prod.fst) ∧
    s.table.names.Pairwise (fun a b => Text.bytes a < Text.bytes b) ∧
    (∀ text t, s.parse text = .ok t →
      (∀ sub ∈ t.substitutions, ∀ name eval, sub.replacement = .reference name eval →
        calls.lookup name = some eval) ∧
      ∀ ctx, t.expand ctx = writeLexemes config.marker ⟨calls⟩ ctx (lexemes config.marker text.toList)) ∧
    ∀ calls' : List (Definition (Evaluator Buffer γ)), (∀ name, calls'.lookup name = calls.lookup name) →
      (fresh.defineAll calls').2 = s := by
  intro fresh results s
  have start : fresh.table.Holds [] := Variables.Holds.empty
  obtain ⟨answers, config_eq, holds⟩ := Substituter.defineAll_eq start calls
  rw [List.nil_append] at holds
  have defined (name : String) : s.isDefined name = true ↔ name ∈ calls.map Prod.fst := holds.isDefined_iff
  refine ⟨answers, ?_, defined, ?_, ?_, ?_, ?_⟩
  · intro call used
    rw [Substituter.defineAll_append]
    change (Substituter.defineNext _ call).2 = _
    rw [Substituter.defineNext_of_defined _ call (holds.isDefined_iff.2 used)]
  · intro name
    rw [Variables.mem_names_iff]
    exact defined name
  · exact holds.ascending.imp Text.bytes_lt
  · intro text t parsed
    obtain ⟨-, rfl⟩ := Substituter.parse_eq_ok_iff.1 parsed
    refine ⟨fun sub mem name eval refers => ?_, fun ctx => ?_⟩
    · rw [← holds.find?_eq]
      exact Substituter.find?_of_reference mem refers
    · rw [Substituter.expand_template, Substituter.marker, config_eq]
      exact writeLexemes_congr ctx fun _ _ name _ => holds.find?_eq name
  · intro calls' same
    obtain ⟨-, config_eq', holds'⟩ := Substituter.defineAll_eq start calls'
    rw [List.nil_append] at holds'
    have sameConfig := config_eq'.trans config_eq.symm
    have sameTable := holds'.eq_of_lookup holds same
    exact (congrArg (Substituter.mk _) sameTable).trans (congrArg (Substituter.mk · _) sameConfig)

theorem defineAll_ofConfig_reordered :
    let seven : Evaluator Buffer Unit := fun _ => Writer.put (.integer 7)
    let nine : Evaluator Buffer Unit := fun _ => Writer.put (.integer 9)
    let calls : List (Definition (Evaluator Buffer Unit)) := [("é", seven), ("x", nine), ("é", nine)]
    let calls' : List (Definition (Evaluator Buffer Unit)) := [("x", nine), ("é", seven)]
    let fresh : Substituter (Evaluator Buffer Unit) := .ofConfig {}
    let s : Substituter (Evaluator Buffer Unit) := ⟨{}, ⟨[("x", nine), ("é", seven)]⟩⟩
    (fresh.defineAll calls).2 = s ∧
      (fresh.defineAll calls).1[2]? = some (.error (.duplicateVariable "é")) ∧
      ("é" ∈ calls.map Prod.fst ∧ (fresh.defineAll (calls ++ [("é", nine)])).2 = s) ∧
      ((∀ name, calls'.lookup name = calls.lookup name) ∧ (fresh.defineAll calls').2 = s) ∧
      ∃ t, s.parse "@é@x" = .ok t ∧
        t.expand () ⟨.growing ByteArray.empty, {}⟩ = (.ok (), ⟨.growing "79".toUTF8, {}⟩) := by
  intro seven nine calls calls' fresh s
  have state : (fresh.defineAll calls).2 = s := by cbv
  obtain ⟨answers, keeps, -, -, -, reads, order⟩ := defineAll_ofConfig {} calls
  rw [state] at keeps reads order
  have used : "é" ∈ calls.map Prod.fst := by decide
  have same (name : String) : calls'.lookup name = calls.lookup name := by
    simp only [calls, calls', Variables.lookup_cons]
    grind
  have closed : ∀ l ∈ [.compact 'é', .compact 'x'], Lexeme.Closed s.marker l := by decide
  have read : lexemes s.marker "@é@x".toList = [.compact 'é', .compact 'x'] := lexemes_spell closed
  have fine : s.problems "@é@x" = [] := by
    rw [Substituter.problems, Substituter.placed, read]
    rfl
  have parsed : s.parse "@é@x" = .ok (s.template "@é@x") := Substituter.parse_of_clean fine
  refine ⟨state, answers 2, ⟨used, keeps ("é", nine) used⟩, ⟨same, order calls' same⟩, _, parsed, ?_⟩
  rw [(reads _ _ parsed).2]
  change writeLexemes s.marker ⟨calls⟩ () (lexemes s.marker "@é@x".toList) _ = _
  rw [read]
  decide +kernel

end TextTemplate

import TextTemplate.Template

/-!
The table of defined variables, each with what it stands for.

Names are kept in ascending order, so the table depends only on which names are defined and how, not on
the order of the definitions.  The first definition of a name stays.

* `Variables.find?_insert`: a new name stands for what it was defined as, every other for what it did.
-/

namespace TextTemplate

/-- Why a variable cannot be defined. -/
inductive SetupError where
  | duplicateVariable (name : String)
deriving DecidableEq, Repr

def SetupError.message : SetupError → String
  | duplicateVariable name => "Multiple definitions for same variable name `" ++ name ++ "`"

structure Variables (ε : Type) where
  entries : List (String × ε)

namespace Variables

variable {ε : Type}

def empty : Variables ε := ⟨[]⟩

/-- The defined names, in ascending order. -/
def names (table : Variables ε) : List String := table.entries.map Prod.fst

def find? (table : Variables ε) (name : String) : Option ε := table.entries.lookup name

def isDefined (table : Variables ε) (name : String) : Bool := (table.find? name).isSome

/-- Puts an entry before the first greater name. -/
def insertEntry (name : String) (eval : ε) : List (String × ε) → List (String × ε)
  | [] => [(name, eval)]
  | (other, e) :: entries =>
    if name < other then (name, eval) :: (other, e) :: entries
    else (other, e) :: insertEntry name eval entries

def insert (table : Variables ε) (name : String) (eval : ε) : Variables ε :=
  ⟨insertEntry name eval table.entries⟩

/-- Defines a name that is not defined yet. -/
def define (table : Variables ε) (name : String) (eval : ε) : Except SetupError (Variables ε) :=
  if table.isDefined name then .error (.duplicateVariable name) else .ok (table.insert name eval)

theorem lookup_cons (other name : String) (eval : ε) (entries : List (String × ε)) :
    ((name, eval) :: entries).lookup other = if other = name then some eval else entries.lookup other := by
  rw [List.lookup_cons]
  by_cases same : other = name
  · simp [same]
  · have differ : (other == name) = false := by simpa using same
    simp [same, differ]

theorem find?_insert {table : Variables ε} {name other : String} {eval : ε}
    (fresh : table.isDefined name = false) :
    (table.insert name eval).find? other = if other = name then some eval else table.find? other := by
  simp only [isDefined, find?, insert] at fresh ⊢
  generalize table.entries = entries at fresh
  induction entries with
  | nil => exact lookup_cons other name eval []
  | cons entry entries ih =>
    obtain ⟨first, e⟩ := entry
    rw [lookup_cons] at fresh ⊢
    split at fresh
    · cases fresh
    · rename_i differ
      unfold insertEntry
      split
      · rw [lookup_cons, lookup_cons]
      · rw [lookup_cons, ih fresh]
        by_cases here : other = first
        · subst here
          simp [Ne.symm differ]
        · simp [here]

end Variables
end TextTemplate

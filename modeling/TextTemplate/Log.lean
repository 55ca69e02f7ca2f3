import TextTemplate.Level

/-!
Where diagnostics go: a log kept in memory, the log that all programs share, or standard error.

* `Logger.receiveAll_memory`: a log in memory receives everything, in order.
-/

namespace TextTemplate

/-- A message in a log kept in memory. -/
structure Entry where
  level : Level
  message : String
deriving DecidableEq, Repr

/-- A message in the shared log, with the part of the program that sent it. -/
structure Event where
  severity : Severity
  target : String
  message : String
deriving DecidableEq, Repr

/-- Receivers of diagnostics. -/
inductive Logger where
  | memory
  | shared
  | standardError
deriving DecidableEq, Repr

/-- What was sent out, oldest first: to the log in memory and to the shared log. -/
structure Trail where
  entries : List Entry
  events : List Event
deriving DecidableEq, Repr

namespace Trail

def empty : Trail := ⟨[], []⟩

def append (a b : Trail) : Trail := ⟨a.entries ++ b.entries, a.events ++ b.events⟩

instance : Append Trail := ⟨append⟩

def ofEvent (event : Event) : Trail := ⟨[], [event]⟩

@[simp] theorem entries_append (a b : Trail) : (a ++ b).entries = a.entries ++ b.entries := rfl

end Trail

/-- The name under which diagnostics enter the shared log. -/
def diagnosticTarget : String := "textsubst"

namespace Logger

/-- What a receiver makes of one message. -/
def receive (logger : Logger) (entry : Entry) : Trail :=
  match logger with
  | .memory => ⟨[entry], []⟩
  | .shared => .ofEvent ⟨entry.level.severity, diagnosticTarget, entry.message⟩
  | .standardError => .empty

/-- What a receiver makes of several messages, in order. -/
def receiveAll (logger : Logger) (entries : List Entry) : Trail :=
  entries.foldr (fun entry rest => logger.receive entry ++ rest) .empty

theorem receiveAll_memory (entries : List Entry) : receiveAll .memory entries = ⟨entries, []⟩ := by
  induction entries with
  | nil => rfl
  | cons entry rest ih => rw [receiveAll, List.foldr_cons, ← receiveAll, ih]; rfl

end Logger
end TextTemplate

import TextTemplate.Substituter

/-!
All that can go wrong, each error under the heading of the work that failed.

* `Substituter.expand_of_refused`, `Substituter.expand_of_parsed`: what expanding a text once comes to.
-/

namespace TextTemplate

inductive Error where
  | setup (e : SetupError)
  | parse (e : ParseError)
  | config (e : ConfigError)
  | io (e : IoError)
deriving DecidableEq, Repr

def Error.message : Error → String
  | setup e => "SETUP_ERROR: " ++ e.message
  | parse e => "PARSE_ERROR: " ++ e.message
  | config e => "CONFIG_ERROR: " ++ e.message
  | io e => "IO_ERROR: " ++ e.message

namespace Substituter

variable {σ γ : Type} [Sink σ]

/-- Reads a text and expands it once, and tells what was sent out on the way.  A text that is refused writes
nothing. -/
def expandLogged (s : Substituter (Evaluator σ γ)) (text : String) (ctx : γ) (out : Output σ) :
    (Except Error Unit × Output σ) × Trail :=
  let reading := s.read text
  let expanded :=
    match reading.outcome with
    | .error e => (.error (.parse e), out)
    | .ok template =>
      let (result, out) := template.expand ctx out
      (result.mapError .io, out)
  (expanded, reading.trail s.logger)

/-- Reads a text and expands it once. -/
def expand (s : Substituter (Evaluator σ γ)) (text : String) (ctx : γ) (out : Output σ) :
    Except Error Unit × Output σ :=
  (s.expandLogged text ctx out).1

variable {s : Substituter (Evaluator σ γ)} {text : String}

/-- A text that is refused is not expanded, not even up to its first problem. -/
theorem expand_of_refused {e : ParseError} (refused : s.parse text = .error e) (ctx : γ) (out : Output σ) :
    s.expand text ctx out = (.error (.parse e), out) := by
  unfold parse at refused
  unfold expand expandLogged
  simp only [refused]

theorem expand_of_parsed {t : Template (Evaluator σ γ)} (parsed : s.parse text = .ok t) (ctx : γ) (out : Output σ) :
    s.expand text ctx out = ((t.expand ctx out).1.mapError .io, (t.expand ctx out).2) := by
  unfold parse at parsed
  unfold expand expandLogged
  simp only [parsed]

end Substituter
end TextTemplate

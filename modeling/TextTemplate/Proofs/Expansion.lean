import TextTemplate.Proofs.Resolution

/-!
Expanding a template writes its lexemes one after the other.

What is written to a buffer in one call or in several is the same, whether the buffer takes all of it or runs
out in the middle.  So the literals of a template may be thought of as written character by character, and the
seams between literals and substitutions disappear.

* `Writer.text_append`: a text is written in parts as it is written at once.
* `Substituter.expand_template`: expanding is writing every lexeme in turn, for every buffer and all evaluators.
-/

namespace TextTemplate

/-! ### Writing in parts -/

namespace Buffer

theorem accepts_growing (content : ByteArray) (count : Nat) : (growing content).accepts count = count := rfl

/-- The buffer after some data was offered to it: it holds what it accepts. -/
def after (sink : Buffer) (data : ByteArray) : Buffer :=
  { sink with content := sink.content ++ data.extract 0 (sink.accepts data.size) }

/-- Writing all of some data keeps what the buffer accepts, and fails if that is not all. -/
theorem writeAll_eq (sink : Buffer) (data : ByteArray) :
    Sink.writeAll sink data =
      (if sink.accepts data.size = data.size then .ok () else .error .budgetExhausted, sink.after data) := by
  rcases Nat.lt_or_eq_of_le (sink.accepts_le data.size) with cut | whole
  · rw [writeAll_of_exceeds cut, if_neg (by omega)]
    rfl
  · rw [writeAll_of_fits whole, if_pos whole, after, whole, ByteArray.extract_zero_size]

/-- A single write keeps what the buffer accepts, and fails if that is nothing of something. -/
theorem write_eq (sink : Buffer) (data : ByteArray) :
    Sink.write sink data =
      (if sink.accepts data.size = 0 ∧ data.size ≠ 0 then .error .budgetExhausted
        else .ok (sink.accepts data.size), sink.after data) := by
  by_cases full : sink.accepts data.size = 0 ∧ data.size ≠ 0
  · have refused : Sink.write sink data = (.error .budgetExhausted, sink) := if_pos full
    rw [refused, if_pos full, after, full.1, ByteArray.extract_same, ByteArray.append_empty]
  · rw [if_neg full]
    exact if_neg full

/-- What a buffer accepts of two parts is what it accepts of the first, and then of the second. -/
theorem accepts_add (sink : Buffer) (a : ByteArray) (count : Nat) :
    sink.accepts (a.size + count) = sink.accepts a.size + (sink.after a).accepts count := by
  obtain ⟨content, budget⟩ := sink
  cases budget with
  | none => rfl
  | some budget =>
    simp only [accepts, after, ByteArray.size_append, ByteArray.size_extract]
    omega

theorem after_append_of_whole {sink : Buffer} {a b : ByteArray} (whole : sink.accepts a.size = a.size) :
    sink.after (a ++ b) = (sink.after a).after b := by
  have first : sink.after a = { sink with content := sink.content ++ a } := by
    rw [after, whole, ByteArray.extract_zero_size]
  have parts (count : Nat) : (a ++ b).extract 0 (a.size + count) = a ++ b.extract 0 count := by
    rw [ByteArray.extract_eq_extract_append_extract a.size (Nat.zero_le _) (Nat.le_add_right ..),
      ByteArray.extract_append_eq_left rfl]
    exact congrArg (a ++ ·) (ByteArray.extract_append_size_add (i := 0))
  rw [after, ByteArray.size_append, accepts_add, whole, parts, first, after, ByteArray.append_assoc]

theorem accepts_after_of_cut {sink : Buffer} {a : ByteArray} (cut : sink.accepts a.size < a.size)
    (count : Nat) : (sink.after a).accepts count = 0 := by
  obtain ⟨content, budget⟩ := sink
  cases budget with
  | none => exact absurd cut (Nat.lt_irrefl _)
  | some budget =>
    simp only [accepts, after, ByteArray.size_append, ByteArray.size_extract] at cut ⊢
    omega

theorem after_append_of_cut {sink : Buffer} {a b : ByteArray} (cut : sink.accepts a.size < a.size) :
    sink.after (a ++ b) = sink.after a := by
  have noneLeft : sink.accepts a.size - a.size = 0 := by omega
  have part : (a ++ b).extract 0 (sink.accepts a.size) = a.extract 0 (sink.accepts a.size) := by
    rw [ByteArray.extract_append, noneLeft]
    simp
  rw [after, ByteArray.size_append, accepts_add, accepts_after_of_cut cut, Nat.add_zero, part]
  rfl

/-- Writing two parts at once is writing the first and, if all of it fits, the second. -/
theorem writeAll_append (sink : Buffer) (a b : ByteArray) :
    Sink.writeAll sink (a ++ b) =
      match Sink.writeAll sink a with
      | (.ok (), sink) => Sink.writeAll sink b
      | (.error e, sink) => (.error e, sink) := by
  simp only [writeAll_eq, ByteArray.size_append, accepts_add]
  rcases Nat.lt_or_eq_of_le (sink.accepts_le a.size) with cut | whole
  · have cutBoth : ¬ sink.accepts a.size + (sink.after a).accepts b.size = a.size + b.size := by
      rw [accepts_after_of_cut cut]
      omega
    rw [if_neg cutBoth, if_neg (Nat.ne_of_lt cut), after_append_of_cut cut]
  · simp only [whole, Nat.add_left_cancel_iff, after_append_of_whole whole, if_true]

end Buffer

namespace Writer

theorem bytes_append (a b : ByteArray) : (bytes (a ++ b) : Writer Buffer Unit) = (do bytes a; bytes b) := by
  funext ⟨sink, format⟩
  rw [bind_apply]
  simp only [bytes, onSink, Buffer.writeAll_append]
  rcases Sink.writeAll sink a with ⟨_ | _, sink⟩ <;> rfl

/-- **A text may be written in parts.** -/
theorem text_append (s t : String) : (text (s ++ t) : Writer Buffer Unit) = (do text s; text t) := by
  unfold text
  rw [String.toUTF8_eq_toByteArray, String.toByteArray_append]
  exact bytes_append _ _

variable {σ : Type}

theorem text_empty [Sink σ] : (text "" : Writer σ Unit) = pure () := by
  funext ⟨sink, format⟩
  simp only [text, bytes, onSink]
  rw [Sink.writeAll_of_empty sink (by simp)]
  rfl

theorem all_append (ws vs : List (Writer σ Unit)) : all (ws ++ vs) = (do all ws; all vs) := by
  induction ws with
  | nil => rfl
  | cons w ws ih =>
    change (do w; all (ws ++ vs)) = _
    rw [ih]
    exact (bind_assoc w _ _).symm

/-- What holds of doing nothing, and of two computations in a row if of each, holds of any number in a row. -/
theorem all_induction {P : Writer σ Unit → Prop} (nothing : P (pure ()))
    (row : ∀ {w v : Writer σ Unit}, P w → P v → P (do w; v)) {ws : List (Writer σ Unit)}
    (each : ∀ w ∈ ws, P w) : P (all ws) := by
  induction ws with
  | nil => exact nothing
  | cons w ws ih =>
    exact row (each w List.mem_cons_self) (ih fun v later => each v (List.mem_cons_of_mem _ later))

end Writer

/-! ### Writing in fragments -/

namespace Writer

/-- Fragments are written as all of them at once. -/
theorem all_bytes (fragments : List ByteArray) :
    (all (fragments.map bytes) : Writer Buffer Unit) = bytes (fragments.foldr (· ++ ·) ByteArray.empty) := by
  induction fragments with
  | nil => exact text_empty.symm
  | cons first rest ih =>
    rw [List.foldr_cons, bytes_append, ← ih]
    rfl

theorem all_text (fragments : List String) :
    (all (fragments.map text) : Writer Buffer Unit) = text (String.join fragments) := by
  induction fragments with
  | nil => exact text_empty.symm
  | cons first rest ih =>
    rw [String.join_cons, text_append, ← ih]
    rfl

/-- A buffer that grows takes everything. -/
theorem bytes_growing (data content : ByteArray) (format : Format) :
    bytes data ⟨Buffer.growing content, format⟩ = (.ok (), ⟨.growing (content ++ data), format⟩) := by
  have fits : (Buffer.growing content).accepts data.size = data.size := rfl
  simp only [bytes, onSink, Buffer.writeAll_of_fits fits]
  rfl

end Writer

/-! ### Writing lexemes -/

variable {σ γ : Type} [Sink σ] {marker : Marker} {table : Variables (Evaluator σ γ)}

/-- Writes what a name stands for; an undefined name stands for nothing. -/
def Variables.write (table : Variables (Evaluator σ γ)) (ctx : γ) (name : String) : Writer σ Unit :=
  match table.find? name with
  | some eval => Writer.isolated (eval ctx)
  | none => pure ()

/-- Writes a lexeme: an escape as one marker, a reference as what its name stands for, and all else as it
is spelled. -/
def Lexeme.write (marker : Marker) (table : Variables (Evaluator σ γ)) (ctx : γ) (l : Lexeme) : Writer σ Unit :=
  match l with
  | escape => Writer.text marker.text
  | compact c => table.write ctx (String.singleton c)
  | braced name => table.write ctx name
  | plain _ | strayMarker | strayBrace => Writer.text (String.ofList (l.spelling marker))

/-- Writes lexemes in order, up to the first that fails. -/
def writeLexemes (marker : Marker) (table : Variables (Evaluator σ γ)) (ctx : γ) (ls : List Lexeme) : Writer σ Unit :=
  Writer.all (ls.map (·.write marker table ctx))

theorem writeLexemes_append (ctx : γ) (ls ks : List Lexeme) :
    writeLexemes marker table ctx (ls ++ ks) =
      (do writeLexemes marker table ctx ls; writeLexemes marker table ctx ks) := by
  unfold writeLexemes
  rw [List.map_append, Writer.all_append]

/-- Only what is bound to the name that it asks for counts for what a lexeme writes. -/
theorem Lexeme.write_congr {table' : Variables (Evaluator σ γ)} (ctx : γ) {l : Lexeme}
    (same : ∀ name, l.name? = some name → table.find? name = table'.find? name) :
    l.write marker table ctx = l.write marker table' ctx := by
  cases l with
  | compact c =>
    simp only [write, Variables.write]
    rw [same _ rfl]
  | braced name =>
    simp only [write, Variables.write]
    rw [same _ rfl]
  | plain c => rfl
  | escape => rfl
  | strayMarker => rfl
  | strayBrace => rfl

theorem writeLexemes_congr {table' : Variables (Evaluator σ γ)} (ctx : γ) {ls : List Lexeme}
    (same : ∀ l ∈ ls, ∀ name, l.name? = some name → table.find? name = table'.find? name) :
    writeLexemes marker table ctx ls = writeLexemes marker table' ctx ls := by
  unfold writeLexemes
  rw [List.map_congr_left fun l mem => l.write_congr ctx (same l mem)]

/-- Lexemes that come in groups are written group by group. -/
theorem writeLexemes_flatMap {ι : Type} (ctx : γ) (group : ι → List Lexeme) (is : List ι) :
    writeLexemes marker table ctx (is.flatMap group) =
      Writer.all (is.map fun i => writeLexemes marker table ctx (group i)) := by
  induction is with
  | nil => rfl
  | cons i is ih =>
    rw [List.flatMap_cons, writeLexemes_append, ih]
    rfl

/-- Writing what a lexeme is replaced by is writing the lexeme. -/
theorem Piece.write_of_substitution? {ctx : γ} {offset : Nat} {l : Lexeme} {s : Substitution (Evaluator σ γ)}
    (replaced : l.substitution? marker table offset = some s) :
    (Piece.substitution s).write marker ctx = l.write marker table ctx := by
  obtain ⟨r, found, rfl⟩ := Option.map_eq_some_iff.1 replaced
  cases l with
  | plain c => cases found
  | strayMarker => cases found
  | strayBrace => cases found
  | escape => cases found; rfl
  | compact c =>
    cases found
    simp only [Piece.write, Lexeme.write, Variables.resolve, Variables.write]
    cases table.find? (String.singleton c) <;> rfl
  | braced name =>
    cases found
    simp only [Piece.write, Lexeme.write, Variables.resolve, Variables.write]
    cases table.find? name <;> rfl

/-- A lexeme that is not replaced is written as it is spelled. -/
theorem Lexeme.write_of_substitution?_none (ctx : γ) {offset : Nat} {l : Lexeme}
    (kept : l.substitution? marker table offset = none) :
    l.write marker table ctx = Writer.text (String.ofList (l.spelling marker)) := by
  cases l with
  | plain c => rfl
  | strayMarker => rfl
  | strayBrace => rfl
  | escape => cases kept
  | compact c => cases kept
  | braced name => cases kept

theorem write_piecesOf (marker : Marker) (table : Variables (Evaluator Buffer γ)) (ctx : γ) (literal : List Char)
    (placed : List (Nat × Lexeme)) :
    Writer.all ((piecesOf marker table literal placed).map (Piece.write marker ctx)) =
      (do
        Writer.text (String.ofList literal)
        writeLexemes marker table ctx (placed.map Prod.snd)) := by
  induction placed generalizing literal with
  | nil => rfl
  | cons p placed ih =>
    rw [piecesOf]
    cases replaced : p.2.substitution? marker table p.1 with
    | none =>
      simp only [ih]
      rw [String.ofList_append, Writer.text_append,
        ← Lexeme.write_of_substitution?_none ctx replaced]
      exact bind_assoc _ _ _
    | some s =>
      change (do
        Writer.text (String.ofList literal)
        (Piece.substitution s).write marker ctx
        Writer.all ((piecesOf marker table [] placed).map (Piece.write marker ctx))) = _
      rw [ih, Piece.write_of_substitution? replaced, String.ofList_nil, Writer.text_empty]
      rfl

/-- **Expanding a template writes the lexemes of its text in turn**, into every buffer and for all
evaluators. -/
theorem Substituter.expand_template (s : Substituter (Evaluator Buffer γ)) (text : String) (ctx : γ) :
    (s.template text).expand ctx =
      writeLexemes s.marker s.table ctx (lexemes s.marker text.toList) := by
  have written := write_piecesOf s.marker s.table ctx [] (s.placed text)
  rw [String.ofList_nil, Writer.text_empty, placed, map_snd_place] at written
  exact written

end TextTemplate

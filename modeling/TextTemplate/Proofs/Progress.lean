import Mathlib.Data.List.Basic
import TextTemplate.Proofs.Slicing

/-!
Looking for tokens comes to an end.

A token moves the scanner on to its end, also the one of an opening brace after which the rest of the text was
searched in vain.  Once there is no token the scanner stays where it is, and so nothing is found ever after.  As
every token begins with a marker of its own, a text has no more tokens than markers.

* `Scanner.calls_eq`: any number of calls gives the tokens in order, and then nothing.
* `length_tokens_le_count`: lexemes have no more tokens than markers.
* `scanning_ends`: how every call moves the scanner, and how many tokens there are.
-/

namespace TextTemplate

open Text

variable {marker : Marker}

namespace Scanner

/-- What a number of calls in a row give, and the scanner after them. -/
def calls : Nat → Scanner → Except SliceError (List (Option Token) × Scanner)
  | 0, s => .ok ([], s)
  | n + 1, s => do
    let (found, s) ← s.next
    let (more, s) ← calls n s
    .ok (found :: more, s)

/-! ### One call -/

/-- A scanner keeps its text. -/
theorem Reaches.text_eq {s t : Scanner} (reached : s.Reaches t) : t.text = s.text := by
  induction reached with
  | refl => rfl
  | @next t u token _ moved ih =>
    rw [← ih]
    cases token with
    | none => rw [next_ends moved]
    | some token =>
      obtain ⟨-, -, -, rfl⟩ := next_advances moved
      rfl

/-- A scanner that finds nothing stays where it is, and finds nothing ever after. -/
theorem Reaches.eq_of_ended {s t : Scanner} (ended : s.next = .ok (none, s)) (reached : s.Reaches t) : t = s := by
  induction reached with
  | refl => rfl
  | next _ moved ih =>
    rw [ih, ended] at moved
    cases moved
    rfl

/-- The tokens begin with what the next call gives. -/
theorem next_of_tokens {s : Scanner} {tokens : List Token} (read : s.tokens = .ok tokens) :
    (tokens = [] ∧ s.next = .ok (none, s)) ∨
      ∃ token rest t, tokens = token :: rest ∧ s.next = .ok (some token, t) ∧ t.tokens = .ok rest := by
  rw [Scanner.tokens] at read
  split at read
  · cases read
  · rename_i t ended
    cases read
    rw [next_ends ended] at ended
    exact .inl ⟨rfl, ended⟩
  · rename_i token t found
    cases rest : t.tokens with
    | error e =>
      rw [rest] at read
      cases read
    | ok more =>
      rw [rest] at read
      cases read
      exact .inr ⟨token, more, t, rfl, found, rest⟩

/-! ### Calls in a row -/

/-- Calls give the tokens one by one, and nothing after the last of them. -/
theorem calls_eq {s : Scanner} {tokens : List Token} (read : s.tokens = .ok tokens) (n : Nat) :
    ∃ t, s.calls n = .ok ((tokens.take n).map some ++ List.replicate (n - tokens.length) none, t) := by
  induction n generalizing s tokens with
  | zero => exact ⟨s, by simp [calls]⟩
  | succ n ih =>
    rcases next_of_tokens read with ⟨rfl, ended⟩ | ⟨token, rest, u, rfl, found, read⟩
    · obtain ⟨t, after⟩ := ih read
      exact ⟨t, by simp [calls, ended, after, bind, Except.bind, List.replicate_succ]⟩
    · obtain ⟨t, after⟩ := ih read
      exact ⟨t, by simp [calls, found, after, bind, Except.bind]⟩

end Scanner

/-! ### Tokens and markers -/

/-- What is reported as a token begins with a marker. -/
theorem Lexeme.spelling_of_token? {l : Lexeme} {offset : Nat} {token : Token}
    (reported : l.token? marker offset = some token) : ∃ rest, l.spelling marker = marker.char :: rest := by
  cases l with
  | plain c => cases reported
  | _ => exact ⟨_, rfl⟩

/-- Lexemes have no more tokens than markers. -/
theorem length_tokens_le_count (marker : Marker) (offset : Nat) (ls : List Lexeme) :
    ((place marker offset ls).filterMap fun p => p.2.token? marker p.1).length ≤
      (spell marker ls).count marker.char := by
  induction ls generalizing offset with
  | nil => exact Nat.zero_le _
  | cons l ls ih =>
    have rest := ih (offset + l.size marker)
    rw [filterMap_place_cons, spell_cons, List.length_append, List.count_append]
    have one : (l.token? marker offset).toList.length ≤ (l.spelling marker).count marker.char := by
      cases reported : l.token? marker offset with
      | none => exact Nat.zero_le _
      | some token =>
        obtain ⟨tail, spelled⟩ := Lexeme.spelling_of_token? reported
        rw [spelled, List.count_cons_self]
        exact Nat.succ_le_succ (Nat.zero_le _)
    exact Nat.add_le_add one rest

/-- A token stands where its lexeme does, at a marker. -/
theorem charAt?_of_mem_lex {text : String} {token : Token} (mem : token ∈ lex marker 0 text.toList) :
    charAt? text token.start = some marker.char := by
  rw [lex_eq_tokens] at mem
  obtain ⟨p, placed, reported⟩ := List.mem_filterMap.1 mem
  obtain ⟨rest, spelled⟩ := Lexeme.spelling_of_token? reported
  rw [(Lexeme.bounds_of_token? reported).1]
  exact charAt?_of_mem_place placed spelled

theorem ascending_lex (marker : Marker) (text : String) :
    (lex marker 0 text.toList).Pairwise (·.start < ·.start) := by
  refine (separated_lex marker text.toList).imp_of_mem ?_
  intro token token' mem _ apart
  exact Nat.lt_of_lt_of_le (excerpt_of_mem_lex mem).1.nonempty apart

/-- **Looking for tokens comes to an end.**  Wherever the scanner comes to, it can be asked for the next token.  If
there is one, it begins where the scanner stands or behind that, and the scanner moves on to its end, within the
text; so it never comes back, whatever it had to search through for nothing.  If there is none, the scanner stays,
and finds nothing ever after.  The tokens of a text begin at markers, each at one of its own, so that there are no
more of them than markers, and asking any number of times gives them in order and then nothing. -/
theorem scanning_ends (text : String) (marker : Marker) :
    (∀ s, (Scanner.start text marker).Reaches s →
      ∃ found t, s.next = .ok (found, t) ∧
        match found with
        | some token =>
          s.pos ≤ token.start ∧ s.pos < t.pos ∧ t.pos = token.stop ∧ t.pos ≤ text.utf8ByteSize
        | none => t.pos = s.pos ∧ ∀ later, t.Reaches later → later.next = .ok (none, later)) ∧
    ∃ tokens, tokensOf text marker = .ok tokens ∧
      tokens.length ≤ text.toList.count marker.char ∧
      tokens.Pairwise (·.start < ·.start) ∧
      (∀ token ∈ tokens, charAt? text token.start = some marker.char) ∧
      ∀ n, ∃ s, (Scanner.start text marker).calls n =
        .ok ((tokens.take n).map some ++ List.replicate (n - tokens.length) none, s) := by
  refine ⟨?call, _, tokensOf_eq_lex text marker, ?number, ?distinct, ?marked, ?calls⟩
  case call =>
    intro s reached
    obtain ⟨found, t, came⟩ := reached.sliceable.next
    refine ⟨found, t, came, ?_⟩
    cases found with
    | some token =>
      obtain ⟨behind, nonempty, inside, rfl⟩ := Scanner.next_advances came
      rw [Scanner.size_bytes, reached.text_eq] at inside
      exact ⟨behind, Nat.lt_of_le_of_lt behind nonempty, rfl, inside⟩
    | none =>
      obtain rfl := Scanner.next_ends came
      refine ⟨rfl, ?_⟩
      intro later further
      rwa [further.eq_of_ended came]
  case number =>
    have bound := length_tokens_le_count marker 0 (lexemes marker text.toList)
    rwa [← lex_eq_tokens, spell_lexemes] at bound
  case distinct => exact ascending_lex marker text
  case marked =>
    intro token mem
    exact charAt?_of_mem_lex mem
  case calls =>
    intro n
    exact Scanner.calls_eq (tokensOf_eq_lex text marker) n

/-- Two opening braces after which the rest is searched in vain, and a call too many. -/
theorem scanning_ends_open_braces :
    let text := "é@\x7b@\x7b"
    let first : Token := ⟨.unterminatedBrace, 2, 4⟩
    let second : Token := ⟨.unterminatedBrace, 4, 6⟩
    let start := Scanner.start text default
    start.Reaches (start.goTo 4) ∧
      (∃ t, (start.goTo 4).next = .ok (some second, t) ∧ 4 < t.pos ∧ t.pos = second.stop ∧ t.pos ≤ text.utf8ByteSize) ∧
      (∀ later, (start.goTo 6).Reaches later → later.next = .ok (none, later)) ∧
      ∃ s, start.calls 3 = .ok ([some first, some second, none], s) := by
  intro text first second start
  have toFirst : start.next = .ok (some first, start.goTo 4) := by decide +kernel
  have toSecond : (start.goTo 4).next = .ok (some second, start.goTo 6) := by decide +kernel
  have ended : (start.goTo 6).next = .ok (none, start.goTo 6) := by decide +kernel
  have read : tokensOf text default = .ok [first, second] := by
    change start.tokens = _
    rw [Scanner.tokens_of_next_some toFirst, Scanner.tokens_of_next_some toSecond,
      Scanner.tokens_of_next_none ended]
    rfl
  have atFirst : start.Reaches (start.goTo 4) := .next .refl toFirst
  obtain ⟨call, tokens, found, -, -, -, calls⟩ := scanning_ends text default
  obtain ⟨token, t, came, moves⟩ := call (start.goTo 4) atFirst
  obtain ⟨token', t', came', stays⟩ := call (start.goTo 6) (.next atFirst toSecond)
  cases toSecond.symm.trans came
  cases ended.symm.trans came'
  cases read.symm.trans found
  exact ⟨atFirst, ⟨_, toSecond, moves.2⟩, stays.2, calls 3⟩

end TextTemplate

import TextTemplate.Proofs.Slicing

/-!
Where the pieces of a template stand in its text.

A piece is placed at the offset where the one before it ends.  Cutting a text makes pieces that stand where they
are placed: a literal is the text from its place on, and it meets no substitution.

* `Piece.literal_of_cut`: what a cut says of its literals.
-/

namespace TextTemplate

open Text

variable {ε : Type}

namespace Piece

/-- Where a piece ends that starts at `offset`. -/
def stop (offset : Nat) : Piece ε → Nat
  | literal text => offset + text.utf8ByteSize
  | substitution s => s.stop

/-- The pieces with the offsets at which they stand, the first at `offset`. -/
def placeFrom : Nat → List (Piece ε) → List (Nat × Piece ε)
  | _, [] => []
  | offset, piece :: pieces => (offset, piece) :: placeFrom (piece.stop offset) pieces

/-- The pieces of a cut that ends in a literal. -/
theorem placeFrom_of_cut_nil {text : String} {cursor : Nat} {pieces : List (Piece ε)}
    (cut : Piece.cut text cursor [] = .ok pieces) :
    ∃ tail, slice text cursor text.utf8ByteSize = .ok tail ∧
      placeFrom cursor pieces = [(cursor, literal tail)] := by
  obtain ⟨tail, taken, rfl⟩ := cut_nil_eq_ok_iff.1 cut
  exact ⟨tail, taken, rfl⟩

/-- The pieces of a cut that goes on behind a substitution. -/
theorem placeFrom_of_cut_cons {text : String} {cursor : Nat} {s : Substitution ε}
    {subs : List (Substitution ε)} {pieces : List (Piece ε)}
    (cut : Piece.cut text cursor (s :: subs) = .ok pieces) :
    ∃ before rest, slice text cursor s.start = .ok before ∧ Piece.cut text s.stop subs = .ok rest ∧
      placeFrom cursor pieces =
        (cursor, literal before) :: (s.start, substitution s) :: placeFrom s.stop rest := by
  obtain ⟨before, rest, taken, later, rfl⟩ := cut_cons_eq_ok_iff.1 cut
  refine ⟨before, rest, taken, later, ?_⟩
  simp only [placeFrom, stop, add_size_of_slice taken]

/-- A literal of a cut is the text at its place, and no substitution reaches into it. -/
theorem literal_of_cut {text : String} {cursor : Nat} {subs : List (Substitution ε)}
    {pieces : List (Piece ε)} (cut : Piece.cut text cursor subs = .ok pieces)
    (forward : ∀ sub ∈ subs, sub.start < sub.stop) (apart : subs.Pairwise (·.stop ≤ ·.start))
    {offset : Nat} {part : String} (mem : (offset, literal part) ∈ placeFrom cursor pieces) :
    slice text offset (offset + part.utf8ByteSize) = .ok part ∧ cursor ≤ offset ∧
      ∀ sub ∈ subs, offset + part.utf8ByteSize ≤ sub.start ∨ sub.stop ≤ offset := by
  induction subs generalizing cursor pieces with
  | nil =>
    obtain ⟨tail, taken, placed⟩ := placeFrom_of_cut_nil cut
    rw [placed] at mem
    cases List.mem_singleton.1 mem
    rw [add_size_of_slice taken]
    exact ⟨taken, Nat.le_refl _, nofun⟩
  | cons s subs ih =>
    obtain ⟨before, rest, taken, later, placed⟩ := placeFrom_of_cut_cons cut
    obtain ⟨behind, apart⟩ := List.pairwise_cons.1 apart
    have forwardHere := forward s List.mem_cons_self
    have ends := add_size_of_slice taken
    rw [placed] at mem
    rcases List.mem_cons.1 mem with here | mem
    · -- The literal in front of the first substitution stands in front of all.
      cases here
      rw [ends]
      refine ⟨taken, Nat.le_refl _, fun sub listed => .inl ?_⟩
      rcases List.mem_cons.1 listed with rfl | listed
      · exact Nat.le_refl _
      · have := behind sub listed
        omega
    · have mem := (List.mem_cons.1 mem).resolve_left (by simp)
      obtain ⟨takenLater, after, clear⟩ :=
        ih later (fun sub listed => forward sub (List.mem_cons_of_mem _ listed)) apart mem
      refine ⟨takenLater, by omega, fun sub listed => ?_⟩
      rcases List.mem_cons.1 listed with rfl | listed
      · exact .inr after
      · exact clear sub listed

end Piece

/-- The pieces of a template with the offsets in its text at which they stand. -/
def Template.placed (t : Template ε) : List (Nat × Piece ε) := Piece.placeFrom 0 t.pieces

/-- A literal of a template is a part of its text outside of all substitutions. -/
theorem Substituter.literal_of_mem_placed {s : Substituter ε} {text : String} {offset : Nat} {part : String}
    (mem : (offset, .literal part) ∈ (s.template text).placed) :
    slice text offset (offset + part.utf8ByteSize) = .ok part ∧
      ∀ sub ∈ substitutionsOf s.marker s.table (s.placed text),
        offset + part.utf8ByteSize ≤ sub.start ∨ sub.stop ≤ offset := by
  have forward : ∀ sub ∈ substitutionsOf s.marker s.table (s.placed text), sub.start < sub.stop :=
    fun sub listed => (isPart_of_mem_substitutionsOf listed).nonempty
  obtain ⟨taken, -, clear⟩ :=
    Piece.literal_of_cut (s.cut_placed text) forward (separated_substitutionsOf ..) mem
  exact ⟨taken, clear⟩

end TextTemplate

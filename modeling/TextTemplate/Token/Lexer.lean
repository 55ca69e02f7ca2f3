import TextTemplate.Token

/-!
The tokens of a text by recursion on its characters, without any offset to look things up at.

* `lex`: the tokens; the offsets are only counted.
* `splitFirst`: the end of a braced name is the first closing brace, whatever stands before it.
-/

namespace TextTemplate

/-- The length of the encoding of some characters. -/
def byteLength (cs : List Char) : Nat := (String.ofList cs).utf8ByteSize

@[simp] theorem byteLength_nil : byteLength [] = 0 := rfl

@[simp] theorem byteLength_cons (c : Char) (cs : List Char) :
    byteLength (c :: cs) = c.utf8Size + byteLength cs := by
  simp [byteLength, String.ofList_cons]

@[simp] theorem byteLength_append (cs ds : List Char) :
    byteLength (cs ++ ds) = byteLength cs + byteLength ds := by
  simp [byteLength]

/-- The characters before the first `stop`, and those after it. -/
def splitFirst (stop : Char) : List Char → Option (List Char × List Char)
  | [] => none
  | c :: cs =>
    if c = stop then some ([], cs)
    else (splitFirst stop cs).map fun (name, rest) => (c :: name, rest)

theorem eq_of_splitFirst {stop : Char} {cs name rest : List Char}
    (h : splitFirst stop cs = some (name, rest)) : cs = name ++ stop :: rest ∧ stop ∉ name := by
  induction cs generalizing name with
  | nil => cases h
  | cons c cs ih =>
    unfold splitFirst at h
    split at h
    · rename_i same
      cases h
      simp [same]
    · rename_i other
      cases found : splitFirst stop cs with
      | none => simp [found] at h
      | some parts =>
        obtain ⟨name', rest'⟩ := parts
        simp only [found, Option.map_some, Option.some.injEq, Prod.mk.injEq] at h
        obtain ⟨rfl, rfl⟩ := h
        obtain ⟨split, absent⟩ := ih found
        exact ⟨by rw [split]; rfl, by simp [absent, Ne.symm other]⟩

theorem not_mem_of_splitFirst {stop : Char} {cs : List Char} (h : splitFirst stop cs = none) :
    stop ∉ cs := by
  induction cs with
  | nil => simp
  | cons c cs ih =>
    unfold splitFirst at h
    split at h
    · cases h
    · rename_i other
      have := ih (by simpa using h)
      simp [this, Ne.symm other]

/-- The tokens of the characters, the first of which stands at byte `offset`. -/
def lex (marker : Marker) (offset : Nat) : List Char → List Token
  | [] => []
  | c :: cs =>
    if c ≠ marker.char then lex marker (offset + c.utf8Size) cs
    else
      match cs with
      | [] => [⟨.unterminatedMarker, offset, offset + 1⟩]
      | d :: rest =>
        if d = openBrace then
          match _h : splitFirst closeBrace rest with
          | some (name, after) =>
            let stop := offset + 2 + byteLength name + 1
            ⟨.reference .braced (String.ofList name), offset, stop⟩ :: lex marker stop after
          | none => ⟨.unterminatedBrace, offset, offset + 2⟩ :: lex marker (offset + 2) rest
        else if d = marker.char then ⟨.escape, offset, offset + 2⟩ :: lex marker (offset + 2) rest
        else
          let stop := offset + 1 + d.utf8Size
          ⟨.reference .compact (String.singleton d), offset, stop⟩ :: lex marker stop rest
termination_by cs => cs.length
decreasing_by
  all_goals simp only [List.length_cons]
  · omega
  · have := congrArg List.length (eq_of_splitFirst _h).1
    simp only [List.length_append, List.length_cons] at this
    omega
  all_goals omega

end TextTemplate

/-!
Sets of characters given by the code points where membership changes.
-/

namespace TextTemplate.Text

/-- A set of code points.  `bounds` lists, in ascending order, the code points at which membership
changes, so it begins with the first member. -/
structure CharSet where
  bounds : List Nat

namespace CharSet

/-- An even number of bounds passed is outside, an odd number inside. -/
def within : List Nat → Nat → Bool
  | [], _ => false
  | bound :: bounds, point => if point < bound then false else !within bounds point

def contains (set : CharSet) (c : Char) : Bool := within set.bounds c.toNat

end CharSet
end TextTemplate.Text

/-!
Binary floating-point numbers: their bit patterns, the numbers they stand for, and the pattern nearest
to a decimal number.
-/

namespace TextTemplate.Number

/-- The quotient rounded to the nearest integer, a half to the even neighbour. -/
def divNearest (num den : Nat) : Nat :=
  let low := num / den
  let rest := 2 * (num % den)
  if rest < den then low
  else if den < rest then low + 1
  else if low % 2 = 0 then low else low + 1

/-- The sizes of the fields of a bit pattern, the sign bit apart. -/
structure Width where
  exponentBits : Nat
  fractionBits : Nat
deriving DecidableEq, Repr

namespace Width

def single : Width := ⟨8, 23⟩

def double : Width := ⟨11, 52⟩

/-- The exponent field of infinities and of what is no number. -/
def topExponent (w : Width) : Nat := Nat.pow 2 w.exponentBits - 1

/-- The exponent of the unit in the last place of the smallest numbers. -/
def leastExponent (w : Width) : Int :=
  2 - (Nat.pow 2 (w.exponentBits - 1) : Nat) - (w.fractionBits : Int)

end Width

/-- A bit pattern of a given width. -/
structure Binary where
  width : Width
  bits : Nat
deriving DecidableEq, Repr

/-- What a bit pattern stands for.  A finite number is `mantissa * 2 ^ exponent` with its sign. -/
inductive Datum where
  | nan
  | infinite (negative : Bool)
  | finite (negative : Bool) (mantissa : Nat) (exponent : Int)
deriving DecidableEq, Repr

namespace Binary

def fraction (x : Binary) : Nat := x.bits % Nat.pow 2 x.width.fractionBits

def exponentField (x : Binary) : Nat :=
  x.bits / Nat.pow 2 x.width.fractionBits % Nat.pow 2 x.width.exponentBits

def negative (x : Binary) : Bool :=
  x.bits / Nat.pow 2 (x.width.fractionBits + x.width.exponentBits) % 2 = 1

def datum (x : Binary) : Datum :=
  if x.exponentField = x.width.topExponent then
    if x.fraction = 0 then .infinite x.negative else .nan
  else if x.exponentField = 0 then
    .finite x.negative x.fraction x.width.leastExponent
  else
    .finite x.negative (Nat.pow 2 x.width.fractionBits + x.fraction)
      (x.width.leastExponent + (x.exponentField - 1 : Nat))

/-- The gap to the next smaller number is half the gap to the next larger one: the number is a power
of two, and not among the smallest. -/
def narrowBelow (x : Binary) : Bool := x.fraction = 0 && 1 < x.exponentField

def infinity (width : Width) (negative : Bool) : Binary :=
  ⟨width, ((if negative then Nat.pow 2 width.exponentBits else 0) + width.topExponent) *
    Nat.pow 2 width.fractionBits⟩

/-- The pattern nearest to `num / den`, a half to the even neighbour, infinity past the largest. -/
def nearest (width : Width) (negative : Bool) (num den : Nat) : Binary :=
  let magnitude : Int := Nat.log2 num - Nat.log2 den - width.fractionBits - 1
  let coarse := if num = 0 then width.leastExponent else max magnitude width.leastExponent
  let scaled (exponent : Int) : Nat :=
    divNearest (num * Nat.pow 2 (-exponent).toNat) (den * Nat.pow 2 exponent.toNat)
  let exponent := if scaled coarse < Nat.pow 2 (width.fractionBits + 1) then coarse else coarse + 1
  let field := (exponent - width.leastExponent).toNat * Nat.pow 2 width.fractionBits + scaled exponent
  let top := width.topExponent * Nat.pow 2 width.fractionBits
  ⟨width, (if negative then Nat.pow 2 (width.exponentBits + width.fractionBits) else 0) + min field top⟩

end Binary
end TextTemplate.Number

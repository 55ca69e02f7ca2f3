import TextTemplate.Number.Binary

/-!
Decimal numbers written with a point and without an exponent.

* `Decimal.places`: a fixed number of places after the point.
* `Decimal.fragments`: as many places as the number needs, in the parts in which they are written.
* `Decimal.nearest`: the binary number that a decimal one is read as.
-/

namespace TextTemplate.Number

/-- The number `coefficient * 10 ^ exponent`. -/
structure Decimal where
  coefficient : Nat
  exponent : Int
deriving DecidableEq, Repr

def digits (n : Nat) : List Char := Nat.toDigits 10 n

/-- The digits of `n`, with zeros in front to make at least `count` of them. -/
def paddedDigits (count n : Nat) : List Char :=
  let ds := digits n
  List.replicate (count - ds.length) '0' ++ ds

namespace Decimal

/-- `n / 10 ^ count` with exactly `count` digits after the point. -/
def places (count n : Nat) : List Char :=
  let ds := paddedDigits (count + 1) n
  let whole := ds.take (ds.length - count)
  if count = 0 then whole else whole ++ '.' :: ds.drop (ds.length - count)

/-- The same number with no zero at the end of the coefficient. -/
def strip : Nat → Decimal → Decimal
  | 0, x => x
  | steps + 1, x =>
    if x.coefficient % 10 = 0 then strip steps ⟨x.coefficient / 10, x.exponent + 1⟩ else x

/-- How many zeros are written at a time. -/
def zeroRun : Nat := 64

def zeros (count : Nat) : List (List Char) :=
  List.replicate (count / zeroRun) (List.replicate zeroRun '0') ++ [List.replicate (count % zeroRun) '0']

/-- The number written out in full, part by part: no exponent, no superfluous zero, a point only before a
digit. -/
def fragments (x : Decimal) : List (List Char) :=
  if x.coefficient = 0 then [['0']]
  else
    let x := strip (digits x.coefficient).length x
    let ds := digits x.coefficient
    -- So many of the digits stand before the point.
    let whole := ds.length + x.exponent
    if whole ≤ 0 then ['0', '.'] :: zeros (-whole).toNat ++ [ds]
    else if whole < ds.length then [ds.take whole.toNat, ['.'], ds.drop whole.toNat]
    else ds :: zeros x.exponent.toNat

/-- The binary number nearest to a decimal one.  Far outside the range of any width the answer is
infinity or zero without further ado. -/
def nearest (width : Width) (negative : Bool) (x : Decimal) : Binary :=
  let leading := (digits x.coefficient).length + x.exponent
  if x.coefficient = 0 ∨ leading < -400 then .nearest width negative 0 1
  else if 400 < leading then .infinity width negative
  else .nearest width negative (x.coefficient * Nat.pow 10 x.exponent.toNat) (Nat.pow 10 (-x.exponent).toNat)

end Decimal

/-- The finite number `mantissa * 2 ^ exponent` with `count` places, a half going to the even
neighbour. -/
def fixedPlaces (count mantissa : Nat) (exponent : Int) : List Char :=
  Decimal.places count
    (divNearest (mantissa * Nat.pow 2 exponent.toNat * Nat.pow 10 count) (Nat.pow 2 (-exponent).toNat))

end TextTemplate.Number

import TextTemplate.Number.Decimal

/-!
The shortest decimal number that reads back as a given binary one.

The decimal numbers that read back as a binary number form an interval around it, its ends included
when the mantissa is even.  Coarse decimal grids are tried first; the first grid with a point in the
interval gives the digits.  Of two such points next to the number the nearer is taken, and of two that
are equally near the larger.
-/

namespace TextTemplate.Number.Shortest

/-- An interval of rational numbers around `value`, all over the denominator `den`. -/
structure Interval where
  low : Nat
  value : Nat
  high : Nat
  den : Nat
  closed : Bool

namespace Interval

/-- `num / den` lies in the interval. -/
def contains (i : Interval) (num den : Nat) : Bool :=
  let x := num * i.den
  if i.closed then i.low * den ≤ x && x ≤ i.high * den else i.low * den < x && x < i.high * den

/-- The numbers that round to `mantissa * 2 ^ exponent`: half the gap on either side. -/
def around (mantissa : Nat) (exponent : Int) (narrowBelow : Bool) : Interval :=
  let up := Nat.pow 2 (exponent - 2).toNat
  { low := (4 * mantissa - if narrowBelow then 1 else 2) * up
    value := 4 * mantissa * up
    high := (4 * mantissa + 2) * up
    den := Nat.pow 2 (2 - exponent).toNat
    closed := mantissa % 2 = 0 }

end Interval

/-- The point of the grid of step `10 ^ exponent` that is taken for the interval, if one lies in it. -/
def onGrid? (i : Interval) (exponent : Int) : Option Decimal :=
  let up := Nat.pow 10 exponent.toNat
  let down := Nat.pow 10 (-exponent).toNat
  let below := i.value * down / (i.den * up)
  let lowFits := i.contains (below * up) down
  let highFits := i.contains ((below + 1) * up) down
  let highNearer := i.den * up ≤ 2 * (i.value * down - below * (i.den * up))
  if highFits && (!lowFits || highNearer) then some ⟨below + 1, exponent⟩
  else if lowFits then some ⟨below, exponent⟩
  else none

/-- The exponent of the leading decimal digit of `num / den`. -/
def leadingExponent (num den : Nat) : Int :=
  if den ≤ num then ((digits (num / den)).length : Int) - 1
  else if num = 0 then 0
  else -((digits ((den - 1) / num)).length : Int)

/-- Tries the grids from `exponent` on, ever finer ones, at most `finer` more. -/
def search (i : Interval) (exponent : Int) : Nat → Decimal
  | 0 => (onGrid? i exponent).getD ⟨0, 0⟩
  | finer + 1 => (onGrid? i exponent).getD (search i (exponent - 1) finer)

/-- The shortest decimal number that reads back as `mantissa * 2 ^ exponent`.  The number itself is on
the grid of step `10 ^ (exponent - 2)`, where the search ends at the latest. -/
def decimal (mantissa : Nat) (exponent : Int) (narrowBelow : Bool) : Decimal :=
  if mantissa = 0 then ⟨0, 0⟩
  else
    let i := Interval.around mantissa exponent narrowBelow
    let first := leadingExponent i.value i.den
    search i first (first - min 0 (exponent - 2)).toNat

end TextTemplate.Number.Shortest

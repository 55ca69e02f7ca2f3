import TextTemplate.Toml.Text
import TextTemplate.Toml.Value

/-!
Numbers, dates and times.
-/

namespace TextTemplate.Toml

open Reader

/-- Digits of a class, with single underscores between them, which are dropped. -/
def underscored (p : Char → Bool) : Reader (List Char) :=
  separated (one p) (maybe (char '_'))

/-- A sign, true for a minus. -/
def sign : Reader (Option Bool) :=
  maybe (either (do char '-'; pure true) (do char '+'; pure false))

def readDigits (base : Nat) (cs : List Char) : Nat := cs.foldl (fun n c => base * n + hexValue c) 0

/-- Digits without a zero in front. -/
def wholeDigits : Reader (List Char) := do
  match ← peek? with
  | some '0' => do
    char '0'
    pure ['0']
  | _ => underscored Char.isDigit

/-- The digits after a point. -/
def fractionDigits : Reader (List Char) := do
  char '.'
  underscored Char.isDigit

def exponentPart : Reader Int := do
  let _ ← one fun c => c = 'e' || c = 'E'
  let negative ← sign
  let cs ← underscored Char.isDigit
  let n : Int := readDigits 10 cs
  pure (if negative = some true then -n else n)

/-- A whole number in the range of 64 bits. -/
def ranged (n : Int) : Reader Value :=
  if -9223372036854775808 ≤ n ∧ n ≤ 9223372036854775807 then pure (.integer n) else refuse

/-- A number that is too large is refused; one that is too small is negative infinity. -/
def floating (negative : Bool) (x : Number.Decimal) : Reader Value :=
  let binary := x.nearest .double negative
  if binary.datum = .infinite false then refuse else pure (.float binary)

/-- A number in decimal digits.  A point or an exponent makes it a floating-point number. -/
def decimal : Reader Value := do
  let negative := (← sign) = some true
  let whole ← wholeDigits
  match ← peek? with
  | some '.' => do
    let fraction ← fractionDigits
    let exponent ← maybe exponentPart
    floating negative ⟨readDigits 10 (whole ++ fraction), exponent.getD 0 - fraction.length⟩
  | some 'e' | some 'E' => do
    let exponent ← exponentPart
    floating negative ⟨readDigits 10 whole, exponent⟩
  | _ =>
    let n : Int := readDigits 10 whole
    ranged (if negative then -n else n)

/-- A whole number in another base, after the letter that names it. -/
def inBase (letter : Char) (base : Nat) (p : Char → Bool) : Reader Value := do
  word ['0', letter]
  let cs ← underscored p
  ranged (readDigits base cs)

def special : Reader Value := do
  let negative := (← sign) = some true
  either
    (do
      word ['i', 'n', 'f']
      pure (.float (.infinity .double negative)))
    (do
      word ['n', 'a', 'n']
      pure (.float ⟨.double, 0x7FF8000000000000⟩))

/-- A given number of digits, within bounds. -/
def field (count low high : Nat) : Reader Nat := do
  let cs ← (List.replicate count ()).mapM fun _ => one Char.isDigit
  let n := readDigits 10 cs
  if low ≤ n ∧ n ≤ high then pure n else refuse

def isLeap (year : Nat) : Bool := year % 4 = 0 && (year % 100 != 0 || year % 400 = 0)

def daysIn (year month : Nat) : Nat :=
  if month = 2 then if isLeap year then 29 else 28
  else if month = 4 ∨ month = 6 ∨ month = 9 ∨ month = 11 then 30
  else 31

def day : Reader Day := do
  let year ← field 4 0 9999
  char '-'
  let month ← field 2 1 12
  char '-'
  let day ← field 2 1 (daysIn year month)
  pure ⟨year, month, day⟩

def clock : Reader Clock := do
  let hour ← field 2 0 23
  char ':'
  let minute ← field 2 0 59
  char ':'
  let second ← field 2 0 60
  let fraction ← maybe do
    char '.'
    run Char.isDigit
  pure ⟨hour, minute, second, fraction.getD []⟩

/-- Minutes ahead of universal time. -/
def offset : Reader Int :=
  either
    (do
      let _ ← one fun c => c = 'Z' || c = 'z'
      pure 0)
    (do
      let behind ← one fun c => c = '+' || c = '-'
      let hour ← field 2 0 23
      char ':'
      let minute ← field 2 0 59
      let ahead : Int := 60 * hour + minute
      pure (if behind = '-' then -ahead else ahead))

def moment : Reader Value :=
  either
    (do
      let day ← day
      let time ← maybe do
        let _ ← one fun c => c = 'T' || c = 't' || c = ' '
        let clock ← clock
        pure (clock, ← maybe offset)
      pure (.moment ⟨some day, time.map Prod.fst, time.bind Prod.snd⟩))
    (do
      let clock ← clock
      pure (.moment ⟨none, some clock, none⟩))

/-- A number, a date or a time. -/
def number : Reader Value :=
  [moment, inBase 'x' 16 isHex, inBase 'o' 8 fun c => '0' ≤ c && c ≤ '7',
    inBase 'b' 2 fun c => c = '0' || c = '1', special, decimal].foldr either refuse

end TextTemplate.Toml

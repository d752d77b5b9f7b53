import ChangeImpact.Decimal.Reading
import ChangeImpact.Decimal.Shortest

/-!
# Fifteen digits by wide arithmetic

A table writes a number with at most fifteen decimal digits, and finds them by arithmetic
with sixty-four binary digits: the number is brought between one and ten by multiplying and
dividing, half a unit of the fifteenth digit is added, and the digits are then cut off one
by one.  Each step rounds, so the last digit is not always the one that exact rounding would
give.

A value is a rational number that sixty-four binary digits can hold, and `round` brings the
exact result of an operation back to one.
-/

namespace ChangeImpact.Extended

-- powers of whole numbers are the core ones, whatever else is imported
attribute [local instance (high)] instPowNat

/-- The nearest rational number with at most sixty-four binary digits; a half goes to the
even neighbour. -/
def round (r : Rat) : Rat :=
  let num := r.num.natAbs
  if num = 0 then 0
  else
    let shift := Binary64.leadingBit num r.den - 63
    if 0 ≤ shift then
      ((Decimal.roundQuotient num (r.den * 2 ^ shift.toNat) * 2 ^ shift.toNat : Nat) : Rat)
    else
      ((Decimal.roundQuotient (num * 2 ^ (-shift).toNat) r.den : Nat) : Rat) /
        ((2 ^ (-shift).toNat : Nat) : Rat)

/-- The value of the binary64 number nearest to `digits · 10 ^ exponent`. -/
def constant (digits : Nat) (exponent : Int) : Rat :=
  ((Binary64.ofDecimal false digits exponent).toRat?).getD 0

/-- Multiplies a scale by a power of ten for as long as it does not pass a value, at most
`tries` times.  Gives the scale and the sum of the exponents. -/
def climb (value : Rat) (power : Nat) : Nat → Rat × Int → Rat × Int
  | 0, found => found
  | tries + 1, (scale, exponent) =>
    let next := round (constant 1 power * scale)
    if next ≤ value then climb value power tries (next, exponent + power) else (scale, exponent)

/-- Multiplies a value by a power of ten for as long as it is below a bound, at most `tries`
times.  Gives the value and its exponent. -/
def raise (bound : Rat) (power : Nat) : Nat → Rat × Int → Rat × Int
  | 0, found => found
  | tries + 1, (value, exponent) =>
    if value < bound then raise bound power tries (round (constant 1 power * value), exponent - power)
    else (value, exponent)

/-- A positive value as one between one and ten and its decimal exponent.  The counts of
steps are enough for every binary64 number. -/
def normalized (value : Rat) : Rat × Int :=
  let (scale, exponent) := climb value 1 10 (climb value 10 10 (climb value 100 4 (1, 0)))
  raise 1 1 10 (raise (constant 1 (-8)) 8 50 (round (value / scale), exponent))

/-- The first digits of a value between zero and ten. -/
def leadingDigits : Nat → Rat → List Nat
  | 0, _ => []
  | count + 1, value =>
    let digit := value.floor.toNat
    digit :: leadingDigits count (round (round (value - digit) * 10))

/-- The fifteen digits of a positive number, without the zeros at their end. -/
def digits (value : Rat) : Decimal.Digits :=
  let (near, exponent) := normalized value
  -- half a unit of the fifteenth digit
  let risen := round (near + constant 5 (-15))
  let (near, exponent) :=
    if 10 ≤ risen then (round (risen * constant 1 (-1)), exponent + 1) else (risen, exponent)
  ⟨Decimal.dropZeros (leadingDigits 15 near), exponent⟩

end ChangeImpact.Extended

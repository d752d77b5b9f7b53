import ChangeImpact.Decimal.Binary64

/-!
# The shortest decimal of a binary number

The digits of a binary64 number are the fewest that read back as the same number.
For one digit, two digits and so on up to seventeen, the two neighbours of the value on
that decimal grid are tried; the first grid with a neighbour inside the interval of
values that round to the number gives the digits, and of two the nearer one.

`Binary64.text` writes them out: positionally where the first digit stands between the
fourth place after the point and the sixteenth before it, otherwise with an exponent of
at least two digits; a point or an exponent always shows that the number is no integer.
`Binary64.fixed` writes a number with a fixed count of places instead.
-/

namespace ChangeImpact.Decimal

-- powers of whole numbers are the core ones, whatever else is imported
attribute [local instance (high)] instPowNat

/-- A power of ten with an exponent of either sign. -/
def tenTo (e : Int) : Rat :=
  if 0 ≤ e then ((10 ^ e.toNat : Nat) : Rat) else 1 / ((10 ^ (-e).toNat : Nat) : Rat)

/-- The exponent of the leading decimal digit of a positive number, starting from an
estimate that is at most a few too low. -/
def leadingExponent (v : Rat) : Nat → Int → Int
  | 0, e => e
  | n + 1, e => if tenTo (e + 1) ≤ v then leadingExponent v n (e + 1) else e

/-- Digits and the exponent of the first one: `digits = 125` and `exponent = -1` is 0.125. -/
structure Digits where
  digits : List Nat
  exponent : Int
deriving DecidableEq

/-- The decimal digits of a number, most significant first. -/
def digitsOf (n : Nat) : List Nat := (Nat.toDigits 10 n).map fun c => c.toNat - '0'.toNat

/-- The interval of values that round to a positive finite number, and whether its ends
belong to it. -/
def roundingInterval (x : Binary64) : Rat × Rat × Bool :=
  let unit := Binary64.unitOf x.scale
  let m : Rat := x.significand
  let gap := if x.fractionField = 0 && 1 < x.exponentField then unit / 4 else unit / 2
  (m * unit - gap, m * unit + unit / 2, x.significand % 2 == 0)

/-- The neighbour of `v` on the grid of `count` digits that reads back, if there is one. -/
def onGrid (v low high : Rat) (closed : Bool) (exponent : Int) (count : Nat) : Option Nat :=
  let step := tenTo (exponent - (count - 1 : Nat))
  let below := (v / step).floor.toNat
  let above := below + 1
  let inside (n : Nat) : Bool :=
    let w := (n : Rat) * step
    (low < w && w < high) || (closed && (w == low || w == high))
  match inside below, inside above with
  | false, false => none
  | true, false => some below
  | false, true => some above
  | true, true =>
    -- both neighbours read back: the nearer one is taken, and halfway the even one
    let down := v - (below : Rat) * step
    let up := (above : Rat) * step - v
    if down < up then some below
    else if up < down then some above
    else some (if below % 2 = 0 then below else above)

/-- The digits without trailing zeros, which say nothing after the first place. -/
def dropZeros (digits : List Nat) : List Nat := (digits.reverse.dropWhile (· == 0)).reverse

/-- Digits on the grid of `count` digits whose first one stands at `exponent`; a number
one digit longer than its grid is the next power of ten. -/
def Digits.onGrid (exponent : Int) (count n : Nat) : Digits :=
  let digits := digitsOf n
  ⟨dropZeros digits, if count < digits.length then exponent + 1 else exponent⟩

/-- Tries the grids of `count`, `count + 1`, … digits. -/
def firstGrid (v low high : Rat) (closed : Bool) (exponent : Int) : Nat → Nat → Digits
  | 0, count => .onGrid exponent count (v / tenTo (exponent - (count - 1 : Nat))).floor.toNat
  | tries + 1, count =>
    match onGrid v low high closed exponent count with
    | some n => .onGrid exponent count n
    | none => firstGrid v low high closed exponent tries (count + 1)

/-- The shortest digits of a finite number other than zero. -/
def shortest (x : Binary64) : Digits :=
  let v := (x.significand : Rat) * Binary64.unitOf x.scale
  let (low, high, closed) := roundingInterval x
  -- 1233 / 4096 is a little less than the logarithm of two
  let estimate : Int := ((x.significand.log2 : Int) + x.scale - 1075) * 1233 / 4096 - 2
  let exponent := leadingExponent v 8 estimate
  firstGrid v low high closed exponent 17 1

/-- Digits as text. -/
def digitText (digits : List Nat) : List Char := digits.map fun d => Char.ofNat ('0'.toNat + d)

/-- Digits with a point after the given count of them, or zeros to reach it. -/
def positional (d : Digits) : List Char :=
  if d.exponent < 0 then
    '0' :: '.' :: List.replicate ((-d.exponent).toNat - 1) '0' ++ digitText d.digits
  else
    let before := d.exponent.toNat + 1
    let whole := digitText (d.digits.take before)
    let part := digitText (d.digits.drop before)
    whole ++ List.replicate (before - whole.length) '0' ++ '.' :: (if part.isEmpty then ['0'] else part)

/-- A whole number in decimal digits, at least `width` of them. -/
def paddedNat (width n : Nat) : List Char :=
  let digits := Nat.toDigits 10 n
  List.replicate (width - digits.length) '0' ++ digits

/-- Digits with a power of ten. -/
def scientific (d : Digits) : List Char :=
  let mantissa :=
    match digitText d.digits with
    | [] => ['0']
    | [c] => [c]
    | c :: cs => c :: '.' :: cs
  mantissa ++ 'e' :: (if d.exponent < 0 then '-' else '+') :: paddedNat 2 d.exponent.natAbs

end ChangeImpact.Decimal

namespace ChangeImpact.Binary64

open Decimal

attribute [local instance (high)] instPowNat

/-- The shortest text that reads back as the number. -/
def text (x : Binary64) : String :=
  if x.isNaN then "nan"
  else
    let magnitude :=
      if x.isInfinite then "inf".toList
      else if x.isZero then "0.0".toList
      else
        let d := shortest x
        if -4 ≤ d.exponent && d.exponent < 16 then positional d else scientific d
    String.ofList (if x.isNegative then '-' :: magnitude else magnitude)

/-- A finite number with a fixed count of decimal places; a half goes to the even
neighbour. -/
def fixed (places : Nat) (x : Binary64) : String :=
  match x.toRat? with
  | none => x.text
  | some r =>
    let units := roundQuotient (r.num.natAbs * 10 ^ places) r.den
    let whole := Nat.toDigits 10 (units / 10 ^ places)
    let part := paddedNat places (units % 10 ^ places)
    String.ofList ((if x.isNegative then ['-'] else []) ++ whole ++ '.' :: part)

end ChangeImpact.Binary64

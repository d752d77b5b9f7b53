import ChangeImpact.Decimal.Rounding

/-!
# Numbers in the binary64 format

A `Binary64` is its 64 bits: a sign, eleven bits of exponent and fifty-two of
fraction.  `toRat?` is the rational number that a finite one stands for, `ofRat` the
nearest finite one of a rational number, and arithmetic is exact arithmetic on
rationals followed by one rounding.  Nothing here depends on the machine's own
floating-point unit, so every result can be computed inside a proof.
-/

namespace ChangeImpact

/-- A number in the binary64 format, as its bits. -/
structure Binary64 where
  /-- Sign, exponent and fraction, from the most significant bit down. -/
  bits : UInt64
deriving DecidableEq, Inhabited

namespace Binary64

-- powers of whole numbers are the core ones, whatever else is imported
attribute [local instance (high)] instPowNat

/-- The sign bit. -/
def isNegative (x : Binary64) : Bool := x.bits.toNat / 2 ^ (63 : Nat) == 1

/-- The eleven bits of the exponent. -/
def exponentField (x : Binary64) : Nat := x.bits.toNat / 2 ^ (52 : Nat) % 2 ^ (11 : Nat)

/-- The fifty-two bits of the fraction. -/
def fractionField (x : Binary64) : Nat := x.bits.toNat % 2 ^ (52 : Nat)

/-- Neither an infinity nor a NaN. -/
def isFinite (x : Binary64) : Bool := x.exponentField != 2047

/-- Not a number. -/
def isNaN (x : Binary64) : Bool := x.exponentField == 2047 && x.fractionField != 0

/-- An infinity of either sign. -/
def isInfinite (x : Binary64) : Bool := x.exponentField == 2047 && x.fractionField == 0

/-- A zero of either sign. -/
def isZero (x : Binary64) : Bool := x.exponentField == 0 && x.fractionField == 0

/-- The whole number `m` in the magnitude `m · 2 ^ (scale - 1075)` of a finite number. -/
def significand (x : Binary64) : Nat :=
  if x.exponentField = 0 then x.fractionField else 2 ^ (52 : Nat) + x.fractionField

/-- The `scale` in the magnitude `significand · 2 ^ (scale - 1075)` of a finite number. -/
def scale (x : Binary64) : Nat := max x.exponentField 1

/-- The number with the given sign bit and the given bits below it. -/
def ofFields (negative : Bool) (rest : Nat) : Binary64 :=
  ⟨UInt64.ofNat ((if negative then 2 ^ (63 : Nat) else 0) + rest)⟩

/-- Zero. -/
def nought : Binary64 := ofFields false 0

/-- An infinity. -/
def infinity (negative : Bool) : Binary64 := ofFields negative (2047 * 2 ^ (52 : Nat))

/-- The NaN that arithmetic and reading give. -/
def nan : Binary64 := ofFields false (2047 * 2 ^ (52 : Nat) + 2 ^ (51 : Nat))

/-- `2 ^ (scale - 1075)` as a rational number. -/
def unitOf (scale : Nat) : Rat :=
  if 1075 ≤ scale then ((2 ^ (scale - 1075) : Nat) : Rat) else 1 / ((2 ^ (1075 - scale) : Nat) : Rat)

/-- The rational number that a finite number stands for. -/
def toRat? (x : Binary64) : Option Rat :=
  if x.isFinite then
    let magnitude := (x.significand : Rat) * unitOf x.scale
    some (if x.isNegative then -magnitude else magnitude)
  else none

/-- The power of two that the leading binary digit of `num / den` stands for. -/
def leadingBit (num den : Nat) : Int :=
  -- `num / den` lies between `2 ^ (guess - 1)` and `2 ^ (guess + 1)`
  let guess : Int := (num.log2 : Int) - den.log2
  let atLeast : Bool :=
    if 0 ≤ guess then den * 2 ^ guess.toNat ≤ num else den ≤ num * 2 ^ (-guess).toNat
  if atLeast then guess else guess - 1

/-- The number nearest to `num / den`, as the bits below the sign; a half goes to the
even significand, and what lies beyond the largest finite number becomes infinity. -/
def magnitudeBits (num den : Nat) : Nat :=
  if num = 0 then 0
  else
    -- the scale that leaves fifty-three binary digits, or fewer near zero
    let scale := max (leadingBit num den + 1023) 1
    if 2047 ≤ scale then 2047 * 2 ^ (52 : Nat)
    else
      let shift := scale - 1075
      let significand :=
        if 0 ≤ shift then Decimal.roundQuotient num (den * 2 ^ shift.toNat)
        else Decimal.roundQuotient (num * 2 ^ (-shift).toNat) den
      let bits := (scale.toNat - 1) * 2 ^ (52 : Nat) + significand
      min bits (2047 * 2 ^ (52 : Nat))

/-- The number nearest to a rational number. -/
def ofRat (r : Rat) : Binary64 := ofFields (r < 0) (magnitudeBits r.num.natAbs r.den)

/-- The number nearest to a whole number. -/
def ofNat (n : Nat) : Binary64 := ofFields false (magnitudeBits n 1)

/-- An operation on rational numbers followed by one rounding; NaN unless both operands
are finite. -/
def lift (f : Rat → Rat → Rat) (x y : Binary64) : Binary64 :=
  match x.toRat?, y.toRat? with
  | some a, some b => ofRat (f a b)
  | _, _ => nan

/-- The rounded sum of two finite numbers. -/
def add (x y : Binary64) : Binary64 := lift (· + ·) x y

/-- The rounded product of two finite numbers. -/
def mul (x y : Binary64) : Binary64 := lift (· * ·) x y

/-- The rounded quotient of two finite numbers, the second one not zero. -/
def div (x y : Binary64) : Binary64 := lift (· / ·) x y

/-- Whether one finite number is smaller than another. -/
def lt (x y : Binary64) : Bool :=
  match x.toRat?, y.toRat? with
  | some a, some b => a < b
  | _, _ => false

/-- The least whole number that is not below a number.  An infinite one counts as a power of
two that no count of things reaches, NaN as zero. -/
def wholeAbove (x : Binary64) : Int :=
  match x.toRat? with
  | some r => r.ceil
  | none => if x.isNaN then 0 else if x.isNegative then -2 ^ (64 : Nat) else 2 ^ (64 : Nat)

end Binary64

end ChangeImpact

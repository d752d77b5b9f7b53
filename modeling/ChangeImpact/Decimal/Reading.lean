import ChangeImpact.Decimal.Binary64

/-!
# Reading a decimal as a binary number

A decimal is given by its digits, read as one whole number, and the power of ten that
they are to be multiplied with.  The result is the nearest binary64 number; powers far
outside the format's range are settled without computing them.
-/

namespace ChangeImpact.Binary64

-- powers of whole numbers are the core ones, whatever else is imported
attribute [local instance (high)] instPowNat

/-- The number nearest to `digits · 10 ^ exponent`. -/
def ofDecimal (negative : Bool) (digits : Nat) (exponent : Int) : Binary64 :=
  if digits = 0 then ofFields negative 0
  else
    -- the leading digit stands for a power of ten of about this exponent
    let leading := exponent + ((digits.log2 * 1233 / 4096 : Nat) : Int)
    if 400 < leading then infinity negative
    else if leading < -400 then ofFields negative 0
    else if 0 ≤ exponent then ofFields negative (magnitudeBits (digits * 10 ^ exponent.toNat) 1)
    else ofFields negative (magnitudeBits digits (10 ^ (-exponent).toNat))

/-- The value of decimal digits, most significant first. -/
def digitsValue (ds : List Nat) : Nat := ds.foldl (fun n d => 10 * n + d) 0

end ChangeImpact.Binary64

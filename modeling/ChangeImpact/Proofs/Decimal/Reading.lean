import Mathlib.Tactic.Linarith
import ChangeImpact.Decimal.Reading
import ChangeImpact.Proofs.Decimal.Rounding

/-!
# What is read as a number

The values that are rounded to a finite number lie in an interval around it, which belongs to the
interval with its ends if the significand is even (`RoundsTo`). Below a power of two the interval is
half as wide, because the numbers lie closer together there.

> `magnitudeBits_eq`: a quotient in the interval of a number is rounded to that number;
> `ofDecimal_eq`: a decimal with a value in the interval is read as that number.

The scale of a quotient is that of the number, except for a quotient below a power of two that is
rounded up to it (`RoundsTo.near_below`).
-/

namespace ChangeImpact.Decimal

/-! ## The interval of a number -/

variable {x : Binary64}

theorem significand_pos (hzero : x.isZero = false) : 0 < x.significand := by
  unfold Binary64.significand
  split
  next hexponent =>
    unfold Binary64.isZero at hzero
    rw [hexponent] at hzero
    have : x.fractionField ≠ 0 := by simpa using hzero
    omega
  next => omega

theorem significand_lt (x : Binary64) : x.significand < 2 ^ 53 := by
  have hfraction : x.fractionField < 2 ^ 52 := Nat.mod_lt _ (by decide)
  unfold Binary64.significand
  split <;> omega

theorem scale_bounds (hfinite : x.isFinite = true) : 1 ≤ x.scale ∧ x.scale ≤ 2046 := by
  unfold Binary64.isFinite at hfinite
  have hfield : x.exponentField < 2 ^ 11 := Nat.mod_lt _ (by decide)
  have hne : x.exponentField ≠ 2047 := by simpa using hfinite
  unfold Binary64.scale
  omega

/-- Only numbers of the smallest scale have fewer than fifty-three binary digits. -/
theorem scale_eq_one (h : x.significand < 2 ^ 52) : x.scale = 1 := by
  unfold Binary64.significand at h
  unfold Binary64.scale
  split at h
  next hexponent => rw [hexponent]; rfl
  next => omega

/-- The number's value without its sign. -/
def magnitude (x : Binary64) : Rat := (x.significand : Rat) * Binary64.unitOf x.scale

/-- How far the interval of a number reaches down. -/
def gapBelow (x : Binary64) : Rat :=
  if x.fractionField = 0 && 1 < x.exponentField then Binary64.unitOf x.scale / 4
  else Binary64.unitOf x.scale / 2

/-- The value lies inside the interval of the number, or is an end that belongs to it. -/
def RoundsTo (x : Binary64) (v : Rat) : Prop :=
  ((roundingInterval x).1 < v ∧ v < (roundingInterval x).2.1) ∨
    ((roundingInterval x).2.2 = true ∧ (v = (roundingInterval x).1 ∨ v = (roundingInterval x).2.1))

theorem gapBelow_pos (x : Binary64) : 0 < gapBelow x := by
  have hunit := unitOf_pos x.scale
  unfold gapBelow
  split <;> linarith

theorem gapBelow_le (x : Binary64) : gapBelow x ≤ Binary64.unitOf x.scale / 2 := by
  have hunit := unitOf_pos x.scale
  unfold gapBelow
  split <;> linarith

/-- Where the interval ends, and which ends belong to it. -/
theorem RoundsTo.bounds {v : Rat} (h : RoundsTo x v) :
    magnitude x - gapBelow x ≤ v ∧ v ≤ magnitude x + Binary64.unitOf x.scale / 2 ∧
      (v = magnitude x - gapBelow x ∨ v = magnitude x + Binary64.unitOf x.scale / 2 →
        x.significand % 2 = 0) := by
  have hunit := unitOf_pos x.scale
  have hgap := gapBelow_pos x
  have hinterval : roundingInterval x = (magnitude x - gapBelow x,
    magnitude x + Binary64.unitOf x.scale / 2, x.significand % 2 == 0) := rfl
  unfold RoundsTo at h
  rw [hinterval] at h
  dsimp only at h
  rcases h with ⟨hlow, hhigh⟩ | ⟨heven, hends⟩
  · refine ⟨hlow.le, hhigh.le, fun hends => ?_⟩
    rcases hends with hend | hend
    · exact absurd hend hlow.ne'
    · exact absurd hend hhigh.ne
  · refine ⟨?_, ?_, fun _ => eq_of_beq heven⟩
    · rcases hends with hend | hend <;> linarith
    · rcases hends with hend | hend <;> linarith

/-- A value in the interval is within half a unit. -/
theorem RoundsTo.near {v : Rat} (h : RoundsTo x v) :
    Near x.significand (v / Binary64.unitOf x.scale) := by
  obtain ⟨hlow, hhigh, hends⟩ := h.bounds
  have hunit := unitOf_pos x.scale
  have hgap := gapBelow_le x
  have hv : v = v / Binary64.unitOf x.scale * Binary64.unitOf x.scale :=
    (div_mul_cancel₀ _ hunit.ne').symm
  generalize v / Binary64.unitOf x.scale = w at hv ⊢
  unfold magnitude at hlow hhigh hends
  subst hv
  refine ⟨?_, ?_, fun htie => hends ?_⟩
  · refine le_of_mul_le_mul_right ?_ hunit
    linarith
  · refine le_of_mul_le_mul_right ?_ hunit
    linarith
  · rcases htie with htie | htie
    · -- half a unit below is in the interval only if it is the end
      have heq := congrArg (· * Binary64.unitOf x.scale) htie
      left
      linarith
    · have heq := congrArg (· * Binary64.unitOf x.scale) htie
      right
      linarith

/-- Only the interval of a power of two reaches below it, and no further than to a quarter of a
unit. -/
theorem RoundsTo.significand_eq {v : Rat} (h : RoundsTo x v) (hscale : 1 < x.scale)
    (hv : v < (2 : Rat) ^ 52 * Binary64.unitOf x.scale) :
    x.significand = 2 ^ 52 ∧ gapBelow x = Binary64.unitOf x.scale / 4 := by
  obtain ⟨hlow, -, -⟩ := h.bounds
  have hunit := unitOf_pos x.scale
  have hgap := gapBelow_le x
  unfold magnitude at hlow
  have hsignificand : x.significand = 2 ^ 52 := by
    -- fewer digits would mean the smallest scale, and one more unit would put it above the power
    have hge : ¬ x.significand < 2 ^ 52 := by
      intro hlt
      have := scale_eq_one hlt
      omega
    have hle : (x.significand : Rat) < 2 ^ 52 + 1 := by
      refine lt_of_mul_lt_mul_right ?_ hunit.le
      linarith
    have : x.significand < 2 ^ 52 + 1 := by exact_mod_cast hle
    omega
  refine ⟨hsignificand, ?_⟩
  unfold gapBelow
  unfold Binary64.significand at hsignificand
  unfold Binary64.scale at hscale
  rw [if_neg (by omega)] at hsignificand
  rw [if_pos]
  rw [Bool.and_eq_true, decide_eq_true_iff, decide_eq_true_iff]
  omega

/-- Below a power of two a value in the interval is within half a unit of the next lower scale. -/
theorem RoundsTo.near_below {v : Rat} (h : RoundsTo x v) (hscale : 1 < x.scale)
    (hv : v < (2 : Rat) ^ 52 * Binary64.unitOf x.scale) :
    x.significand = 2 ^ 52 ∧ (2 : Rat) ^ 52 * Binary64.unitOf (x.scale - 1) ≤ v ∧
      v < (2 : Rat) ^ 53 * Binary64.unitOf (x.scale - 1) ∧
      Near (2 ^ 53) (v / Binary64.unitOf (x.scale - 1)) := by
  obtain ⟨hlow, -, -⟩ := h.bounds
  unfold magnitude at hlow
  obtain ⟨hsignificand, hfraction⟩ := h.significand_eq hscale hv
  have hlower := unitOf_pos (x.scale - 1)
  rw [hfraction, hsignificand] at hlow
  rw [unitOf_pred hscale] at hlow hv
  have hw : v = v / Binary64.unitOf (x.scale - 1) * Binary64.unitOf (x.scale - 1) :=
    (div_mul_cancel₀ _ hlower.ne').symm
  push_cast at hlow
  refine ⟨hsignificand, by linarith, by linarith, ?_, ?_, fun _ => rfl⟩
  · refine le_of_mul_le_mul_right ?_ hlower
    rw [add_mul, mul_assoc, mul_assoc, ← hw]
    push_cast
    linarith
  · refine le_of_mul_le_mul_right ?_ hlower
    rw [add_mul, mul_assoc, mul_assoc, ← hw]
    push_cast
    linarith

/-- **A quotient in the interval of a number is rounded to it.** -/
theorem magnitudeBits_eq {num den : Nat} (hfinite : x.isFinite = true)
    (hnum : 0 < num) (hden : 0 < den) (h : RoundsTo x ((num : Rat) / den)) :
    Binary64.magnitudeBits num den = (x.scale - 1) * 2 ^ 52 + x.significand := by
  obtain ⟨hscale, hscale'⟩ := scale_bounds hfinite
  have hsignificand := significand_lt x
  have hunit := unitOf_pos x.scale
  have hnear := h.near
  have hhigh : (num : Rat) / den < (2 : Rat) ^ 53 * Binary64.unitOf x.scale := by
    obtain ⟨-, hle, -⟩ := h.bounds
    have hcast : (x.significand : Rat) + 1 ≤ 2 ^ 53 := by exact_mod_cast hsignificand
    have := mul_le_mul_of_nonneg_right hcast hunit.le
    unfold magnitude at hle
    linarith
  by_cases hlow : x.scale = 1 ∨ (2 : Rat) ^ 52 * Binary64.unitOf x.scale ≤ (num : Rat) / den
  · exact magnitudeBits_of_near hnum hden hscale hscale' hsignificand.le hlow hhigh hnear
  · rw [not_or, not_le] at hlow
    obtain ⟨hsignificand, hlow', hhigh', hnear'⟩ := h.near_below (by omega) hlow.2
    rw [magnitudeBits_of_near hnum hden (by omega) (by omega) (Nat.le_refl _) (Or.inr hlow') hhigh'
      hnear', hsignificand]
    omega

/-- A number is its sign, its exponent and its fraction. -/
theorem ofFields_fields (x : Binary64) :
    Binary64.ofFields x.isNegative (x.exponentField * 2 ^ 52 + x.fractionField) = x := by
  have hbits : x.bits.toNat < 2 ^ 64 := x.bits.toNat_lt
  have hrest : x.exponentField * 2 ^ 52 + x.fractionField = x.bits.toNat % 2 ^ 63 := by
    unfold Binary64.exponentField Binary64.fractionField
    omega
  have hsign : (if x.isNegative then 2 ^ 63 else 0) = x.bits.toNat / 2 ^ 63 * 2 ^ 63 := by
    unfold Binary64.isNegative
    split
    next h => rw [eq_of_beq h, Nat.one_mul]
    next h =>
      have : ¬ x.bits.toNat / 2 ^ 63 = 1 := fun heq => h (beq_iff_eq.mpr heq)
      omega
  unfold Binary64.ofFields
  rw [hrest, hsign]
  congr 1
  apply UInt64.toNat_inj.mp
  rw [UInt64.toNat_ofNat']
  omega

/-- Its scale and its significand tell the same as the exponent and the fraction. -/
theorem ofFields_significand (x : Binary64) :
    Binary64.ofFields x.isNegative ((x.scale - 1) * 2 ^ 52 + x.significand) = x := by
  have hrest : (x.scale - 1) * 2 ^ 52 + x.significand =
      x.exponentField * 2 ^ 52 + x.fractionField := by
    unfold Binary64.scale Binary64.significand
    split <;> omega
  rw [hrest]
  exact ofFields_fields x

/-! ## Reading a decimal -/

/-- The interval of a number lies between the powers of two that the format reaches. -/
theorem RoundsTo.within {v : Rat} (h : RoundsTo x v) (hfinite : x.isFinite = true)
    (hzero : x.isZero = false) : (2 : Rat) ^ (-1075 : Int) ≤ v ∧ v < (2 : Rat) ^ (1024 : Int) := by
  obtain ⟨hlow, hhigh, -⟩ := h.bounds
  obtain ⟨hscale, hscale'⟩ := scale_bounds hfinite
  have hunit := unitOf_pos x.scale
  have hgap := gapBelow_le x
  have hsignificand : (1 : Rat) ≤ x.significand := by exact_mod_cast significand_pos hzero
  have hsignificand' : (x.significand : Rat) + 1 ≤ 2 ^ 53 := by exact_mod_cast significand_lt x
  have hlow' := mul_le_mul_of_nonneg_right hsignificand hunit.le
  have hhigh' := mul_le_mul_of_nonneg_right hsignificand' hunit.le
  have hunitLow : (2 : Rat) ^ (-1074 : Int) ≤ Binary64.unitOf x.scale := by
    rw [unitOf_eq_zpow]
    exact zpow_le_zpow_right₀ (by norm_num) (by omega)
  have hhalf : (2 : Rat) ^ (-1074 : Int) = 2 * (2 : Rat) ^ (-1075 : Int) := by
    rw [← zpow_one_add₀ (by norm_num)]
    rfl
  -- the largest significand stays below the end of the range
  have hfull : 2 ^ 53 * Binary64.unitOf x.scale ≤ (2 : Rat) ^ (1024 : Int) := by
    rw [unitOf_eq_zpow, ← zpow_natCast, ← zpow_add₀ (by norm_num)]
    exact zpow_le_zpow_right₀ (by norm_num) (by omega)
  unfold magnitude at hlow hhigh
  refine ⟨?_, ?_⟩
  · linarith
  · refine lt_of_lt_of_le ?_ hfull
    linarith

/-- A decimal in the interval of a number is not settled by its size alone. -/
theorem RoundsTo.leading_bounds {digits : Nat} {exponent : Int} (hfinite : x.isFinite = true)
    (hzero : x.isZero = false) (hdigits : 0 < digits) (hfew : digits.log2 ≤ 2000)
    (h : RoundsTo x (digits * tenTo exponent)) :
    -400 ≤ exponent + ((digits.log2 * 1233 / 4096 : Nat) : Int) ∧
      exponent + ((digits.log2 * 1233 / 4096 : Nat) : Int) ≤ 400 := by
  obtain ⟨hlow, hhigh⟩ := h.within hfinite hzero
  obtain ⟨hdigitsLow, hdigitsHigh⟩ := decimal_bounds hdigits hfew
  have hten : (0 : Rat) < (10 : Rat) ^ exponent := by positivity
  rw [tenTo_eq_zpow] at hlow hhigh
  refine ⟨?_, ?_⟩
  · have hpow : (10 : Rat) ^ (-324 : Int) ≤ (2 : Rat) ^ (-1075 : Int) :=
      ten_zpow_le_two_zpow (by decide) (by decide)
    have hmul := mul_lt_mul_of_pos_right hdigitsHigh hten
    rw [← zpow_add₀ (by norm_num)] at hmul
    have := (zpow_lt_zpow_iff_right₀ (by norm_num)).mp (lt_of_le_of_lt (le_trans hpow hlow) hmul)
    omega
  · have hpow : (2 : Rat) ^ (1024 : Int) ≤ (10 : Rat) ^ (400 : Int) :=
      two_zpow_le_ten_zpow (by decide) (by decide)
    have hmul := mul_le_mul_of_nonneg_right hdigitsLow hten.le
    rw [← zpow_add₀ (by norm_num)] at hmul
    have := (zpow_lt_zpow_iff_right₀ (by norm_num)).mp
      (lt_of_le_of_lt hmul (lt_of_lt_of_le hhigh hpow))
    omega

/-- **Reading.** A decimal whose value is rounded to a number is read as that number, if it has not
far more digits than are needed. -/
theorem ofDecimal_eq {digits : Nat} {exponent : Int} (hfinite : x.isFinite = true)
    (hzero : x.isZero = false) (hdigits : 0 < digits) (hfew : digits.log2 ≤ 2000)
    (h : RoundsTo x (digits * tenTo exponent)) :
    Binary64.ofDecimal x.isNegative digits exponent = x := by
  obtain ⟨hleading, hleading'⟩ := h.leading_bounds hfinite hzero hdigits hfew
  unfold Binary64.ofDecimal
  rw [if_neg (by omega)]
  dsimp only
  rw [if_neg (by omega), if_neg (by omega)]
  split
  next hexponent =>
    obtain ⟨n, rfl⟩ := Int.eq_ofNat_of_zero_le hexponent
    -- the power of ten goes to the numerator
    have hquotient : (digits : Rat) * tenTo n = ((digits * 10 ^ n : Nat) : Rat) / (1 : Nat) := by
      rw [tenTo_eq_zpow, zpow_natCast]
      push_cast
      exact (div_one _).symm
    have hpos : 0 < digits * 10 ^ n := Nat.mul_pos hdigits (Nat.pow_pos (by decide))
    rw [hquotient] at h
    rw [Int.toNat_natCast, magnitudeBits_eq hfinite hpos Nat.one_pos h]
    exact ofFields_significand x
  next hexponent =>
    obtain ⟨n, hn⟩ := Int.eq_ofNat_of_zero_le (show 0 ≤ -exponent by omega)
    obtain rfl : exponent = -(n : Int) := by omega
    -- and here to the denominator
    have hquotient : (digits : Rat) * tenTo (-(n : Int)) = (digits : Rat) / ((10 ^ n : Nat) : Rat) := by
      rw [tenTo_eq_zpow, zpow_neg, zpow_natCast]
      push_cast
      exact (div_eq_mul_inv _ _).symm
    rw [hquotient] at h
    rw [Int.neg_neg, Int.toNat_natCast,
      magnitudeBits_eq hfinite hdigits (Nat.pow_pos (by decide)) h]
    exact ofFields_significand x

/-! ## Numbers that are read -/

theorem magnitudeBits_le (num den : Nat) : Binary64.magnitudeBits num den ≤ 2047 * 2 ^ 52 := by
  unfold Binary64.magnitudeBits
  split
  next => omega
  next =>
    dsimp only
    split
    next => exact Nat.le_refl _
    next => exact Nat.min_le_right _ _

theorem isNaN_ofFields {negative : Bool} {rest : Nat} (h : rest ≤ 2047 * 2 ^ 52) :
    (Binary64.ofFields negative rest).isNaN = false := by
  have hbits : (Binary64.ofFields negative rest).bits.toNat =
      (if negative then 2 ^ 63 else 0) + rest := by
    unfold Binary64.ofFields
    rw [UInt64.toNat_ofNat']
    refine Nat.mod_eq_of_lt ?_
    split <;> omega
  unfold Binary64.isNaN Binary64.exponentField Binary64.fractionField
  rw [hbits, Bool.and_eq_false_iff, beq_eq_false_iff_ne, bne_eq_false_iff_eq]
  split <;> omega

/-- A decimal is never read as something that is not a number. -/
theorem isNaN_ofDecimal (negative : Bool) (digits : Nat) (exponent : Int) :
    (Binary64.ofDecimal negative digits exponent).isNaN = false := by
  unfold Binary64.ofDecimal
  dsimp only
  split
  next => exact isNaN_ofFields (Nat.zero_le _)
  next =>
    split
    next => exact isNaN_ofFields (Nat.le_refl _)
    next =>
      split
      next => exact isNaN_ofFields (Nat.zero_le _)
      next =>
        split
        next => exact isNaN_ofFields (magnitudeBits_le _ _)
        next => exact isNaN_ofFields (magnitudeBits_le _ _)

end ChangeImpact.Decimal

import ChangeImpact.Proofs.Decimal.Powers

/-!
# Rounding a quotient

A quotient is rounded to a whole number that it is within half a unit of (`Near`), and if there are
two of them to the even one. In the binary format it is first brought to a scale, which is chosen by
its leading binary digit (`leadingBit_spec`) so that fifty-three digits are left:

> `magnitudeBits_of_near`: a quotient between the powers of two of a scale has the bits of the whole
> number that it is near in units of that scale.
-/

namespace ChangeImpact.Decimal

/-! ## Rounding -/

/-- The value is nearest to the whole number, and to no other one that is even. -/
structure Near (m : Nat) (v : Rat) : Prop where
  low : 2 * (m : Rat) ≤ 2 * v + 1
  high : 2 * v ≤ 2 * (m : Rat) + 1
  tie : 2 * (m : Rat) = 2 * v + 1 ∨ 2 * v = 2 * (m : Rat) + 1 → m % 2 = 0

/-- A quotient is rounded to the whole number that it is within half a unit of, which must be even
if the other side is as near. -/
theorem roundQuotient_of_bounds {num den m : Nat} (hden : 0 < den)
    (hlow : 2 * (m * den) ≤ 2 * num + den) (hhigh : 2 * num ≤ 2 * (m * den) + den)
    (htie : 2 * (m * den) = 2 * num + den ∨ 2 * num = 2 * (m * den) + den → m % 2 = 0) :
    roundQuotient num den = m := by
  have hdiv := Nat.div_add_mod num den
  have hmod := Nat.mod_lt num hden
  rw [Nat.mul_comm] at hdiv
  -- only the whole part and the next number are that near
  have hge : num / den ≤ m := by
    by_contra hlt
    have := Nat.mul_le_mul_right den (Nat.succ_le_of_lt (Nat.lt_of_not_le hlt))
    rw [Nat.succ_mul] at this
    omega
  have hle : m ≤ num / den + 1 := by
    by_contra hlt
    have := Nat.mul_le_mul_right den (Nat.succ_le_of_lt (Nat.lt_of_not_le hlt))
    rw [Nat.succ_mul, Nat.succ_mul] at this
    omega
  unfold roundQuotient
  dsimp only
  by_cases hm : m = num / den
  · rw [hm] at hhigh htie
    split
    next => exact hm.symm
    next =>
      rw [if_neg (by omega), if_pos (htie (by omega))]
      exact hm.symm
  · have hm : m = num / den + 1 := by omega
    rw [hm, Nat.add_mul (num / den), Nat.one_mul] at hlow htie
    rw [if_neg (by omega)]
    split
    next => exact hm.symm
    next =>
      have := htie (by omega)
      rw [if_neg (by omega)]
      exact hm.symm

/-- A quotient is rounded to the whole number that it is near. -/
theorem roundQuotient_eq {num den m : Nat} (hden : 0 < den) (h : Near m ((num : Rat) / den)) :
    roundQuotient num den = m := by
  have hden' : (0 : Rat) < den := by exact_mod_cast hden
  have hmul : (num : Rat) / den * den = num := div_mul_cancel₀ _ hden'.ne'
  refine roundQuotient_of_bounds hden ?_ ?_ fun htie => h.tie (htie.imp (fun heq => ?_) fun heq => ?_)
  · have := mul_le_mul_of_nonneg_right h.low hden'.le
    rw [add_mul, one_mul, mul_assoc, mul_assoc, hmul] at this
    exact_mod_cast this
  · have := mul_le_mul_of_nonneg_right h.high hden'.le
    rw [add_mul, one_mul, mul_assoc, mul_assoc, hmul] at this
    exact_mod_cast this
  · refine mul_right_cancel₀ hden'.ne' ?_
    rw [add_mul, one_mul, mul_assoc, mul_assoc, hmul]
    exact_mod_cast heq
  · refine mul_right_cancel₀ hden'.ne' ?_
    rw [add_mul, one_mul, mul_assoc, mul_assoc, hmul]
    exact_mod_cast heq

/-- What is rounded at a scale is the quotient in units of that scale. -/
theorem roundScaled_eq {num den m : Nat} (hden : 0 < den) (shift : Int)
    (h : Near m ((num : Rat) / den / (2 : Rat) ^ shift)) :
    (if 0 ≤ shift then roundQuotient num (den * 2 ^ shift.toNat)
      else roundQuotient (num * 2 ^ (-shift).toNat) den) = m := by
  split
  next hshift =>
    refine roundQuotient_eq (Nat.mul_pos hden (Nat.two_pow_pos _)) ?_
    obtain ⟨n, rfl⟩ := Int.eq_ofNat_of_zero_le hshift
    rw [zpow_natCast, div_div] at h
    push_cast
    exact h
  next hshift =>
    refine roundQuotient_eq hden ?_
    obtain ⟨n, hn⟩ := Int.eq_ofNat_of_zero_le (show 0 ≤ -shift by omega)
    obtain rfl : shift = -(n : Int) := by omega
    rw [zpow_neg, zpow_natCast, div_inv_eq_mul, div_mul_eq_mul_div] at h
    rw [Int.neg_neg]
    push_cast
    exact h

/-! ## The leading binary digit -/

/-- The powers of two around a quotient. -/
theorem leadingBit_spec {num den : Nat} (hnum : 0 < num) (hden : 0 < den) :
    (2 : Rat) ^ Binary64.leadingBit num den ≤ (num : Rat) / den ∧
      (num : Rat) / den < (2 : Rat) ^ (Binary64.leadingBit num den + 1) := by
  have hden' : (0 : Rat) < den := by exact_mod_cast hden
  obtain ⟨hlow, hhigh⟩ := quotient_bounds hnum hden
  unfold Binary64.leadingBit
  dsimp only
  generalize (num.log2 : Int) - den.log2 = guess at hlow hhigh ⊢
  -- the comparison of whole numbers tells on which side of the power in between the quotient lies
  have hatLeast : ((if 0 ≤ guess then decide (den * 2 ^ guess.toNat ≤ num)
      else decide (den ≤ num * 2 ^ (-guess).toNat)) = true) ↔
        (2 : Rat) ^ guess ≤ (num : Rat) / den := by
    rw [le_div_iff₀ hden']
    split
    next hpos =>
      obtain ⟨n, rfl⟩ := Int.eq_ofNat_of_zero_le hpos
      rw [decide_eq_true_iff, zpow_natCast, Int.toNat_natCast, mul_comm]
      exact_mod_cast Iff.rfl
    next hneg =>
      obtain ⟨n, hn⟩ := Int.eq_ofNat_of_zero_le (show 0 ≤ -guess by omega)
      obtain rfl : guess = -(n : Int) := by omega
      rw [decide_eq_true_iff, zpow_neg, zpow_natCast, Int.neg_neg, Int.toNat_natCast,
        inv_mul_le_iff₀ (by positivity), mul_comm]
      exact_mod_cast Iff.rfl
  by_cases h : (2 : Rat) ^ guess ≤ (num : Rat) / den
  · rw [if_pos (hatLeast.mpr h)]
    exact ⟨h, hhigh⟩
  · rw [if_neg fun hatLeast' => h (hatLeast.mp hatLeast'), Int.sub_add_cancel]
    exact ⟨hlow, lt_of_not_ge h⟩

/-! ## The bits of a quotient -/

/-- A quotient with as many binary digits as a scale leaves has the bits of the whole number that it
is near in units of that scale. -/
theorem magnitudeBits_of_near {num den scale m : Nat} (hnum : 0 < num) (hden : 0 < den)
    (hscale : 1 ≤ scale) (hscale' : scale ≤ 2046) (hm : m ≤ 2 ^ 53)
    (hlow : scale = 1 ∨ (2 : Rat) ^ 52 * Binary64.unitOf scale ≤ (num : Rat) / den)
    (hhigh : (num : Rat) / den < (2 : Rat) ^ 53 * Binary64.unitOf scale)
    (hnear : Near m ((num : Rat) / den / Binary64.unitOf scale)) :
    Binary64.magnitudeBits num den = (scale - 1) * 2 ^ 52 + m := by
  rw [unitOf_eq_zpow] at hlow hhigh hnear
  rw [← zpow_natCast, ← zpow_add₀ (by norm_num)] at hlow hhigh
  -- the leading digit is where the scale leaves it, or below for the smallest scale
  have hleading : max (Binary64.leadingBit num den + 1023) 1 = scale := by
    obtain ⟨hlow', hhigh'⟩ := leadingBit_spec hnum hden
    have h₁ := (zpow_lt_zpow_iff_right₀ (by norm_num)).mp (lt_of_le_of_lt hlow' hhigh)
    rcases hlow with rfl | hlow
    · omega
    · have h₂ := (zpow_lt_zpow_iff_right₀ (by norm_num)).mp (lt_of_le_of_lt hlow hhigh')
      omega
  unfold Binary64.magnitudeBits
  rw [if_neg (by omega)]
  dsimp only
  rw [hleading, if_neg (by omega), roundScaled_eq hden _ hnear, Int.toNat_natCast]
  omega

end ChangeImpact.Decimal

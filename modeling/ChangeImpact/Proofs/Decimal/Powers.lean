import Mathlib.Algebra.Order.Field.Power
import Mathlib.Data.Nat.Cast.Order.Field
import Mathlib.Tactic.FieldSimp
import Mathlib.Tactic.Positivity
import ChangeImpact.Decimal.Shortest

/-!
# Powers of ten and of two

Powers of ten and the units of binary numbers are powers with a whole exponent. Two fractions
enclose the logarithm of two, 1233 / 4096 and 1234 / 4096, and by them powers of the one base are
compared with powers of the other one:

> `ten_zpow_le_two_zpow`, `two_zpow_le_ten_zpow`: a power is at most another one if its exponent is,
> by both fractions.

The logarithm of a whole number tells the powers around it, of two (`log2_bounds`) and of ten
(`decimal_bounds`).
-/

namespace ChangeImpact.Decimal

/-! ## Powers with whole exponents -/

/-- Powers of ten are those of the rational numbers. -/
theorem tenTo_eq_zpow (e : Int) : tenTo e = (10 : Rat) ^ e := by
  unfold tenTo
  split
  next h =>
    obtain ⟨n, rfl⟩ := Int.eq_ofNat_of_zero_le h
    push_cast
    rw [Int.toNat_natCast, zpow_natCast]
  next h =>
    obtain ⟨n, hn⟩ := Int.eq_ofNat_of_zero_le (show 0 ≤ -e by omega)
    obtain rfl : e = -(n : Int) := by omega
    push_cast
    rw [Int.neg_neg, Int.toNat_natCast, zpow_neg, zpow_natCast, one_div]

theorem tenTo_pos (e : Int) : 0 < tenTo e := by
  rw [tenTo_eq_zpow]
  positivity

/-- A power of ten with further places. -/
theorem tenTo_add (e : Int) (n : Nat) : tenTo (e + n) = ((10 ^ n : Nat) : Rat) * tenTo e := by
  rw [tenTo_eq_zpow, tenTo_eq_zpow, zpow_add₀ (by norm_num), zpow_natCast, mul_comm]
  push_cast
  rfl

/-- The unit of a scale is a power of two. -/
theorem unitOf_eq_zpow (scale : Nat) : Binary64.unitOf scale = (2 : Rat) ^ ((scale : Int) - 1075) := by
  unfold Binary64.unitOf
  split
  next h =>
    obtain ⟨n, rfl⟩ : ∃ n, scale = 1075 + n := ⟨scale - 1075, by omega⟩
    push_cast
    rw [show (1075 : Int) + n - 1075 = n by omega, Nat.add_sub_cancel_left, zpow_natCast]
  next h =>
    obtain ⟨n, hn⟩ : ∃ n, 1075 = scale + n := ⟨1075 - scale, by omega⟩
    rw [show (scale : Int) - 1075 = -(n : Int) by omega, zpow_neg, zpow_natCast, one_div,
      show 1075 - scale = n by omega]
    push_cast
    rfl

theorem unitOf_pos (scale : Nat) : 0 < Binary64.unitOf scale := by
  rw [unitOf_eq_zpow]
  positivity

/-- A scale below has half the unit. -/
theorem unitOf_pred {scale : Nat} (h : 1 < scale) :
    Binary64.unitOf scale = 2 * Binary64.unitOf (scale - 1) := by
  rw [unitOf_eq_zpow, unitOf_eq_zpow, ← zpow_one_add₀ (by norm_num)]
  congr 1
  omega

/-! ## Powers of both bases -/

/-- One of the two inequalities that tie powers of ten to powers of two. -/
theorem ten_pow_le_two_pow : (10 : Rat) ^ 1233 ≤ (2 : Rat) ^ 4096 := by
  have h : 10 ^ 1233 ≤ 2 ^ 4096 := by decide +kernel
  exact_mod_cast h

/-- The other one. -/
theorem two_pow_le_ten_pow : (2 : Rat) ^ 4096 ≤ (10 : Rat) ^ 1234 := by
  have h : 2 ^ 4096 ≤ 10 ^ 1234 := by decide +kernel
  exact_mod_cast h

/-- A power of ten is at most a power of two if its exponent is, by both fractions. -/
theorem ten_zpow_le_two_zpow {e k : Int} (h : 4096 * e ≤ 1233 * k) (h' : 4096 * e ≤ 1234 * k) :
    (10 : Rat) ^ e ≤ (2 : Rat) ^ k := by
  refine le_of_pow_le_pow_left₀ (show 4096 ≠ 0 by decide) (by positivity) ?_
  rw [← zpow_natCast, ← zpow_natCast, ← zpow_mul, ← zpow_mul, mul_comm e, mul_comm k]
  by_cases hk : 0 ≤ k
  · obtain ⟨n, rfl⟩ := Int.eq_ofNat_of_zero_le hk
    calc (10 : Rat) ^ (((4096 : Nat) : Int) * e)
        ≤ (10 : Rat) ^ (((1233 : Nat) : Int) * n) := zpow_le_zpow_right₀ (by norm_num) h
      _ = ((10 : Rat) ^ 1233) ^ n := by rw [zpow_mul, zpow_natCast, zpow_natCast]
      _ ≤ ((2 : Rat) ^ 4096) ^ n := pow_le_pow_left₀ (by positivity) ten_pow_le_two_pow n
      _ = (2 : Rat) ^ (((4096 : Nat) : Int) * n) := by rw [zpow_mul, zpow_natCast, zpow_natCast]
  · obtain ⟨n, hn⟩ := Int.eq_ofNat_of_zero_le (show 0 ≤ -k by omega)
    obtain rfl : k = -(n : Int) := by omega
    calc (10 : Rat) ^ (((4096 : Nat) : Int) * e)
        ≤ (10 : Rat) ^ (((1234 : Nat) : Int) * -n) := zpow_le_zpow_right₀ (by norm_num) h'
      _ = (((10 : Rat) ^ 1234) ^ n)⁻¹ := by
          rw [mul_neg, zpow_neg, zpow_mul, zpow_natCast, zpow_natCast]
      _ ≤ (((2 : Rat) ^ 4096) ^ n)⁻¹ :=
          inv_anti₀ (by positivity) (pow_le_pow_left₀ (by positivity) two_pow_le_ten_pow n)
      _ = (2 : Rat) ^ (((4096 : Nat) : Int) * -n) := by
          rw [mul_neg, zpow_neg, zpow_mul, zpow_natCast, zpow_natCast]

/-- A power of two is at most a power of ten if its exponent is, by both fractions. -/
theorem two_zpow_le_ten_zpow {e k : Int} (h : 1233 * k ≤ 4096 * e) (h' : 1234 * k ≤ 4096 * e) :
    (2 : Rat) ^ k ≤ (10 : Rat) ^ e := by
  have hinv := ten_zpow_le_two_zpow (e := -e) (k := -k) (by omega) (by omega)
  rw [zpow_neg, zpow_neg] at hinv
  exact (inv_le_inv₀ (by positivity) (by positivity)).mp hinv

/-! ## Whole numbers between powers -/

/-- The powers of two around a whole number. -/
theorem log2_bounds {n : Nat} (h : 0 < n) :
    (2 : Rat) ^ n.log2 ≤ n ∧ (n : Rat) < (2 : Rat) ^ (n.log2 + 1) := by
  refine ⟨?_, ?_⟩
  · exact_mod_cast Nat.log2_self_le (Nat.pos_iff_ne_zero.mp h)
  · exact_mod_cast Nat.lt_log2_self

/-- The logarithms enclose a quotient between two powers of two. -/
theorem quotient_bounds {num den : Nat} (hnum : 0 < num) (hden : 0 < den) :
    (2 : Rat) ^ ((num.log2 : Int) - den.log2 - 1) ≤ (num : Rat) / den ∧
      (num : Rat) / den < (2 : Rat) ^ ((num.log2 : Int) - den.log2 + 1) := by
  have hden' : (0 : Rat) < den := by exact_mod_cast hden
  obtain ⟨hnumLow, hnumHigh⟩ := log2_bounds hnum
  obtain ⟨hdenLow, hdenHigh⟩ := log2_bounds hden
  refine ⟨?_, ?_⟩
  · -- a smaller numerator over a larger denominator
    rw [le_div_iff₀ hden']
    calc (2 : Rat) ^ ((num.log2 : Int) - den.log2 - 1) * den
        ≤ (2 : Rat) ^ ((num.log2 : Int) - den.log2 - 1) * (2 : Rat) ^ (den.log2 + 1) :=
          mul_le_mul_of_nonneg_left hdenHigh.le (by positivity)
      _ = (2 : Rat) ^ num.log2 := by
          rw [← zpow_natCast, ← zpow_natCast, ← zpow_add₀ (by norm_num)]
          congr 1
          push_cast
          omega
      _ ≤ num := hnumLow
  · -- a larger numerator over a smaller denominator
    rw [div_lt_iff₀ hden']
    calc (num : Rat) < (2 : Rat) ^ (num.log2 + 1) := hnumHigh
      _ = (2 : Rat) ^ ((num.log2 : Int) - den.log2 + 1) * (2 : Rat) ^ den.log2 := by
          rw [← zpow_natCast, ← zpow_natCast, ← zpow_add₀ (by norm_num)]
          congr 1
          push_cast
          omega
      _ ≤ (2 : Rat) ^ ((num.log2 : Int) - den.log2 + 1) * den :=
          mul_le_mul_of_nonneg_left hdenLow (by positivity)

/-- The powers of ten around a whole number of not too many digits, by its logarithm. -/
theorem decimal_bounds {n : Nat} (h : 0 < n) (hfew : n.log2 ≤ 2000) :
    (10 : Rat) ^ ((n.log2 * 1233 / 4096 : Nat) : Int) ≤ n ∧
      (n : Rat) < (10 : Rat) ^ (((n.log2 * 1233 / 4096 : Nat) : Int) + 2) := by
  obtain ⟨hlow, hhigh⟩ := log2_bounds h
  rw [← zpow_natCast] at hlow hhigh
  rw [Int.natCast_succ] at hhigh
  refine ⟨?_, ?_⟩
  · exact le_trans (ten_zpow_le_two_zpow (by omega) (by omega)) hlow
  · exact lt_of_lt_of_le hhigh (two_zpow_le_ten_zpow (by omega) (by omega))

end ChangeImpact.Decimal

import ChangeImpact.Proofs.Decimal.Digits
import ChangeImpact.Proofs.Decimal.Reading

/-!
# The shortest decimal stands for its number

The digits of a number are looked for on one grid after another, the finest of which has seventeen
digits. A grid gives digits only if they stand for a value that is rounded to the number, and the
finest one always does:

> `shortest_roundsTo`: the value of the shortest digits is rounded to the number;
> `shortest_isLeading`: the digits begin with one that is not a zero.

Both need that the exponent of the first digit is the right one (`firstExponent_spec`), which is
found from an estimate by the binary digits.
-/

namespace ChangeImpact.Decimal

/-! ## The leading digit -/

/-- The exponent that is found is the right one if the estimate is not too high and low by less than
the number of tries. -/
theorem leadingExponent_spec {v : Rat} : ∀ {n : Nat} {e : Int}, tenTo e ≤ v → v < tenTo (e + 1 + n) →
    tenTo (leadingExponent v n e) ≤ v ∧ v < tenTo (leadingExponent v n e + 1) := by
  intro n
  induction n with
  | zero =>
    intro e hlow hhigh
    rw [Int.natCast_zero, add_zero] at hhigh
    exact ⟨hlow, hhigh⟩
  | succ n ih =>
    intro e hlow hhigh
    unfold leadingExponent
    split
    next hnext =>
      refine ih hnext ?_
      rw [Int.natCast_succ] at hhigh
      rwa [show e + 1 + 1 + (n : Int) = e + 1 + ((n : Int) + 1) by omega]
    next hnext => exact ⟨hlow, lt_of_not_ge hnext⟩

variable {x : Binary64}

theorem log2_significand_lt (x : Binary64) : x.significand.log2 < 53 := by
  by_cases hzero : x.significand = 0
  · rw [hzero]
    decide
  · exact (Nat.log2_lt hzero).mpr (significand_lt x)

/-- The powers of two around the magnitude of a number. -/
theorem magnitude_bounds (hzero : x.isZero = false) :
    (2 : Rat) ^ ((x.significand.log2 : Int) + x.scale - 1075) ≤ magnitude x ∧
      magnitude x < (2 : Rat) ^ ((x.significand.log2 : Int) + x.scale - 1075 + 1) := by
  have hunit := unitOf_pos x.scale
  obtain ⟨hlow, hhigh⟩ := log2_bounds (significand_pos hzero)
  have hpow : ∀ k : Nat, (2 : Rat) ^ k * Binary64.unitOf x.scale =
      (2 : Rat) ^ ((k : Int) + x.scale - 1075) := by
    intro k
    rw [unitOf_eq_zpow, add_sub_assoc, zpow_add₀ (by norm_num), zpow_natCast]
  refine ⟨?_, ?_⟩
  · rw [← hpow]
    exact mul_le_mul_of_nonneg_right hlow hunit.le
  · have := hpow (x.significand.log2 + 1)
    rw [show ((x.significand.log2 + 1 : Nat) : Int) + x.scale - 1075 =
      (x.significand.log2 : Int) + x.scale - 1075 + 1 by omega] at this
    rw [← this]
    exact mul_lt_mul_of_pos_right hhigh hunit

/-- The exponent of the first digit of a number. -/
def firstExponent (x : Binary64) : Int :=
  leadingExponent (magnitude x) 8
    (((x.significand.log2 : Int) + x.scale - 1075) * 1233 / 4096 - 2)

theorem firstExponent_spec (hfinite : x.isFinite = true) (hzero : x.isZero = false) :
    tenTo (firstExponent x) ≤ magnitude x ∧ magnitude x < tenTo (firstExponent x + 1) := by
  obtain ⟨hlow, hhigh⟩ := magnitude_bounds hzero
  obtain ⟨hscale, hscale'⟩ := scale_bounds hfinite
  have hlog := log2_significand_lt x
  unfold firstExponent
  refine leadingExponent_spec ?_ ?_
  · rw [tenTo_eq_zpow]
    exact le_trans (ten_zpow_le_two_zpow (by omega) (by omega)) hlow
  · rw [tenTo_eq_zpow]
    exact lt_of_lt_of_le hhigh (two_zpow_le_ten_zpow (by omega) (by omega))

/-! ## One grid -/

/-- The multiples of a step around a value. -/
theorem floor_bounds {v step : Rat} (hstep : 0 < step) (hv : 0 ≤ v) :
    ((v / step).floor.toNat : Rat) * step ≤ v ∧ v < (((v / step).floor.toNat + 1 : Nat) : Rat) * step := by
  have hnonneg : 0 ≤ (v / step).floor := Rat.le_floor_iff.mpr (by positivity)
  have hcast : ((v / step).floor.toNat : Rat) = ((v / step).floor : Int) := by
    exact_mod_cast congrArg (Int.cast (R := Rat)) (Int.toNat_of_nonneg hnonneg)
  refine ⟨?_, ?_⟩
  · rw [hcast, ← le_div_iff₀ hstep]
    exact Rat.floor_le _
  · push_cast
    rw [hcast, ← div_lt_iff₀ hstep]
    exact_mod_cast Rat.lt_floor_add_one (v / step)

/-- A grid of `count` digits has its multiples between the powers of ten that enclose the value. -/
theorem floor_digits {v : Rat} {e : Int} {count : Nat} (hcount : 0 < count) (hlow : tenTo e ≤ v)
    (hhigh : v < tenTo (e + 1)) :
    10 ^ (count - 1) ≤ (v / tenTo (e - ((count - 1 : Nat) : Int))).floor.toNat ∧
      (v / tenTo (e - ((count - 1 : Nat) : Int))).floor.toNat < 10 ^ count := by
  have hstep := tenTo_pos (e - ((count - 1 : Nat) : Int))
  obtain ⟨hbelow, habove⟩ := floor_bounds hstep (le_trans (tenTo_pos e).le hlow)
  generalize (v / tenTo (e - ((count - 1 : Nat) : Int))).floor.toNat = n at hbelow habove ⊢
  refine ⟨?_, ?_⟩
  · have hpow := tenTo_add (e - ((count - 1 : Nat) : Int)) (count - 1)
    rw [Int.sub_add_cancel] at hpow
    rw [hpow] at hlow
    have := lt_of_mul_lt_mul_right (lt_of_le_of_lt hlow habove) hstep.le
    have : 10 ^ (count - 1) < n + 1 := by exact_mod_cast this
    omega
  · have hpow := tenTo_add (e - ((count - 1 : Nat) : Int)) count
    rw [show e - ((count - 1 : Nat) : Int) + count = e + 1 by omega] at hpow
    rw [hpow] at hhigh
    have := lt_of_mul_lt_mul_right (lt_of_le_of_lt hbelow hhigh) hstep.le
    exact_mod_cast this

/-- Whether a value is found inside the interval. -/
theorem inside_iff {w : Rat} :
    (((roundingInterval x).1 < w && w < (roundingInterval x).2.1) ||
      ((roundingInterval x).2.2 &&
        (w == (roundingInterval x).1 || w == (roundingInterval x).2.1))) = true ↔ RoundsTo x w := by
  unfold RoundsTo
  rw [Bool.or_eq_true, Bool.and_eq_true, Bool.and_eq_true, Bool.or_eq_true, decide_eq_true_iff,
    decide_eq_true_iff, beq_iff_eq, beq_iff_eq]

/-- The search on one grid for a number. -/
def gridOf (x : Binary64) (count : Nat) : Option Nat :=
  onGrid (magnitude x) (roundingInterval x).1 (roundingInterval x).2.1 (roundingInterval x).2.2
    (firstExponent x) count

/-- The distance of two values on a grid for a number. -/
def stepOf (x : Binary64) (count : Nat) : Rat := tenTo (firstExponent x - ((count - 1 : Nat) : Int))

/-- What is found on a grid is a neighbour of the magnitude that is rounded to the number. -/
theorem gridOf_eq_some {count n : Nat} (h : gridOf x count = some n) :
    (n = (magnitude x / stepOf x count).floor.toNat ∨
      n = (magnitude x / stepOf x count).floor.toNat + 1) ∧ RoundsTo x (n * stepOf x count) := by
  unfold gridOf onGrid at h
  dsimp only at h
  rw [← inside_iff]
  split at h
  next => cases h
  next hbelow _ =>
    obtain rfl := Option.some.inj h
    exact ⟨Or.inl rfl, hbelow⟩
  next _ habove =>
    obtain rfl := Option.some.inj h
    exact ⟨Or.inr rfl, habove⟩
  -- both neighbours round back, and the nearer one is taken
  next hbelow habove =>
    split at h
    next =>
      obtain rfl := Option.some.inj h
      exact ⟨Or.inl rfl, hbelow⟩
    next =>
      split at h
      next =>
        obtain rfl := Option.some.inj h
        exact ⟨Or.inr rfl, habove⟩
      next =>
        obtain rfl := Option.some.inj h
        split
        next => exact ⟨Or.inl rfl, hbelow⟩
        next => exact ⟨Or.inr rfl, habove⟩

/-- If nothing is found on a grid then neither neighbour is rounded to the number. -/
theorem gridOf_eq_none {count : Nat} (h : gridOf x count = none) :
    ¬ RoundsTo x ((magnitude x / stepOf x count).floor.toNat * stepOf x count) ∧
      ¬ RoundsTo x (((magnitude x / stepOf x count).floor.toNat + 1 : Nat) * stepOf x count) := by
  unfold gridOf onGrid at h
  dsimp only at h
  rw [← inside_iff, ← inside_iff, Bool.not_eq_true, Bool.not_eq_true]
  split at h
  next hbelow habove => exact ⟨hbelow, habove⟩
  next => cases h
  next => cases h
  next =>
    split at h
    next => cases h
    next => split at h <;> cases h

/-- A step of seventeen digits is less than twice the distance to the lower end of the interval. -/
theorem stepOf_lt (hfinite : x.isFinite = true) (hzero : x.isZero = false) :
    stepOf x 17 < 2 * gapBelow x := by
  have hunit := unitOf_pos x.scale
  obtain ⟨hlow, -⟩ := firstExponent_spec hfinite hzero
  have hpow : tenTo (firstExponent x) = ((10 ^ 16 : Nat) : Rat) * stepOf x 17 := by
    unfold stepOf
    rw [← tenTo_add]
    congr 1
    omega
  rw [hpow] at hlow
  push_cast at hlow
  unfold magnitude at hlow
  unfold gapBelow
  split
  next hpower =>
    -- the gap is half as wide here, and so is the number in units
    have hsignificand : x.significand = 2 ^ 52 := by
      rw [Bool.and_eq_true, decide_eq_true_iff, decide_eq_true_iff] at hpower
      unfold Binary64.significand
      rw [if_neg (by omega), hpower.1, Nat.add_zero]
    rw [hsignificand] at hlow
    push_cast at hlow
    linarith
  next =>
    have hsignificand : (x.significand : Rat) < 2 ^ 53 := by exact_mod_cast significand_lt x
    have := mul_lt_mul_of_pos_right hsignificand hunit
    linarith

/-- **The finest grid.** With seventeen digits a neighbour is rounded to the number. -/
theorem gridOf_finest (hfinite : x.isFinite = true) (hzero : x.isZero = false) :
    gridOf x 17 ≠ none := by
  intro hnone
  obtain ⟨hbelow, habove⟩ := gridOf_eq_none hnone
  have hstep := stepOf_lt hfinite hzero
  have hpos : 0 < stepOf x 17 := tenTo_pos _
  have hgap := gapBelow_le x
  have hunit := unitOf_pos x.scale
  have hmagnitude : 0 ≤ magnitude x := mul_nonneg (by positivity) hunit.le
  obtain ⟨hle, hlt⟩ := floor_bounds hpos hmagnitude
  push_cast at hlt habove
  -- the nearer neighbour is within half a step
  by_cases hnear : magnitude x - (magnitude x / stepOf x 17).floor.toNat * stepOf x 17 ≤
      stepOf x 17 / 2
  · refine hbelow (Or.inl ⟨?_, ?_⟩)
    · show magnitude x - gapBelow x < _
      linarith
    · show _ < magnitude x + Binary64.unitOf x.scale / 2
      linarith
  · refine habove (Or.inl ⟨?_, ?_⟩)
    · show magnitude x - gapBelow x < _
      linarith [gapBelow_pos x]
    · show _ < magnitude x + Binary64.unitOf x.scale / 2
      linarith

/-! ## The shortest digits -/

/-- Grids are tried until one gives digits, if a fine enough one does. -/
theorem exists_firstGrid {v low high : Rat} {closed : Bool} {exponent : Int} {finest : Nat}
    (hfinest : onGrid v low high closed exponent finest ≠ none) : ∀ tries count : Nat,
      count ≤ finest → finest < tries + count →
        ∃ c n, count ≤ c ∧ c ≤ finest ∧ onGrid v low high closed exponent c = some n ∧
          firstGrid v low high closed exponent tries count = .onGrid exponent c n := by
  intro tries
  induction tries with
  | zero =>
    intro count hle hlt
    omega
  | succ tries ih =>
    intro count hle hlt
    unfold firstGrid
    split
    next n hfound => exact ⟨count, n, Nat.le_refl _, hle, hfound, rfl⟩
    next hnone =>
      have hne : count ≠ finest := by
        intro heq
        rw [heq] at hnone
        exact hfinest hnone
      obtain ⟨c, n, hcount, hc⟩ := ih (count + 1) (by omega) (by omega)
      exact ⟨c, n, by omega, hc⟩

/-- The shortest digits are those of a grid, of at most seventeen digits, with a value that is rounded
to the number. -/
theorem shortest_spec (hfinite : x.isFinite = true) (hzero : x.isZero = false) :
    ∃ count n, 0 < count ∧ count ≤ 17 ∧ shortest x = .onGrid (firstExponent x) count n ∧
      10 ^ (count - 1) ≤ n ∧ n ≤ 10 ^ count ∧ RoundsTo x (n * stepOf x count) := by
  obtain ⟨count, n, hcount, hcount', hfound, hshortest⟩ :=
    exists_firstGrid (gridOf_finest hfinite hzero) 17 1 (by decide) (by decide)
  obtain ⟨hlow, hhigh⟩ := firstExponent_spec hfinite hzero
  obtain ⟨hbelow, habove⟩ := floor_digits hcount hlow hhigh
  obtain ⟨hn, hrounds⟩ := gridOf_eq_some hfound
  unfold stepOf at hn
  exact ⟨count, n, hcount, hcount', hshortest, by omega, by omega, hrounds⟩

/-- **The shortest digits stand for the number.** -/
theorem shortest_roundsTo (hfinite : x.isFinite = true) (hzero : x.isZero = false) :
    RoundsTo x (shortest x).value := by
  obtain ⟨count, n, hcount, -, hshortest, hlow, hhigh, hrounds⟩ := shortest_spec hfinite hzero
  rw [hshortest, value_onGrid hcount hlow hhigh]
  exact hrounds

/-- **The shortest digits begin with one that is not a zero.** -/
theorem shortest_isLeading (hfinite : x.isFinite = true) (hzero : x.isZero = false) :
    IsLeading (shortest x).digits := by
  obtain ⟨count, n, -, -, hshortest, hlow, -, -⟩ := shortest_spec hfinite hzero
  rw [hshortest]
  exact (isLeading_digitsOf (lt_of_lt_of_le (Nat.pow_pos (by decide)) hlow)).dropZeros

/-- The shortest digits are few. -/
theorem length_shortest_le (hfinite : x.isFinite = true) (hzero : x.isZero = false) :
    (shortest x).digits.length ≤ 18 := by
  obtain ⟨count, n, hcount, hcount', hshortest, -, hhigh, -⟩ := shortest_spec hfinite hzero
  obtain ⟨k, hk⟩ := exists_dropZeros_append (digitsOf n)
  have hlength := congrArg List.length hk
  rw [List.length_append] at hlength
  have hle : (digitsOf n).length ≤ count + 1 := by
    unfold digitsOf
    rw [List.length_map]
    refine (Nat.length_toDigits_le_iff (by decide) (Nat.succ_pos _)).mpr (lt_of_le_of_lt hhigh ?_)
    exact Nat.pow_lt_pow_right (by decide) (Nat.lt_succ_self _)
  rw [hshortest]
  show (dropZeros (digitsOf n)).length ≤ 18
  omega

end ChangeImpact.Decimal

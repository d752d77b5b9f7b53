import Mathlib.Data.List.TakeWhile
import ChangeImpact.Decimal.Reading
import ChangeImpact.Proofs.Decimal.Powers

/-!
# Decimal digits and what they stand for

Digits stand for a whole number (`digitsValue_digitsOf`), and with the exponent of the first one for
a rational number, `Digits.value`. Zeros at the end can be left out then:

> `value_onGrid`: the digits of a multiple of a step stand for that multiple.

A number other than zero has digits that begin with one that is not a zero (`IsLeading`).
-/

namespace ChangeImpact.Decimal

open Binary64

/-! ## Whole numbers -/

/-- A further digit counts once, and the others ten times. -/
theorem digitsValue_concat (ds : List Nat) (d : Nat) :
    digitsValue (ds ++ [d]) = 10 * digitsValue ds + d := by
  unfold digitsValue
  rw [List.foldl_append]
  rfl

/-- Digits in front of others count as many times as these have places. -/
theorem digitsValue_append (ds es : List Nat) :
    digitsValue (ds ++ es) = digitsValue ds * 10 ^ es.length + digitsValue es := by
  induction es using List.reverseRecOn with
  | nil =>
    rw [List.append_nil, List.length_nil, Nat.pow_zero, Nat.mul_one]
    rfl
  | append_singleton es e ih =>
    rw [← List.append_assoc, digitsValue_concat, digitsValue_concat, ih, List.length_append,
      List.length_singleton, Nat.pow_succ, ← Nat.mul_assoc]
    omega

theorem digitsValue_replicate_zero (n : Nat) : digitsValue (List.replicate n 0) = 0 := by
  induction n with
  | zero => rfl
  | succ n ih =>
    rw [List.replicate_succ', digitsValue_concat, ih]

/-- Decimal digits stand for less than the power of ten that their number tells. -/
theorem digitsValue_lt {digits : List Nat} (h : ∀ d ∈ digits, d < 10) :
    digitsValue digits < 10 ^ digits.length := by
  induction digits using List.reverseRecOn with
  | nil => decide
  | append_singleton ds d ih =>
    have hd := h d (List.mem_append_right _ (List.mem_singleton_self d))
    have hds := ih fun e he => h e (List.mem_append_left _ he)
    rw [digitsValue_concat, List.length_append, List.length_singleton, Nat.pow_succ]
    omega

theorem replicate_zero_lt (n : Nat) : ∀ d ∈ List.replicate n 0, d < 10 := by
  intro d hd
  rw [List.eq_of_mem_replicate hd]
  decide

/-- The digits of a number have its value. -/
theorem digitsValue_digitsOf (n : Nat) : digitsValue (digitsOf n) = n := by
  unfold digitsOf digitsValue
  rw [List.foldl_map]
  exact Nat.ofDigitChars_ten_toDigits

/-- A number has as many digits as its magnitude says. -/
theorem length_digitsOf {n count : Nat} (hlow : 10 ^ count ≤ n) (hhigh : n < 10 ^ (count + 1)) :
    (digitsOf n).length = count + 1 := by
  unfold digitsOf
  rw [List.length_map]
  have hle : (Nat.toDigits 10 n).length ≤ count + 1 :=
    (Nat.length_toDigits_le_iff (by decide) (Nat.succ_pos _)).mpr hhigh
  have hpos : 0 < (Nat.toDigits 10 n).length := Nat.length_toDigits_pos
  have hge : ¬ (Nat.toDigits 10 n).length ≤ count := by
    intro hle
    have := (Nat.length_toDigits_le_iff (by decide) (by omega)).mp hle
    omega
  omega

/-! ## The first digit -/

/-- Decimal digits of which the first one is not a zero. -/
def IsLeading (digits : List Nat) : Prop :=
  (∃ d ds, digits = d :: ds ∧ d ≠ 0) ∧ ∀ d ∈ digits, d < 10

/-- The first digit of a positive number is not zero. -/
theorem isLeading_digitsOf {n : Nat} (h : 0 < n) : IsLeading (digitsOf n) := by
  unfold digitsOf
  refine ⟨?_, ?_⟩
  · induction n using Nat.strongRecOn with
    | ind n ih =>
      rcases Nat.lt_or_ge n 10 with hlt | hge
      · refine ⟨n, [], ?_, by omega⟩
        rw [Nat.toDigits_of_lt_base hlt, List.map_cons, List.map_nil]
        have := Nat.toNat_digitChar_sub_48_of_lt_ten hlt
        exact congrArg (· :: []) this
      · obtain ⟨d, ds, heq, hd⟩ := ih (n / 10) (by omega) (by omega)
        rw [Nat.toDigits_of_base_le (by decide) hge, List.map_append, heq]
        exact ⟨d, _, List.cons_append .., hd⟩
  · intro d hd
    obtain ⟨c, hc, rfl⟩ := List.mem_map.mp hd
    have hdigit := Nat.isDigit_of_mem_toDigits (by decide) (by decide) hc
    rw [Char.isDigit_iff_toNat] at hdigit
    have h48 : '0'.toNat = 48 := rfl
    have h57 : '9'.toNat = 57 := rfl
    omega

theorem IsLeading.ne_nil {digits : List Nat} (h : IsLeading digits) : digits ≠ [] := by
  obtain ⟨⟨d, ds, rfl, -⟩, -⟩ := h
  exact List.cons_ne_nil _ _

/-- It stays the first one with others behind it. -/
theorem IsLeading.append {digits more : List Nat} (h : IsLeading digits) (hmore : ∀ d ∈ more, d < 10) :
    IsLeading (digits ++ more) := by
  obtain ⟨⟨d, ds, rfl, hd⟩, hall⟩ := h
  exact ⟨⟨d, ds ++ more, rfl, hd⟩, List.forall_mem_append.mpr ⟨hall, hmore⟩⟩

/-- So it does if digits at the end are cut off. -/
theorem IsLeading.take {digits : List Nat} (h : IsLeading digits) (n : Nat) :
    IsLeading (digits.take (n + 1)) := by
  obtain ⟨⟨d, ds, rfl, hd⟩, hall⟩ := h
  exact ⟨⟨d, ds.take n, rfl, hd⟩, fun e he => hall e (List.mem_of_mem_take he)⟩

/-- Digits are the same with the zeros at the end back in place. -/
theorem exists_dropZeros_append (digits : List Nat) :
    ∃ n, digits = dropZeros digits ++ List.replicate n 0 := by
  have hzeros : ∀ d ∈ digits.reverse.takeWhile (· == 0), d = 0 := by
    intro d hd
    have hzero := List.mem_takeWhile_imp (p := (· == 0)) hd
    exact eq_of_beq hzero
  refine ⟨(digits.reverse.takeWhile (· == 0)).length, ?_⟩
  have hsplit := congrArg List.reverse
    (List.takeWhile_append_dropWhile (p := (· == 0)) (l := digits.reverse))
  rw [List.reverse_append, List.reverse_reverse, List.eq_replicate_of_mem hzeros,
    List.reverse_replicate] at hsplit
  exact hsplit.symm

/-- Leaving out zeros at the end leaves the beginning. -/
theorem IsLeading.dropZeros {digits : List Nat} (h : IsLeading digits) :
    IsLeading (dropZeros digits) := by
  obtain ⟨⟨d, ds, rfl, hd⟩, hall⟩ := h
  obtain ⟨n, hn⟩ := exists_dropZeros_append (d :: ds)
  refine ⟨?_, fun e he => hall e (hn ▸ List.mem_append_left _ he)⟩
  cases hdrop : Decimal.dropZeros (d :: ds) with
  | nil =>
    rw [hdrop, List.nil_append] at hn
    have := List.eq_of_mem_replicate (hn ▸ List.mem_cons_self : d ∈ List.replicate n 0)
    exact absurd this hd
  | cons e es =>
    rw [hdrop, List.cons_append] at hn
    exact ⟨e, es, rfl, (List.cons_eq_cons.mp hn).1 ▸ hd⟩

/-! ## Digits with an exponent -/

/-- What digits stand for if the first one stands at the exponent. -/
def Digits.value (d : Digits) : Rat :=
  (digitsValue d.digits : Rat) * tenTo (d.exponent + 1 - d.digits.length)

/-- Zeros at the end only move the exponent. -/
theorem value_dropZeros (digits : List Nat) (exponent : Int) :
    Digits.value ⟨dropZeros digits, exponent⟩ = Digits.value ⟨digits, exponent⟩ := by
  obtain ⟨n, hn⟩ := exists_dropZeros_append digits
  generalize dropZeros digits = kept at hn ⊢
  subst hn
  unfold Digits.value
  dsimp only
  rw [digitsValue_append, digitsValue_replicate_zero, List.length_append, List.length_replicate,
    Nat.add_zero, show exponent + 1 - (kept.length : Int) =
      exponent + 1 - ((kept.length + n : Nat) : Int) + n by omega, tenTo_add, ← mul_assoc]
  push_cast
  rfl

/-- The digits of a multiple of a step stand for that multiple. -/
theorem value_onGrid {count n : Nat} (hcount : 0 < count) (hlow : 10 ^ (count - 1) ≤ n)
    (hhigh : n ≤ 10 ^ count) (exponent : Int) :
    (Digits.onGrid exponent count n).value = n * tenTo (exponent - ((count - 1 : Nat) : Int)) := by
  obtain ⟨count, rfl⟩ : ∃ k, count = k + 1 := ⟨count - 1, by omega⟩
  rw [Nat.add_sub_cancel] at hlow ⊢
  unfold Digits.onGrid
  dsimp only
  rw [value_dropZeros]
  unfold Digits.value
  dsimp only
  rw [digitsValue_digitsOf]
  by_cases hlt : n < 10 ^ (count + 1)
  · rw [length_digitsOf hlow hlt, if_neg (Nat.lt_irrefl _)]
    congr 2
    omega
  · -- one digit more than the grid has, so the next power of ten
    have hn : (digitsOf n).length = count + 1 + 1 := by
      refine length_digitsOf (Nat.le_of_not_lt hlt) (lt_of_le_of_lt hhigh ?_)
      exact Nat.pow_lt_pow_right (by decide) (Nat.lt_succ_self _)
    rw [hn, if_pos (Nat.lt_succ_self _)]
    congr 2
    omega

end ChangeImpact.Decimal

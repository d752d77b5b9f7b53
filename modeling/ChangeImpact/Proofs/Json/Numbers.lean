import Mathlib.Data.List.TakeDrop
import ChangeImpact.Json.Reader
import ChangeImpact.Json.Writer

/-!
# Numbers are read back

A number is read as far as it goes: digits end where no digit follows, and a fraction or an exponent
is only one if its first character follows. So what stands behind a number matters, and behind a
value that is part of a document only its end, a comma or a closing bracket or brace can stand
(`EndsValue`).

> `readNumber_int`: a whole number is read back exactly, within the limit of its digits.
-/

namespace ChangeImpact.Json

/-! ## Digits -/

/-- The text does not go on with a digit. -/
def NoDigit (rest : List Char) : Prop := ∀ c ∈ rest.head?, c.isDigit = false

theorem noDigit_cons {c : Char} {rest : List Char} (h : c.isDigit = false) : NoDigit (c :: rest) := by
  intro d hd
  rw [List.head?_cons, Option.mem_some] at hd
  rw [← hd]
  exact h

/-- Digits end where no digit follows. -/
theorem digitSpan_append {digits rest : List Char} (hdigits : ∀ c ∈ digits, c.isDigit = true)
    (hrest : NoDigit rest) : digitSpan (digits ++ rest) = (digits, rest) := by
  unfold digitSpan
  rw [List.span_eq_takeWhile_dropWhile, List.takeWhile_append_of_pos hdigits,
    List.dropWhile_append_of_pos hdigits]
  cases rest with
  | nil => simp
  | cons c rest =>
    have hc : c.isDigit = false := hrest c rfl
    rw [List.takeWhile_cons_of_neg (by simp [hc]), List.dropWhile_cons_of_neg (by simp [hc]),
      List.append_nil]

/-- Digits without a zero in front, unless the zero is all there is. -/
def IsWhole (digits : List Char) : Prop :=
  digits = ['0'] ∨ ∃ c cs, digits = c :: cs ∧ c ≠ '0' ∧ ∀ d ∈ digits, d.isDigit = true

/-- The whole part of a number is read up to where no digit follows. -/
theorem wholeOf_append {digits tail : List Char} (h : IsWhole digits) (htail : NoDigit tail) :
    wholeOf? (digits ++ tail) = some (digits, tail) := by
  rcases h with rfl | ⟨c, cs, hdigits, hzero, hall⟩
  · rfl
  · have hspan := digitSpan_append hall htail
    have hc : c.isDigit = true := hall c (by simp [hdigits])
    rw [hdigits] at hspan ⊢
    rw [List.cons_append] at hspan ⊢
    unfold wholeOf?
    split
    next heq => exact absurd (List.cons_eq_cons.mp heq).1 hzero
    next heq =>
      obtain ⟨rfl, rfl⟩ := List.cons_eq_cons.mp heq
      rw [if_pos hc, hspan]
    next heq => cases heq

/-- A minus sign in front of a number, if it has one. -/
def sign (negative : Bool) : List Char := if negative then ['-'] else []

/-- No digit is a sign. -/
theorem signOf_append {digits : List Char} (h : IsWhole digits) (negative : Bool)
    (tail : List Char) : signOf (sign negative ++ (digits ++ tail)) = (negative, digits ++ tail) := by
  cases negative with
  | true => rfl
  | false =>
    show signOf (digits ++ tail) = _
    unfold signOf
    split
    next heq =>
      rcases h with rfl | ⟨c, cs, rfl, -, hall⟩
      · cases heq
      · obtain ⟨rfl, -⟩ := List.cons_eq_cons.mp heq
        exact absurd (hall '-' (List.mem_cons_self ..)) (by decide)
    next => rfl

/-- A number is read by its sign, its whole part and what follows. -/
theorem readNumber_append {digits tail : List Char} (h : IsWhole digits) (htail : NoDigit tail)
    (negative : Bool) : readNumber? (sign negative ++ (digits ++ tail)) =
      some (numberOf negative digits tail) := by
  unfold readNumber?
  rw [signOf_append h, wholeOf_append h htail]
  rfl

/-! ## Where a value ends -/

/-- What may stand behind a value. -/
def EndsValue : List Char → Prop
  | [] => True
  | c :: _ => c = ',' ∨ c = ']' ∨ c = '\x7d'

/-- No digit follows a value. -/
theorem EndsValue.noDigit {rest : List Char} (h : EndsValue rest) : NoDigit rest := by
  cases rest with
  | nil => intro c hc; cases hc
  | cons c rest =>
    refine noDigit_cons ?_
    rcases h with rfl | rfl | rfl <;> decide

/-- Nor does a fraction. -/
theorem EndsValue.fractionOf {rest : List Char} (h : EndsValue rest) :
    fractionOf rest = ([], rest) := by
  unfold Json.fractionOf
  split
  next => rcases h with h | h | h <;> cases h
  next => rfl

/-- Nor does an exponent. -/
theorem EndsValue.exponentOf {rest : List Char} (h : EndsValue rest) :
    exponentOf rest = (none, rest) := by
  cases rest with
  | nil => rfl
  | cons c rest => rcases h with rfl | rfl | rfl <;> rfl

/-! ## Whole numbers -/

/-- The digits of a number are read as that number. -/
theorem natOf_toDigits (n : Nat) : natOf (Nat.toDigits 10 n) = n := by
  unfold natOf Binary64.digitsValue
  rw [List.foldl_map]
  exact Nat.ofDigitChars_ten_toDigits

/-- The decimal digits of a positive number do not begin with a zero. -/
theorem head_toDigits {n : Nat} (h : 0 < n) :
    ∃ c cs, Nat.toDigits 10 n = c :: cs ∧ c ≠ '0' := by
  induction n using Nat.strongRecOn with
  | ind n ih =>
    rcases Nat.lt_or_ge n 10 with hlt | hge
    · refine ⟨n.digitChar, [], Nat.toDigits_of_lt_base hlt, ?_⟩
      intro hzero
      have := Nat.toNat_digitChar_of_lt_ten hlt
      rw [hzero] at this
      have h48 : '0'.toNat = 48 := rfl
      omega
    · obtain ⟨c, cs, heq, hc⟩ := ih (n / 10) (by omega) (by omega)
      refine ⟨c, cs ++ [(n % 10).digitChar], ?_, hc⟩
      rw [Nat.toDigits_of_base_le (by decide) hge, heq, List.cons_append]

/-- They make a whole number: no zero stands in front of others. -/
theorem isWhole_toDigits (n : Nat) : IsWhole (Nat.toDigits 10 n) := by
  rcases Nat.eq_zero_or_pos n with rfl | hpos
  · exact Or.inl rfl
  · obtain ⟨c, cs, heq, hc⟩ := head_toDigits hpos
    exact Or.inr ⟨c, cs, heq, hc, fun d hd => Nat.isDigit_of_mem_toDigits (by decide) (by decide) hd⟩

/-- A whole number is written by its sign and its digits. -/
theorem toList_toString_int (n : Int) :
    (toString n).toList = sign (n < 0) ++ Nat.toDigits 10 n.natAbs := by
  cases n with
  | ofNat n => exact Nat.toList_repr
  | negSucc n =>
    show ("-" ++ (n + 1).repr).toList = _
    rw [String.toList_append, Nat.toList_repr, decide_eq_true (Int.negSucc_lt_zero n)]
    rfl

/-- A whole number of not too many digits is read back. -/
theorem readNumber_int {n : Int} (h : (Nat.toDigits 10 n.natAbs).length ≤ maxDigits)
    {rest : List Char} (hrest : EndsValue rest) :
    readNumber? ((toString n).toList ++ rest) = some (.ok (.int n, rest)) := by
  rw [toList_toString_int, List.append_assoc,
    readNumber_append (isWhole_toDigits _) hrest.noDigit]
  unfold numberOf
  rw [hrest.fractionOf]
  dsimp only
  rw [hrest.exponentOf]
  dsimp only
  unfold wholeNumber
  rw [if_neg (Nat.not_lt.mpr h), natOf_toDigits]
  have hn : (if decide (n < 0) = true then -(n.natAbs : Int) else n.natAbs) = n := by
    split
    next hneg => have := of_decide_eq_true hneg; omega
    next hpos => have := of_decide_eq_false (Bool.eq_false_iff.mpr hpos); omega
  rw [hn]
  rfl

end ChangeImpact.Json

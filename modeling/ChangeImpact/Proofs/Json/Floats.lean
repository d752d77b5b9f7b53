import ChangeImpact.Proofs.Decimal.Shortest
import ChangeImpact.Proofs.Json.Numbers

/-!
# Numbers with a fraction or an exponent are read back

A finite number is written with a fraction, or an exponent, or both, and behind a whole part that
does not begin with a zero unless the zero is all of it (`NumberText`). Such a text is read as the
number that is nearest to what its digits stand for (`readNumber_chars`), and the digits that are
written stand for a value that is rounded to the number they were written for:

> `readNumber_text`: the text of a finite number is read as that number.
-/

namespace ChangeImpact.Json

open Decimal

/-! ## Digits as text -/

theorem isDigit_of_lt_ten : ∀ d, d < 10 → (Char.ofNat ('0'.toNat + d)).isDigit = true := by decide

theorem digit_ne_zero : ∀ d, d < 10 → d ≠ 0 → Char.ofNat ('0'.toNat + d) ≠ '0' := by decide

theorem toNat_digit : ∀ d, d < 10 → (Char.ofNat ('0'.toNat + d)).toNat - '0'.toNat = d := by decide

/-- Digits are written as characters that are digits. -/
theorem all_isDigit_digitText {digits : List Nat} (h : ∀ d ∈ digits, d < 10) :
    ∀ c ∈ digitText digits, c.isDigit = true := by
  intro c hc
  obtain ⟨d, hd, rfl⟩ := List.mem_map.mp hc
  exact isDigit_of_lt_ten d (h d hd)

/-- They are written one after the other. -/
theorem digitText_append (ds es : List Nat) : digitText (ds ++ es) = digitText ds ++ digitText es :=
  List.map_append

theorem digitText_replicate_zero (n : Nat) : digitText (List.replicate n 0) = List.replicate n '0' :=
  List.map_replicate

theorem length_digitText (digits : List Nat) : (digitText digits).length = digits.length :=
  List.length_map _

theorem digitText_ne_nil {digits : List Nat} (h : digits ≠ []) : digitText digits ≠ [] := by
  unfold digitText
  rwa [Ne, List.map_eq_nil_iff]

/-- Digits are read as what they stand for. -/
theorem natOf_digitText {digits : List Nat} (h : ∀ d ∈ digits, d < 10) :
    natOf (digitText digits) = Binary64.digitsValue digits := by
  unfold natOf digitText
  rw [List.map_map]
  have hself : ∀ d ∈ digits,
      ((fun c => c.toNat - '0'.toNat) ∘ fun d => Char.ofNat ('0'.toNat + d)) d = d :=
    fun d hd => toNat_digit d (h d hd)
  rw [List.map_congr_left hself, List.map_id']

/-- Padding does not change what digits are read as. -/
theorem natOf_paddedNat (width n : Nat) : natOf (paddedNat width n) = n := by
  unfold natOf Binary64.digitsValue paddedNat
  dsimp only
  rw [List.foldl_map]
  show Nat.ofDigitChars 10 _ 0 = n
  rw [Nat.ofDigitChars_append, Nat.ofDigitChars_replicate_zero, Nat.mul_zero,
    Nat.ofDigitChars_ten_toDigits]

/-- So are those of a padded number. -/
theorem all_isDigit_paddedNat (width n : Nat) : ∀ c ∈ paddedNat width n, c.isDigit = true := by
  unfold paddedNat
  refine List.forall_mem_append.mpr ⟨fun c hc => ?_, fun c hc => ?_⟩
  · rw [(List.mem_replicate.mp hc).2]
    decide
  · exact Nat.isDigit_of_mem_toDigits (by decide) (by decide) hc

theorem paddedNat_ne_nil (width n : Nat) : paddedNat width n ≠ [] := by
  unfold paddedNat
  exact List.append_ne_nil_of_right_ne_nil _ Nat.toDigits_ne_nil

/-! ## Texts of numbers -/

/-- A number as it is written: the digits before the point, those behind it, and the power of ten,
if there is one. -/
structure NumberText where
  whole : List Nat
  places : List Nat
  exponent : Option Int

namespace NumberText

variable {t : NumberText}

/-- The point and the digits behind it, if there are any. -/
def fraction (t : NumberText) : List Char :=
  if t.places = [] then [] else '.' :: digitText t.places

/-- The power of ten, if there is one. -/
def power (t : NumberText) : List Char :=
  t.exponent.elim [] fun e => 'e' :: (if e < 0 then '-' else '+') :: paddedNat 2 e.natAbs

/-- The characters of the number. -/
def chars (t : NumberText) : List Char := digitText t.whole ++ (t.fraction ++ t.power)

/-- All digits of the number. -/
def digits (t : NumberText) : List Nat := t.whole ++ t.places

/-- The power of ten that the number formed by all digits is to be multiplied with. -/
def shift (t : NumberText) : Int := t.exponent.getD 0 - t.places.length

/-- The digits are decimal ones without a zero in front, and the number is not a whole one. -/
structure Proper (t : NumberText) : Prop where
  whole : t.whole = [0] ∨ IsLeading t.whole
  digits : ∀ d ∈ t.digits, d < 10
  notWhole : t.places ≠ [] ∨ t.exponent ≠ none

/-- The digits before the point of a proper text make a whole number. -/
theorem Proper.isWhole (h : t.Proper) : IsWhole (digitText t.whole) := by
  rcases h.whole with hzero | ⟨⟨d, ds, hdigits, hd⟩, hall⟩
  · rw [hzero]
    exact Or.inl rfl
  · refine Or.inr ⟨Char.ofNat ('0'.toNat + d), digitText ds, ?_, ?_, all_isDigit_digitText hall⟩
    · rw [hdigits]
      rfl
    · exact digit_ne_zero d (hall d (hdigits ▸ List.mem_cons_self ..)) hd

/-- Without a power of ten there are the digits around the point. -/
theorem chars_of_places (hplaces : t.places ≠ []) (hexponent : t.exponent = none) :
    t.chars = digitText t.whole ++ '.' :: digitText t.places := by
  unfold chars fraction power
  rw [if_neg hplaces, hexponent, Option.elim_none, List.append_nil]

/-- The power of ten is read up to the end of the value. -/
theorem exponentOf_power (t : NumberText) {rest : List Char} (hrest : EndsValue rest) :
    exponentOf (t.power ++ rest) = (t.exponent, rest) := by
  unfold power
  cases hexponent : t.exponent with
  | none => exact hrest.exponentOf
  | some e =>
    have hletter : ('e' == 'e' || 'e' == 'E') = true := rfl
    have hspan := digitSpan_append (all_isDigit_paddedNat 2 e.natAbs) hrest.noDigit
    have hvalue := natOf_paddedNat 2 e.natAbs
    have hne := paddedNat_ne_nil 2 e.natAbs
    rw [Option.elim_some, List.cons_append, List.cons_append]
    generalize paddedNat 2 e.natAbs = digits at hspan hvalue hne ⊢
    cases digits with
    | nil => exact absurd rfl hne
    | cons d digits =>
      unfold natOf at hvalue
      -- the sign is written whether it is one or the other
      by_cases hneg : e < 0
      · rw [if_pos hneg, exponentOf, if_pos hletter]
        dsimp only
        rw [hspan]
        dsimp only
        rw [hvalue, if_pos rfl]
        congr 2
        omega
      · rw [if_neg hneg, exponentOf, if_pos hletter]
        dsimp only
        rw [hspan]
        dsimp only
        rw [hvalue, if_neg Bool.false_ne_true]
        congr 2
        omega

/-- The power of ten does not prolong the digits in front of it. -/
theorem noDigit_power (t : NumberText) {rest : List Char} (hrest : EndsValue rest) :
    NoDigit (t.power ++ rest) := by
  unfold power
  cases t.exponent with
  | none => exact hrest.noDigit
  | some e => exact noDigit_cons (by decide)

/-- The digits behind the point are read up to the power of ten. -/
theorem fractionOf_fraction (h : t.Proper) {rest : List Char} (hrest : EndsValue rest) :
    fractionOf (t.fraction ++ (t.power ++ rest)) = (digitText t.places, t.power ++ rest) := by
  unfold fraction
  by_cases hplaces : t.places = []
  · rw [if_pos hplaces, hplaces, List.nil_append]
    show fractionOf (t.power ++ rest) = ([], t.power ++ rest)
    unfold power
    cases t.exponent with
    | none => exact hrest.fractionOf
    | some e => rfl
  · have hall := all_isDigit_digitText fun d hd => h.digits d (List.mem_append_right _ hd)
    have hspan := digitSpan_append hall (t.noDigit_power hrest)
    have hne := digitText_ne_nil hplaces
    rw [if_neg hplaces, List.cons_append]
    generalize digitText t.places = places at hspan hne ⊢
    cases places with
    | nil => exact absurd rfl hne
    | cons d places => rw [fractionOf, hspan]

/-- **Reading a number.** The text is read up to the end of the value, as the number nearest to what
its digits stand for. -/
theorem readNumber_chars (h : t.Proper) (negative : Bool) {rest : List Char} (hrest : EndsValue rest) :
    readNumber? (sign negative ++ (t.chars ++ rest)) = some (.ok (.float
      (Binary64.ofDecimal negative (Binary64.digitsValue t.digits) t.shift), rest)) := by
  have htail : NoDigit (t.fraction ++ (t.power ++ rest)) := by
    unfold fraction
    split
    next => exact t.noDigit_power hrest
    next => exact noDigit_cons (by decide)
  have hnotWhole : ((digitText t.places).isEmpty && t.exponent.isNone) = false := by
    rcases h.notWhole with hplaces | hexponent
    · rw [List.isEmpty_eq_false_iff.mpr (digitText_ne_nil hplaces), Bool.false_and]
    · rw [Option.isNone_eq_false_iff.mpr (Option.isSome_iff_ne_none.mpr hexponent), Bool.and_false]
  unfold chars
  rw [List.append_assoc, List.append_assoc, readNumber_append h.isWhole htail]
  unfold numberOf
  rw [fractionOf_fraction h hrest]
  dsimp only
  rw [t.exponentOf_power hrest]
  dsimp only
  rw [hnotWhole, if_neg Bool.false_ne_true, ← digitText_append, length_digitText,
    show t.whole ++ t.places = t.digits from rfl, natOf_digitText h.digits]
  rfl

end NumberText

/-! ## Digits as numbers -/

/-- Digits with a point: before it, zeros follow up to its place, or a zero stands alone. -/
def positionalText (d : Digits) : NumberText :=
  if d.exponent < 0 then ⟨[0], List.replicate ((-d.exponent).toNat - 1) 0 ++ d.digits, none⟩
  else
    let before := d.exponent.toNat + 1
    let whole := d.digits.take before
    let part := d.digits.drop before
    ⟨whole ++ List.replicate (before - whole.length) 0, if part = [] then [0] else part, none⟩

/-- Digits with a power of ten, the first one before the point. -/
def scientificText (d : Digits) : NumberText := ⟨d.digits.take 1, d.digits.drop 1, some d.exponent⟩

variable {d : Digits}

/-- Without an exponent a number is written as the text of its digits and its point. -/
theorem positional_eq (h : d.digits ≠ []) : positional d = (positionalText d).chars := by
  unfold positional positionalText
  by_cases hneg : d.exponent < 0
  · rw [if_pos hneg, if_pos hneg]
    rw [NumberText.chars_of_places (List.append_ne_nil_of_right_ne_nil _ h) rfl, digitText_append,
      digitText_replicate_zero]
    rfl
  · rw [if_neg hneg, if_neg hneg]
    dsimp only
    generalize d.digits.drop (d.exponent.toNat + 1) = part
    cases part with
    | nil =>
      rw [NumberText.chars_of_places (List.cons_ne_nil _ _) rfl, digitText_append,
        digitText_replicate_zero, length_digitText]
      rfl
    | cons e es =>
      rw [NumberText.chars_of_places (List.cons_ne_nil _ _) rfl, digitText_append,
        digitText_replicate_zero, length_digitText]
      rfl

/-- With one it is written with its first digit before the point. -/
theorem scientific_eq (h : d.digits ≠ []) : scientific d = (scientificText d).chars := by
  unfold scientific NumberText.chars NumberText.fraction NumberText.power scientificText
  generalize d.digits = digits at h ⊢
  cases digits with
  | nil => exact absurd rfl h
  | cons e es => cases es <;> rfl

/-- The text is a proper one of few digits, and what it is read as is the value of the digits. -/
structure NumberText.Denotes (t : NumberText) (d : Digits) : Prop where
  proper : t.Proper
  value : (Binary64.digitsValue t.digits : Rat) * tenTo t.shift = d.value
  few : t.digits.length ≤ d.digits.length + 17

/-- That text denotes the number it was made for. -/
theorem scientificText_denotes (h : IsLeading d.digits) : (scientificText d).Denotes d := by
  have hdigits : (scientificText d).digits = d.digits := List.take_append_drop 1 _
  have hlength : 0 < d.digits.length := List.length_pos_iff.mpr h.ne_nil
  refine ⟨⟨Or.inr (h.take 0), hdigits ▸ h.2, Or.inr (Option.some_ne_none _)⟩, ?_, ?_⟩
  · rw [hdigits]
    unfold Digits.value NumberText.shift scientificText
    dsimp only
    rw [Option.getD_some, List.length_drop]
    congr 2
    omega
  · rw [hdigits]
    omega

/-- Digits that stand behind the point have zeros in front of them. -/
theorem zerosBefore_denotes (h : IsLeading d.digits) {zeros : Nat} (hzeros : zeros ≤ 16)
    (hexponent : d.exponent = -(zeros + 1 : Nat)) :
    NumberText.Denotes ⟨[0], List.replicate zeros 0 ++ d.digits, none⟩ d := by
  have hvalue : Binary64.digitsValue ([0] ++ (List.replicate zeros 0 ++ d.digits)) =
      Binary64.digitsValue d.digits := by
    have hzero : Binary64.digitsValue [0] = 0 := rfl
    rw [digitsValue_append, digitsValue_append, digitsValue_replicate_zero, hzero, Nat.zero_mul,
      Nat.zero_mul, Nat.zero_add, Nat.zero_add]
  refine ⟨⟨Or.inl rfl, ?_, Or.inl (List.append_ne_nil_of_right_ne_nil _ h.ne_nil)⟩, ?_, ?_⟩
  · refine List.forall_mem_append.mpr ⟨List.forall_mem_singleton.mpr (by decide), ?_⟩
    exact List.forall_mem_append.mpr ⟨replicate_zero_lt _, h.2⟩
  · unfold NumberText.digits NumberText.shift Digits.value
    dsimp only
    rw [hvalue, Option.getD_none, List.length_append, List.length_replicate, hexponent]
    congr 2
    omega
  · unfold NumberText.digits
    rw [List.length_append, List.length_append, List.length_replicate, List.length_singleton]
    omega

/-- Digits that stand before the point have zeros behind them, and one behind the point. -/
theorem zerosBehind_denotes (h : IsLeading d.digits) {zeros : Nat} (hzeros : zeros ≤ 16)
    (hexponent : d.exponent + 1 = d.digits.length + zeros) :
    NumberText.Denotes ⟨d.digits ++ List.replicate zeros 0, [0], none⟩ d := by
  have hleading := h.append (replicate_zero_lt zeros)
  have hvalue : Binary64.digitsValue (d.digits ++ List.replicate zeros 0 ++ [0]) =
      Binary64.digitsValue d.digits * 10 ^ (zeros + 1) := by
    rw [digitsValue_concat, digitsValue_append, digitsValue_replicate_zero, List.length_replicate,
      Nat.add_zero, Nat.add_zero, Nat.mul_comm, Nat.mul_assoc, ← Nat.pow_succ]
  refine ⟨⟨Or.inr hleading, ?_, Or.inl (List.cons_ne_nil _ _)⟩, ?_, ?_⟩
  · exact List.forall_mem_append.mpr ⟨hleading.2, List.forall_mem_singleton.mpr (by decide)⟩
  · have hshift : d.exponent + 1 - (d.digits.length : Int) = -1 + ((zeros + 1 : Nat) : Int) := by
      omega
    unfold NumberText.digits NumberText.shift Digits.value
    show (Binary64.digitsValue (d.digits ++ List.replicate zeros 0 ++ [0]) : Rat) * tenTo (-1) = _
    rw [hvalue, hshift, tenTo_add, ← mul_assoc]
    push_cast
    rfl
  · unfold NumberText.digits
    rw [List.length_append, List.length_append, List.length_replicate, List.length_singleton]
    omega

/-- Digits may stand on both sides of the point. -/
theorem pointBetween_denotes {ds es : List Nat} (h : IsLeading d.digits) (hdigits : ds ++ es = d.digits)
    (hexponent : d.exponent + 1 = ds.length) (hds : IsLeading ds) (hes : es ≠ []) :
    NumberText.Denotes ⟨ds, es, none⟩ d := by
  refine ⟨⟨Or.inr hds, ?_, Or.inl hes⟩, ?_, ?_⟩
  · show ∀ e ∈ ds ++ es, e < 10
    rw [hdigits]
    exact h.2
  · unfold NumberText.digits NumberText.shift Digits.value
    dsimp only
    rw [← hdigits, Option.getD_none, List.length_append]
    congr 2
    omega
  · show (ds ++ es).length ≤ _
    rw [hdigits]
    omega

/-- So does the other one, for exponents that are neither too low nor too high. -/
theorem positionalText_denotes (h : IsLeading d.digits) (hlow : -4 ≤ d.exponent)
    (hhigh : d.exponent < 16) : (positionalText d).Denotes d := by
  unfold positionalText
  split
  next => exact zerosBefore_denotes h (by omega) (by omega)
  next =>
    have hds := h.take d.exponent.toNat
    have hsplit := List.take_append_drop (d.exponent.toNat + 1) d.digits
    have hlength := congrArg List.length hsplit
    have htake : (d.digits.take (d.exponent.toNat + 1)).length ≤ d.exponent.toNat + 1 :=
      List.length_take_le _ _
    rw [List.length_append] at hlength
    dsimp only
    -- the digits before the point and those behind it
    generalize d.digits.take (d.exponent.toNat + 1) = ds at hds hsplit hlength htake ⊢
    generalize hpart : d.digits.drop (d.exponent.toNat + 1) = es at hsplit hlength ⊢
    cases es with
    | nil =>
      rw [List.append_nil] at hsplit
      rw [hsplit, if_pos rfl]
      rw [hsplit] at htake
      exact zerosBehind_denotes h (by omega) (by omega)
    | cons e es =>
      have hdrop : ¬ d.digits.length ≤ d.exponent.toNat + 1 := by
        intro hle
        rw [List.drop_eq_nil_iff.mpr hle] at hpart
        cases hpart
      have hds' : ds.length = d.exponent.toNat + 1 := by
        have := congrArg List.length hpart
        rw [List.length_drop] at this
        omega
      rw [hds', Nat.sub_self, List.replicate_zero, List.append_nil, if_neg (List.cons_ne_nil _ _)]
      exact pointBetween_denotes h hsplit (by omega) hds (List.cons_ne_nil _ _)

/-! ## Finite numbers -/

variable {x : Binary64}

/-- A text that denotes the shortest digits of a number is read as that number. -/
theorem NumberText.Denotes.ofDecimal_eq {t : NumberText} (h : t.Denotes (shortest x))
    (hfinite : x.isFinite = true) (hzero : x.isZero = false) :
    Binary64.ofDecimal x.isNegative (Binary64.digitsValue t.digits) t.shift = x := by
  have hrounds := shortest_roundsTo hfinite hzero
  rw [← h.value] at hrounds
  refine Decimal.ofDecimal_eq hfinite hzero ?_ ?_ hrounds
  · by_contra hnot
    obtain ⟨hlow, -⟩ := hrounds.within hfinite hzero
    rw [Nat.eq_zero_of_not_pos hnot, Nat.cast_zero, zero_mul] at hlow
    exact absurd hlow (not_le.mpr (by positivity))
  · have hfew := h.few
    have hlength := length_shortest_le hfinite hzero
    have hlt : Binary64.digitsValue t.digits < 2 ^ 120 :=
      calc Binary64.digitsValue t.digits < 10 ^ t.digits.length := digitsValue_lt h.proper.digits
        _ ≤ 10 ^ 35 := Nat.pow_le_pow_right (by decide) (by omega)
        _ ≤ 2 ^ 120 := by decide
    by_cases hne : Binary64.digitsValue t.digits = 0
    · rw [hne]
      decide
    · have := (Nat.log2_lt hne).mpr hlt
      omega

/-- A zero has no bits but its sign. -/
theorem ofDecimal_zero (hzero : x.isZero = true) (exponent : Int) :
    Binary64.ofDecimal x.isNegative 0 exponent = x := by
  have hself := ofFields_significand x
  unfold Binary64.isZero at hzero
  rw [Bool.and_eq_true, beq_iff_eq, beq_iff_eq] at hzero
  unfold Binary64.scale Binary64.significand at hself
  rw [hzero.1, hzero.2] at hself
  exact hself

/-- A finite number is written as a sign and a text that is read as the number. -/
theorem exists_numberText (hfinite : x.isFinite = true) : ∃ t : NumberText, t.Proper ∧
    x.text.toList = sign x.isNegative ++ t.chars ∧
      Binary64.ofDecimal x.isNegative (Binary64.digitsValue t.digits) t.shift = x := by
  have hfield : (x.exponentField == 2047) = false := by
    unfold Binary64.isFinite at hfinite
    simpa using hfinite
  have hnan : x.isNaN = false := by
    unfold Binary64.isNaN
    rw [hfield, Bool.false_and]
  have hinfinite : x.isInfinite = false := by
    unfold Binary64.isInfinite
    rw [hfield, Bool.false_and]
  have hsign : ∀ cs, (if x.isNegative = true then '-' :: cs else cs) = sign x.isNegative ++ cs := by
    intro cs
    cases x.isNegative <;> rfl
  unfold Binary64.text
  rw [hnan, hinfinite, if_neg Bool.false_ne_true, if_neg Bool.false_ne_true]
  dsimp only
  rw [String.toList_ofList, hsign]
  -- zero has no leading digit and is written as it is
  by_cases hzero : x.isZero = true
  · rw [if_pos hzero]
    exact ⟨⟨[0], [0], none⟩, ⟨Or.inl rfl, by decide, Or.inl (List.cons_ne_nil _ _)⟩, rfl,
      ofDecimal_zero hzero _⟩
  · have hzero' := Bool.eq_false_iff.mpr hzero
    have hleading := shortest_isLeading hfinite hzero'
    rw [if_neg hzero]
    -- exponents of some size are written with the point in its place, and others in scientific form
    split
    next hplace =>
      rw [Bool.and_eq_true, decide_eq_true_iff, decide_eq_true_iff] at hplace
      have hdenotes := positionalText_denotes hleading hplace.1 hplace.2
      rw [positional_eq hleading.ne_nil]
      exact ⟨_, hdenotes.proper, rfl, hdenotes.ofDecimal_eq hfinite hzero'⟩
    next =>
      have hdenotes := scientificText_denotes hleading
      rw [scientific_eq hleading.ne_nil]
      exact ⟨_, hdenotes.proper, rfl, hdenotes.ofDecimal_eq hfinite hzero'⟩

/-- **The text of a finite number is read as that number.** -/
theorem readNumber_text (hfinite : x.isFinite = true) {rest : List Char} (hrest : EndsValue rest) :
    readNumber? (x.text.toList ++ rest) = some (.ok (.float x, rest)) := by
  obtain ⟨t, hproper, htext, hvalue⟩ := exists_numberText hfinite
  rw [htext, List.append_assoc, t.readNumber_chars hproper _ hrest, hvalue]

end ChangeImpact.Json

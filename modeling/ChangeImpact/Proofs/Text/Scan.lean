import ChangeImpact.Text.Blank
import ChangeImpact.Text.Folded
import ChangeImpact.Text.Scan
import ChangeImpact.Text.Search

/-!
# Scanning a text for words

What a scan finds in a text is put together from what it finds in the parts of the text. A part that is
found is passed over as a whole (`exists_findAllFrom_found`). A matcher that only matches where a word
starts (`MatchesWords`) can be followed word by word: words that it does not match are passed over
together with the spaces between them (`MatchesWords.exists_findAllFrom_words`).

Words are looked for in any letter case. Among letters and digits, a word that is looked for and that
ends where the text has no further word character is the whole word there (`spells_of_afterWord`).
-/

namespace ChangeImpact.Text

variable {α β γ : Type} {m : Matcher α} {before : Option Char} {cs tail : List Char}

/-! ## What a scan finds -/

/-- What is found in a text is what the matcher finds at some place. -/
theorem exists_of_mem_findAllFrom {a : α} {skip : Nat} (h : a ∈ findAllFrom m before skip cs) :
    ∃ before rest length, m before rest = some (a, length) := by
  induction cs generalizing before skip with
  | nil => cases h
  | cons c cs ih =>
    cases skip with
    | succ skip => exact ih h
    | zero =>
      unfold findAllFrom at h
      split at h
      next found length hfound =>
        rcases List.mem_cons.mp h with rfl | h
        · exact ⟨before, c :: cs, length, hfound⟩
        · exact ih h
      next => exact ih h

/-- Matchers that find the same at every place, as far as `f` and `g` tell, find the same in a text. -/
theorem map_findAllFrom {m' : Matcher β} {f : α → γ} {g : β → γ}
    (h : ∀ before cs, (m before cs).map (Prod.map f id) = (m' before cs).map (Prod.map g id))
    (skip : Nat) : (findAllFrom m before skip cs).map f = (findAllFrom m' before skip cs).map g := by
  induction cs generalizing before skip with
  | nil => cases skip <;> rfl
  | cons c cs ih =>
    cases skip with
    | succ skip => exact ih skip
    | zero =>
      have hplace := h before (c :: cs)
      unfold findAllFrom
      cases hm : m before (c :: cs) with
      | none =>
        rw [hm, Option.map_none, eq_comm, Option.map_eq_none_iff] at hplace
        rw [hplace]
        exact ih 0
      | some found =>
        rw [hm, Option.map_some, eq_comm, Option.map_eq_some_iff] at hplace
        obtain ⟨found', hm', heq⟩ := hplace
        obtain ⟨hvalue, hlength⟩ := Prod.mk.inj heq
        rw [hm']
        dsimp only [id] at hvalue hlength ⊢
        rw [List.map_cons, List.map_cons, hvalue, hlength, ih]

theorem findAllFrom_of_none {c : Char} (h : m before (c :: cs) = none) :
    findAllFrom m before 0 (c :: cs) = findAllFrom m (some c) 0 cs := by
  rw [findAllFrom, h]

theorem exists_findAllFrom_skip (m : Matcher α) (before : Option Char) (piece tail : List Char) :
    ∃ before', findAllFrom m before piece.length (piece ++ tail) = findAllFrom m before' 0 tail := by
  induction piece generalizing before with
  | nil => exact ⟨before, rfl⟩
  | cons c piece ih => exact ih (some c)

/-- The search goes on behind a piece that is found. -/
theorem exists_findAllFrom_found {a : α} {piece : List Char} (hne : piece ≠ [])
    (h : m before (piece ++ tail) = some (a, piece.length)) :
    ∃ before', findAllFrom m before 0 (piece ++ tail) = a :: findAllFrom m before' 0 tail := by
  obtain ⟨c, rest, rfl⟩ := List.exists_cons_of_ne_nil hne
  obtain ⟨before', hskip⟩ := exists_findAllFrom_skip m (some c) rest tail
  refine ⟨before', ?_⟩
  rw [List.cons_append] at h ⊢
  rw [findAllFrom, h]
  dsimp only
  rw [List.length_cons, Nat.add_sub_cancel, hskip]

/-! ## Words and what is between them -/

/-- No word goes on into the text. -/
def EndsWord (tail : List Char) : Prop := ∀ c ∈ tail.head?, isWord c = false

theorem endsWord_nil : EndsWord [] := fun _ h => nomatch h

theorem endsWord_cons {c : Char} (h : isWord c = false) : EndsWord (c :: cs) := by
  intro d hd
  obtain rfl := Option.some.inj hd
  exact h

/-- The matcher matches at most where a word starts. -/
structure MatchesWords (m : Matcher α) : Prop where
  inside : ∀ (c : Char) (cs : List Char), isWord c = true → m (some c) cs = none
  between : ∀ (before : Option Char) (c : Char) (cs : List Char), isWord c = false →
    m before (c :: cs) = none

namespace MatchesWords

/-- A character between words is passed over. -/
theorem findAllFrom_between (hm : MatchesWords m) {c : Char} (hc : isWord c = false) :
    findAllFrom m before 0 (c :: cs) = findAllFrom m (some c) 0 cs :=
  findAllFrom_of_none (hm.between before c cs hc)

/-- A word that is not matched where it starts is passed over. -/
theorem exists_findAllFrom_word (hm : MatchesWords m) {word : List Char}
    (hword : ∀ c ∈ word, isWord c = true) (hnone : m before (word ++ tail) = none) :
    ∃ before', findAllFrom m before 0 (word ++ tail) = findAllFrom m before' 0 tail := by
  induction word generalizing before with
  | nil => exact ⟨before, rfl⟩
  | cons c word ih =>
    rw [List.cons_append] at hnone ⊢
    rw [findAllFrom_of_none hnone]
    exact ih (fun d hd => hword d (List.mem_cons_of_mem c hd))
      (hm.inside c _ (hword c (List.mem_cons_self ..)))

/-- Words that are not matched, one space apart, are passed over. -/
theorem exists_findAllFrom_words (hm : MatchesWords m) {words : List (List Char)}
    (hwords : ∀ word ∈ words, ∀ c ∈ word, isWord c = true)
    (hnone : ∀ word ∈ words, ∀ before tail, EndsWord tail → m before (word ++ tail) = none)
    (htail : EndsWord tail) (before : Option Char) : ∃ before',
    findAllFrom m before 0 (joinWith [' '] words ++ tail) = findAllFrom m before' 0 tail := by
  induction words generalizing before with
  | nil => exact ⟨before, rfl⟩
  | cons word rest ih =>
    have hfirst := List.mem_cons_self (a := word) (l := rest)
    cases rest with
    | nil => exact hm.exists_findAllFrom_word (hwords word hfirst) (hnone word hfirst before tail htail)
    | cons next rest =>
      have hspace : isWord ' ' = false := by decide
      obtain ⟨middle, hmiddle⟩ := hm.exists_findAllFrom_word (hwords word hfirst)
        (hnone word hfirst before (' ' :: (joinWith [' '] (next :: rest) ++ tail)) (endsWord_cons hspace))
      obtain ⟨last, hlast⟩ := ih
        (fun other hother => hwords other (List.mem_cons_of_mem word hother))
        (fun other hother => hnone other (List.mem_cons_of_mem word hother)) (some ' ')
      refine ⟨last, ?_⟩
      have htext : joinWith [' '] (word :: next :: rest) ++ tail =
          word ++ ' ' :: (joinWith [' '] (next :: rest) ++ tail) := by
        simp [joinWith]
      rw [htext, hmiddle, hm.findAllFrom_between hspace, hlast]

end MatchesWords

/-! ## Letters and digits -/

section Alphanumeric

variable {c : Char}

theorem toNat_of_isAlphanum (h : c.isAlphanum = true) :
    48 ≤ c.toNat ∧ c.toNat ≤ 57 ∨ 65 ≤ c.toNat ∧ c.toNat ≤ 90 ∨ 97 ≤ c.toNat ∧ c.toNat ≤ 122 := by
  have hcases : (decide ('A' ≤ c ∧ c ≤ 'Z') || ('a' ≤ c && c ≤ 'z') || ('0' ≤ c && c ≤ '9')) = true := h
  have hcode : c.val.toNat = c.toNat := rfl
  simp only [Bool.or_eq_true, Bool.and_eq_true, decide_eq_true_eq, Char.le_def, UInt32.le_iff_toNat_le,
    Char.reduceVal, UInt32.reduceToNat, hcode] at hcases
  omega

theorem isWord_of_isAlphanum (h : c.isAlphanum = true) : isWord c = true := by
  have hcode := toNat_of_isAlphanum h
  rw [isWord, if_pos (by omega), h, Bool.true_or]

theorem isBlank_of_isAlphanum (h : c.isAlphanum = true) : isBlank c = false := by
  have hcode := toNat_of_isAlphanum h
  simp only [isBlank, Bool.or_eq_false_iff, Bool.and_eq_false_iff, decide_eq_false_iff_not,
    beq_eq_false_iff_ne]
  omega

theorem isAlphanum_of_isAsciiLower (h : isAsciiLower c = true) : c.isAlphanum = true := by
  have hlower : c.isLower = true := h
  show (c.isUpper || c.isLower || c.isDigit) = true
  rw [hlower, Bool.or_true, Bool.true_or]

theorem toLower_eq_self (h : isAsciiUpper c = false) : c.toLower = c := by
  unfold Char.toLower
  refine dif_neg fun hupper => ?_
  have hcapital : isAsciiUpper c = true := by
    rw [isAsciiUpper, Bool.and_eq_true, decide_eq_true_eq, decide_eq_true_eq]
    exact hupper
  rw [h] at hcapital
  cases hcapital

theorem not_isAsciiUpper_of_isAsciiLower (h : isAsciiLower c = true) : isAsciiUpper c = false := by
  rw [Bool.eq_false_iff]
  intro hupper
  simp only [isAsciiLower, isAsciiUpper, Bool.and_eq_true, decide_eq_true_eq, Char.le_def,
    Char.reduceVal] at h hupper
  exact absurd (UInt32.le_trans h.1 hupper.2) (by decide)

theorem toLower_of_isAsciiLower (h : isAsciiLower c = true) : c.toLower = c :=
  toLower_eq_self (not_isAsciiUpper_of_isAsciiLower h)

/-- A capital is a small letter in lower case. -/
theorem isAsciiLower_toLower (h : isAsciiUpper c = true) : isAsciiLower c.toLower = true := by
  unfold Char.toLower
  simp only [isAsciiUpper, isAsciiLower, Bool.and_eq_true, decide_eq_true_eq, Char.le_def,
    Char.reduceVal, ge_iff_le] at h ⊢
  rw [dif_pos h]
  have hshift : ((97 - 65 : UInt32)).toNat = 32 := rfl
  simp only [UInt32.le_iff_toNat_le, UInt32.toNat_add, UInt32.toNat_ofNat, hshift] at h ⊢
  omega

/-- Nothing is a capital in lower case. -/
theorem not_isAsciiUpper_toLower (c : Char) : isAsciiUpper c.toLower = false := by
  by_cases h : isAsciiUpper c = true
  · exact not_isAsciiUpper_of_isAsciiLower (isAsciiLower_toLower h)
  · rw [Bool.not_eq_true] at h
    rwa [toLower_eq_self h]

theorem isAlphanum_of_isAsciiUpper (h : isAsciiUpper c = true) : c.isAlphanum = true := by
  have hupper : c.isUpper = true := by
    rw [isAsciiUpper, Bool.and_eq_true, decide_eq_true_eq, decide_eq_true_eq] at h
    exact decide_eq_true h
  show (c.isUpper || c.isLower || c.isDigit) = true
  rw [hupper, Bool.true_or, Bool.true_or]

/-- What is a small letter in lower case is a letter. -/
theorem isAlphanum_of_toLower (h : isAsciiLower c.toLower = true) : c.isAlphanum = true := by
  by_cases hupper : isAsciiUpper c = true
  · exact isAlphanum_of_isAsciiUpper hupper
  · rw [Bool.not_eq_true] at hupper
    rw [toLower_eq_self hupper] at h
    exact isAlphanum_of_isAsciiLower h

/-- Only the foreign characters that fold to a letter match it and are not letters themselves. -/
theorem matchesLetter_iff {letter : Char} (hletter : isAsciiLower letter = true) :
    matchesLetter letter c = true ↔ c.toLower = letter ∨ letter = 'i' ∧ (c = 'İ' ∨ c = 'ı') ∨
      letter = 's' ∧ c = 'ſ' ∨ letter = 'k' ∧ c = '\u212a' := by
  have hself := toLower_of_isAsciiLower hletter
  simp only [matchesLetter, Bool.or_eq_true, Bool.and_eq_true, beq_iff_eq, decide_eq_true_eq]
  constructor
  · rintro ((((rfl | ⟨-, h⟩) | h) | h) | h)
    · exact Or.inl hself
    · exact Or.inl h
    · exact Or.inr (Or.inl h)
    · exact Or.inr (Or.inr (Or.inl h))
    · exact Or.inr (Or.inr (Or.inr h))
  · rintro (h | h | h | h)
    · have hcode := toNat_of_isAlphanum (isAlphanum_of_toLower (h ▸ hletter))
      exact Or.inl (Or.inl (Or.inl (Or.inr ⟨by omega, h⟩)))
    · exact Or.inl (Or.inl (Or.inr h))
    · exact Or.inl (Or.inr h)
    · exact Or.inr h

theorem isWord_of_matchesLetter {letter : Char} (hletter : isAsciiLower letter = true)
    (h : matchesLetter letter c = true) : isWord c = true := by
  rcases (matchesLetter_iff hletter).mp h with h | ⟨-, rfl | rfl⟩ | ⟨-, rfl⟩ | ⟨-, rfl⟩
  · exact isWord_of_isAlphanum (isAlphanum_of_toLower (h ▸ hletter))
  all_goals decide +kernel

theorem toLower_of_matchesLetter {letter : Char} (hletter : isAsciiLower letter = true)
    (hc : c.isAlphanum = true) (h : matchesLetter letter c = true) : c.toLower = letter := by
  rcases (matchesLetter_iff hletter).mp h with h | ⟨-, rfl | rfl⟩ | ⟨-, rfl⟩ | ⟨-, rfl⟩
  · exact h
  all_goals exact absurd hc (by decide +kernel)

end Alphanumeric

/-! ## Words in any letter case -/

/-- The letters are those of the word in some letter case. -/
def Spells (word letters : List Char) : Prop := letters.map Char.toLower = word

instance (word letters : List Char) : Decidable (Spells word letters) :=
  inferInstanceAs (Decidable (_ = _))

/-- A word that can be looked for: some small letters. -/
def IsLowerWord (word : List Char) : Prop := word ≠ [] ∧ ∀ c ∈ word, isAsciiLower c = true

-- the letters of the word are looked at, and not every character there is
instance (word : List Char) : Decidable (IsLowerWord word) :=
  decidable_of_iff (word ≠ [] ∧ word.all isAsciiLower = true) (and_congr_right' List.all_eq_true)

section Words

variable {word letters rest : List Char}

theorem Spells.isAlphanum (h : Spells word letters) (hword : ∀ c ∈ word, isAsciiLower c = true) :
    ∀ c ∈ letters, c.isAlphanum = true := by
  intro c hc
  refine isAlphanum_of_toLower (hword c.toLower ?_)
  rw [← h]
  exact List.mem_map_of_mem hc

theorem afterWord_of_spells (hword : ∀ c ∈ word, isAsciiLower c = true) (h : Spells word letters) :
    afterWord? word (letters ++ rest) = some rest := by
  subst h
  induction letters with
  | nil => rfl
  | cons c letters ih =>
    have hfirst := hword c.toLower (List.mem_cons_self ..)
    have hmatch : matchesLetter c.toLower c = true := (matchesLetter_iff hfirst).mpr (Or.inl rfl)
    rw [List.map_cons, List.cons_append, afterWord?, if_pos hmatch]
    exact ih fun d hd => hword d (List.mem_cons_of_mem _ hd)

/-- What is looked for starts with a word character. -/
theorem afterWord_eq_none (hword : IsLowerWord word) {c : Char} (hc : isWord c = false) :
    afterWord? word (c :: cs) = none := by
  obtain ⟨hne, hlower⟩ := hword
  obtain ⟨letter, word, rfl⟩ := List.exists_cons_of_ne_nil hne
  refine if_neg fun hmatch => ?_
  rw [isWord_of_matchesLetter (hlower letter (List.mem_cons_self ..)) hmatch] at hc
  cases hc

/-- A word that is found at the start of letters and digits, and behind which neither goes on, is spelled
by all of them. -/
theorem spells_of_afterWord (hword : ∀ c ∈ word, isAsciiLower c = true)
    (hletters : ∀ c ∈ letters, c.isAlphanum = true) (htail : EndsWord tail)
    (h : afterWord? word (letters ++ tail) = some rest)
    (hrest : ∀ c ∈ rest.head?, c.isAlphanum = false) : Spells word letters := by
  -- letter by letter: both run out at once, since no letter follows the word
  induction word generalizing letters with
  | nil =>
    obtain rfl := Option.some.inj h
    cases letters with
    | nil => rfl
    | cons c letters =>
      have hfirst := hletters c (List.mem_cons_self ..)
      rw [hrest c rfl] at hfirst
      cases hfirst
  | cons letter word ih =>
    have hlower := hword letter (List.mem_cons_self ..)
    cases letters with
    | nil =>
      cases tail with
      | nil => cases h
      | cons c tail =>
        rw [List.nil_append, afterWord_eq_none ⟨List.cons_ne_nil letter word, hword⟩ (htail c rfl)] at h
        cases h
    | cons c letters =>
      rw [List.cons_append, afterWord?] at h
      split at h
      next hmatch =>
        have hc := toLower_of_matchesLetter hlower (hletters c (List.mem_cons_self ..)) hmatch
        have hspells := ih (fun d hd => hword d (List.mem_cons_of_mem _ hd))
          (fun d hd => hletters d (List.mem_cons_of_mem _ hd)) h
        rw [Spells, List.map_cons, hc, hspells]
      next => cases h

end Words

end ChangeImpact.Text

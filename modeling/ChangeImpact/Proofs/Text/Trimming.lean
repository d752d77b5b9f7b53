import Mathlib.Data.List.TakeWhile
import ChangeImpact.Text.Blank
import ChangeImpact.Text.Search

/-!
# Trimmed texts

A text is trimmed if it neither starts nor ends with white space. Trimming makes it so
(`trimmed_trimChars`) and leaves a trimmed text as it is (`Trimmed.trimChars_eq`). Joined words begin and
end with characters of words (`joinWith_ends`), so that words one space apart are trimmed.
-/

namespace ChangeImpact.Text

variable {p : Char → Bool}

/-- What is left does not end in a character that is dropped. -/
theorem getLast?_dropEnd (cs : List Char) : ∀ c ∈ (dropEnd p cs).getLast?, p c = false := by
  induction cs with
  | nil => simp [dropEnd]
  | cons d cs ih =>
    unfold dropEnd
    split
    next =>
      split
      next => simp
      next hd =>
        intro c hc
        obtain rfl := Option.some.inj hc
        exact Bool.eq_false_iff.mpr hd
    next hne =>
      rw [List.getLast?_cons_of_ne_nil hne]
      exact ih

/-- Nothing is dropped from a text that does not end in a character that would be. -/
theorem dropEnd_eq_self {cs : List Char} (h : ∀ c ∈ cs.getLast?, p c = false) :
    dropEnd p cs = cs := by
  induction cs with
  | nil => rfl
  | cons d cs ih =>
    cases cs with
    | nil => simp [dropEnd, h d rfl]
    | cons e rest =>
      rw [List.getLast?_cons_cons] at h
      unfold dropEnd
      rw [ih h]

theorem dropEnd_eq_nil {tail : List Char} (h : ∀ c ∈ tail, p c = true) : dropEnd p tail = [] := by
  induction tail with
  | nil => rfl
  | cons c tail ih =>
    obtain ⟨hc, htail⟩ := List.forall_mem_cons.mp h
    unfold dropEnd
    rw [ih htail]
    exact if_pos hc

theorem dropEnd_append_of_all {tail : List Char} (h : ∀ c ∈ tail, p c = true) (cs : List Char) :
    dropEnd p (cs ++ tail) = dropEnd p cs := by
  induction cs with
  | nil => exact dropEnd_eq_nil h
  | cons c cs ih =>
    rw [List.cons_append]
    unfold dropEnd
    rw [ih]

/-- Between ends that are dropped, a text that neither begins nor ends with such a character is left. -/
theorem trimBy_append {before tail cs : List Char} (hbefore : ∀ c ∈ before, p c = true)
    (htail : ∀ c ∈ tail, p c = true) (hfirst : ∀ c ∈ cs.head?, p c = false)
    (hlast : ∀ c ∈ cs.getLast?, p c = false) : trimBy p (before ++ (cs ++ tail)) = cs := by
  unfold trimBy dropStart
  rw [List.dropWhile_append_of_pos hbefore]
  cases cs with
  | nil =>
    rw [List.nil_append, List.dropWhile_eq_nil_iff.mpr htail]
    rfl
  | cons c cs =>
    rw [List.cons_append, List.dropWhile_cons_of_neg (by simp [hfirst c rfl]), ← List.cons_append,
      dropEnd_append_of_all htail, dropEnd_eq_self hlast]

/-- Trimming drops nothing but white space. -/
theorem filter_trimChars {q : Char → Bool} (h : ∀ c, isBlank c = true → q c = false) (cs : List Char) :
    (trimChars cs).filter q = cs.filter q := by
  obtain ⟨tail, happend, htail⟩ := dropEnd_append isBlank (dropStart isBlank cs)
  have hnone : ∀ part : List Char, (∀ c ∈ part, isBlank c = true) → part.filter q = [] := fun part hpart =>
    List.filter_eq_nil_iff.mpr fun c hc => Bool.eq_false_iff.mp (h c (hpart c hc))
  have hends : cs.takeWhile isBlank ++ (trimChars cs ++ tail) = cs := by
    have hrest : trimChars cs ++ tail = cs.dropWhile isBlank := happend
    rw [hrest, List.takeWhile_append_dropWhile]
  conv => rhs; rw [← hends]
  rw [List.filter_append, List.filter_append, hnone tail htail,
    hnone (cs.takeWhile isBlank) fun c hc => List.mem_takeWhile_imp hc, List.nil_append, List.append_nil]

/-- The text has no white space at either end. -/
structure Trimmed (cs : List Char) : Prop where
  first : ∀ c ∈ cs.head?, isBlank c = false
  last : ∀ c ∈ cs.getLast?, isBlank c = false

-- the two ends are looked at, and not every character there is
instance (cs : List Char) : Decidable (Trimmed cs) :=
  decidable_of_iff ((cs.head?.all (!isBlank ·)) = true ∧ (cs.getLast?.all (!isBlank ·)) = true) <| by
    simp only [Option.all_eq_true, Bool.not_eq_true']
    exact ⟨fun h => ⟨h.1, h.2⟩, fun h => ⟨h.first, h.last⟩⟩

theorem trimChars_subset (cs : List Char) : trimChars cs ⊆ cs := by
  obtain ⟨tail, happend, -⟩ := dropEnd_append isBlank (dropStart isBlank cs)
  intro c hc
  have hstart : c ∈ cs.dropWhile isBlank := by
    show c ∈ dropStart isBlank cs
    rw [← happend]
    exact List.mem_append_left _ hc
  exact (List.dropWhile_suffix isBlank).subset hstart

theorem trimmed_trimChars (cs : List Char) : Trimmed (trimChars cs) := by
  refine ⟨?_, getLast?_dropEnd _⟩
  intro c hc
  obtain ⟨tail, happend, -⟩ := dropEnd_append isBlank (dropStart isBlank cs)
  -- what is left at the end begins like what is left at the start
  have hstart : (cs.dropWhile isBlank).head? = some c := by
    show (dropStart isBlank cs).head? = some c
    rw [← happend, List.head?_append]
    exact Option.or_eq_some_iff.mpr (Or.inl hc)
  have hnot := List.head?_dropWhile_not isBlank cs
  rw [hstart] at hnot
  exact hnot

theorem Trimmed.trimChars_eq {cs : List Char} (h : Trimmed cs) : trimChars cs = cs := by
  have hstart : cs.dropWhile isBlank = cs := by
    cases cs with
    | nil => rfl
    | cons c cs => rw [List.dropWhile_cons_of_neg (by rw [h.first c rfl]; exact Bool.false_ne_true)]
  show dropEnd isBlank (cs.dropWhile isBlank) = cs
  rw [hstart]
  exact dropEnd_eq_self h.last

/-! ## Joined words -/

section Joined

variable {p : Char → Prop} {sep : List Char} {words : List (List Char)}

theorem joinWith_chars (hsep : ∀ c ∈ sep, p c) (hwords : ∀ word ∈ words, ∀ c ∈ word, p c) :
    ∀ c ∈ joinWith sep words, p c := by
  induction words with
  | nil => exact fun c hc => nomatch hc
  | cons word rest ih =>
    have hword := hwords word (List.mem_cons_self ..)
    cases rest with
    | nil => exact hword
    | cons next rest =>
      have hrest := ih fun other hother => hwords other (List.mem_cons_of_mem word hother)
      intro c hc
      rcases List.mem_append.mp hc with hc | hc
      · rcases List.mem_append.mp hc with hc | hc
        · exact hword c hc
        · exact hsep c hc
      · exact hrest c hc

/-- Without the separators, joined words are the words one after the other. -/
theorem filter_joinWith {q : Char → Bool} {mark : Char} (hmark : q mark = false)
    (hwords : ∀ word ∈ words, ∀ c ∈ word, q c = true) :
    (joinWith [mark] words).filter q = words.flatten := by
  induction words with
  | nil => rfl
  | cons word rest ih =>
    obtain ⟨hword, hothers⟩ := List.forall_mem_cons.mp hwords
    have hself : word.filter q = word := List.filter_eq_self.mpr hword
    cases rest with
    | nil => rw [List.flatten_cons, List.flatten_nil, List.append_nil, joinWith, hself]
    | cons next rest =>
      show (word ++ [mark] ++ joinWith [mark] (next :: rest)).filter q = _
      rw [List.filter_append, List.filter_append, hself, List.filter_cons_of_neg (by simp [hmark]),
        List.filter_nil, List.append_nil, ih hothers]
      rfl

/-- Joined words begin and end with characters of words. -/
theorem joinWith_ends (sep : List Char) (hne : words ≠ [])
    (hwords : ∀ word ∈ words, word ≠ [] ∧ ∀ c ∈ word, p c) :
    ∃ c d, (joinWith sep words).head? = some c ∧ (joinWith sep words).getLast? = some d ∧
      p c ∧ p d := by
  induction words with
  | nil => exact absurd rfl hne
  | cons word rest ih =>
    obtain ⟨hword, hchars⟩ := hwords word (List.mem_cons_self ..)
    obtain ⟨c, letters, rfl⟩ := List.exists_cons_of_ne_nil hword
    have hc := hchars c (List.mem_cons_self ..)
    cases rest with
    | nil =>
      have hlast := List.getLast?_eq_some_getLast (List.cons_ne_nil c letters)
      exact ⟨c, _, rfl, hlast, hc, hchars _ (List.getLast_mem _)⟩
    | cons next rest =>
      obtain ⟨-, d, -, hlast, -, hd⟩ := ih (List.cons_ne_nil next rest) fun other hother =>
        hwords other (List.mem_cons_of_mem _ hother)
      refine ⟨c, d, rfl, ?_, hc, hd⟩
      show (c :: letters ++ sep ++ joinWith sep (next :: rest)).getLast? = some d
      rw [List.getLast?_append, hlast, Option.some_or]

end Joined

end ChangeImpact.Text

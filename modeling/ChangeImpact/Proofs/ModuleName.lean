import ChangeImpact.ModuleName
import ChangeImpact.Proofs.Text.Runs
import ChangeImpact.Proofs.Text.Scan

/-!
# Module names are in normal form

The passes that make a module name leave the words of the text with one hyphen between each two of them
(`ofChars_eq`), and these words have no capitals, no blanks and no underscores (`IsNormal`). Hyphens are
the only characters that the parts of a word are given, and all of them go with the separators, so that a
name keeps every other character of its entity (`filter_hyphenated`). Without capitals no word has parts:
a name is its own name.

> `ofEntity_isNormal`: the name of an ASCII entity is in normal form, it has the characters of the entity
> in lower case, and it is its own name.
-/

namespace ChangeImpact.ModuleName

open Text

variable {cs entity : List Char} {c : Char}

/-- The characters for which a module name has a hyphen. -/
def isSeparator (c : Char) : Bool := isBlank c || c == '_' || c == '-'

/-! ## Characters -/

/-- Capitals and small letters separate nothing. -/
theorem isSeparator_of_isAlphanum (h : c.isAlphanum = true) : isSeparator c = false := by
  have hcode := toNat_of_isAlphanum h
  have hnot : c ≠ '_' ∧ c ≠ '-' := by
    constructor <;> rintro rfl <;> exact absurd h (by decide)
  simp [isSeparator, isBlank_of_isAlphanum h, hnot]

theorem isBlank_of_not_isSeparator (h : isSeparator c = false) : isBlank c = false := by
  rw [isSeparator, Bool.or_eq_false_iff, Bool.or_eq_false_iff] at h
  exact h.1.1

theorem isSeparator_toLower (c : Char) : isSeparator c.toLower = isSeparator c := by
  by_cases h : isAsciiUpper c = true
  · have hlower := isAlphanum_of_isAsciiLower (isAsciiLower_toLower h)
    rw [isSeparator_of_isAlphanum hlower, isSeparator_of_isAlphanum (isAlphanum_of_isAsciiUpper h)]
  · rw [toLower_eq_self (Bool.eq_false_iff.mpr h)]

theorem ascii_toLower (h : c.toNat < 0x80) : c.toLower.toNat < 0x80 := by
  by_cases hupper : isAsciiUpper c = true
  · have hcode := toNat_of_isAlphanum (isAlphanum_of_isAsciiLower (isAsciiLower_toLower hupper))
    omega
  · rwa [toLower_eq_self (Bool.eq_false_iff.mpr hupper)]

/-! ## The parts of words -/

theorem hyphenated_cons_cons (a b : Char) (cs : List Char) : hyphenated (a :: b :: cs) =
    if partEnds a b cs.head? then a :: '-' :: hyphenated (b :: cs) else a :: hyphenated (b :: cs) := rfl

/-- Hyphens are all that is added. -/
theorem mem_hyphenated (h : c ∈ hyphenated cs) : c ∈ cs ∨ c = '-' := by
  induction cs with
  | nil => cases h
  | cons a rest ih =>
    cases rest with
    | nil => exact Or.inl h
    | cons b after =>
      have hlater : c ∈ hyphenated (b :: after) → c ∈ a :: b :: after ∨ c = '-' := fun hc =>
        (ih hc).imp_left (List.mem_cons_of_mem a)
      rw [hyphenated_cons_cons] at h
      split at h
      · rcases List.mem_cons.mp h with rfl | h
        · exact Or.inl (List.mem_cons_self ..)
        · rcases List.mem_cons.mp h with rfl | h
          · exact Or.inr rfl
          · exact hlater h
      · rcases List.mem_cons.mp h with rfl | h
        · exact Or.inl (List.mem_cons_self ..)
        · exact hlater h

/-- Where hyphens do not count, nothing is added. -/
theorem filter_hyphenated {q : Char → Bool} (hq : q '-' = false) (cs : List Char) :
    (hyphenated cs).filter q = cs.filter q := by
  induction cs with
  | nil => rfl
  | cons a rest ih =>
    cases rest with
    | nil => rfl
    | cons b after =>
      have hfirst : (a :: b :: after).filter q =
          if q a = true then a :: (hyphenated (b :: after)).filter q
          else (hyphenated (b :: after)).filter q := by
        rw [ih, List.filter_cons]
      rw [hyphenated_cons_cons, hfirst]
      split
      · rw [List.filter_cons, List.filter_cons_of_neg (by simp [hq])]
      · rw [List.filter_cons]

/-- Without capitals, words have no parts. -/
theorem hyphenated_eq_self (h : ∀ c ∈ cs, isAsciiUpper c = false) : hyphenated cs = cs := by
  induction cs with
  | nil => rfl
  | cons a rest ih =>
    obtain ⟨-, hrest⟩ := List.forall_mem_cons.mp h
    cases rest with
    | nil => rfl
    | cons b after =>
      have hend : ¬ partEnds a b after.head? = true := by
        rw [partEnds, hrest b (List.mem_cons_self ..), Bool.false_and]
        exact Bool.false_ne_true
      rw [hyphenated_cons_cons, if_neg hend, ih hrest]

/-! ## Hyphens for runs -/

theorem hyphenFor_cons (p : Char → Bool) (c : Char) (rest : List Char) : hyphenFor p (c :: rest) =
    if p c then
      if (rest.head?.map p).getD false then hyphenFor p rest else '-' :: hyphenFor p rest
    else c :: hyphenFor p rest := rfl

/-- A text begins as before, unless it begins with a run. -/
theorem head?_hyphenFor (p : Char → Bool) (cs : List Char) :
    (hyphenFor p cs).head? = cs.head?.map fun c => if p c then '-' else c := by
  induction cs with
  | nil => rfl
  | cons c rest ih =>
    rw [hyphenFor_cons]
    split
    next hc =>
      split
      next hnext =>
        rw [ih]
        cases rest with
        | nil => cases hnext
        | cons d rest =>
          have hd : p d = true := hnext
          simp [hc, hd]
      next => simp [hc]
    next hc => simp [hc]

/-- Two passes are one, where the second one takes the hyphens of the first one in. -/
theorem hyphenFor_hyphenFor {p q : Char → Bool} (hq : q '-' = true) (cs : List Char) :
    hyphenFor q (hyphenFor p cs) = hyphenFor (fun c => p c || q c) cs := by
  induction cs with
  | nil => rfl
  | cons c rest ih =>
    have hhead : ((hyphenFor p rest).head?.map q).getD false =
        (rest.head?.map fun c => p c || q c).getD false := by
      rw [head?_hyphenFor]
      cases rest with
      | nil => rfl
      | cons d rest => cases hd : p d <;> simp [hd, hq]
    rw [hyphenFor_cons p, hyphenFor_cons fun c => p c || q c]
    cases hc : p c with
    | true =>
      rw [if_pos rfl, if_pos (Bool.true_or _), ← hhead]
      split
      next hnext =>
        -- the run goes on, and so does the hyphen that stands for it
        have hgoes : ((hyphenFor p rest).head?.map q).getD false = true := by
          rw [head?_hyphenFor]
          cases rest with
          | nil => cases hnext
          | cons d rest =>
            have hd : p d = true := hnext
            simp [hd, hq]
        rw [if_pos hgoes, ih]
      next => rw [hyphenFor_cons q, if_pos hq, ih]
    | false =>
      rw [if_neg Bool.false_ne_true, Bool.false_or, hyphenFor_cons q, hhead, ih]

/-- Apart from a hyphen for a run at the front and one for a run at the end, what is left are the words
between the runs with hyphens between them. -/
theorem exists_hyphenFor_eq (p : Char → Bool) (cs : List Char) : ∃ tail, (∀ c ∈ tail, c = '-') ∧
    hyphenFor p cs = (if (cs.head?.map p).getD false then ['-'] else []) ++
      (joinWith ['-'] (runs (fun c => !p c) cs) ++ tail) := by
  induction cs with
  | nil => exact ⟨[], List.forall_mem_nil _, rfl⟩
  | cons c rest ih =>
    obtain ⟨tail, htail, heq⟩ := ih
    rw [hyphenFor_cons, heq, List.head?_cons, Option.map_some, Option.getD_some]
    cases hc : p c with
    | true =>
      refine ⟨tail, htail, ?_⟩
      rw [runs_cons_of_neg (by simp [hc]), if_pos rfl, if_pos rfl]
      split
      next => rfl
      next => rfl
    | false =>
      rw [if_neg Bool.false_ne_true, if_neg Bool.false_ne_true]
      cases rest with
      | nil =>
        refine ⟨tail, htail, ?_⟩
        rw [runs_cons_of_pos (by simp [hc])]
        rfl
      | cons d rest =>
        rw [runs_cons_cons (by simp [hc]), List.head?_cons, Option.map_some, Option.getD_some]
        cases hd : p d with
        | true =>
          -- a word of one letter, before the hyphen of the run that follows it
          cases runs (fun c => !p c) (d :: rest) with
          | nil => exact ⟨'-' :: tail, List.forall_mem_cons.mpr ⟨rfl, htail⟩, rfl⟩
          | cons word words => exact ⟨tail, htail, rfl⟩
        | false =>
          -- one more letter of the word that follows
          refine ⟨tail, htail, ?_⟩
          rw [runs_cons_of_pos (by simp [hd])]
          cases runs (fun c => !p c) (rest.dropWhile fun c => !p c) with
          | nil => rfl
          | cons word words => rfl

/-- Without hyphens at the ends these words are all that is left. -/
theorem trimBy_hyphenFor {p : Char → Bool} (hp : p '-' = true) (cs : List Char) :
    trimBy (· == '-') (hyphenFor p cs) = joinWith ['-'] (runs (fun c => !p c) cs) := by
  obtain ⟨tail, htail, heq⟩ := exists_hyphenFor_eq p cs
  -- words have no hyphen at their ends, so that exactly the hyphens around them are trimmed
  have hends : ∀ c, c ∈ (joinWith ['-'] (runs (fun c => !p c) cs)).head? ∨
      c ∈ (joinWith ['-'] (runs (fun c => !p c) cs)).getLast? → (c == '-') = false := by
    cases hwords : runs (fun c => !p c) cs with
    | nil => simp [joinWith]
    | cons word words =>
      obtain ⟨first, last, hhead, hlast, hfirst, hend⟩ := joinWith_ends (p := fun c => (!p c) = true) ['-']
        (List.cons_ne_nil word words) fun other hother =>
          have hmem : other ∈ runs (fun c => !p c) cs := hwords ▸ hother
          ⟨ne_nil_of_mem_runs hmem, all_of_mem_runs hmem⟩
      intro c hc
      have hkept : (!p c) = true := by
        rcases hc with hc | hc
        · exact Option.mem_unique hhead hc ▸ hfirst
        · exact Option.mem_unique hlast hc ▸ hend
      rw [beq_eq_false_iff_ne]
      rintro rfl
      rw [hp] at hkept
      cases hkept
  rw [heq]
  refine trimBy_append (fun c hc => ?_) (fun c hc => by rw [htail c hc, beq_self_eq_true])
    (fun c hc => hends c (Or.inl hc)) fun c hc => hends c (Or.inr hc)
  split at hc
  next => rw [List.mem_singleton.mp hc, beq_self_eq_true]
  next => cases hc

/-! ## Names -/

/-- The words of a name. -/
def wordsOf (entity : List Char) : List (List Char) :=
  runs (fun c => !isSeparator c) (lowerChars (hyphenated (trimChars entity)))

/-- **The passes leave words with hyphens between them.** -/
theorem ofChars_eq (entity : List Char) : ofChars entity = joinWith ['-'] (wordsOf entity) := by
  have hseparator : (fun c => isGap c || c == '-') = isSeparator := rfl
  unfold ofChars
  dsimp only
  rw [hyphenFor_hyphenFor (by decide), hseparator, trimBy_hyphenFor (by decide)]
  rfl

/-- Words are not empty and have no separators in them. -/
theorem wordsOf_proper (entity : List Char) :
    ∀ word ∈ wordsOf entity, word ≠ [] ∧ ∀ c ∈ word, (!isSeparator c) = true := fun _ hword =>
  ⟨ne_nil_of_mem_runs hword, all_of_mem_runs hword⟩

/-- No capitals, blanks or underscores, and single hyphens between other characters only. -/
structure IsNormal (name : List Char) : Prop where
  capitals : ∀ c ∈ name, isUpper c = false
  blanks : ∀ c ∈ name, isBlank c = false
  underscores : '_' ∉ name
  first : name.head? ≠ some '-'
  last : name.getLast? ≠ some '-'
  single : ¬ ['-', '-'] <:+: name

section Ascii

variable (hentity : ∀ c ∈ entity, c.toNat < 0x80)

include hentity

theorem lowerChars_hyphenated : lowerChars (hyphenated (trimChars entity)) =
    (hyphenated (trimChars entity)).map Char.toLower := by
  refine lowerChars_ascii fun c hc => ?_
  rcases mem_hyphenated hc with hc | rfl
  · exact hentity c (trimChars_subset entity hc)
  · decide

/-- A name has small ASCII characters: hyphens, and characters that do not separate. -/
theorem plain_ofChars : ∀ c ∈ ofChars entity,
    (c = '-' ∨ isSeparator c = false) ∧ c.toNat < 0x80 ∧ isAsciiUpper c = false := by
  rw [ofChars_eq]
  refine joinWith_chars (List.forall_mem_singleton.mpr (by decide)) fun word hword c hc => ?_
  -- every character of a word is one of the entity in lower case, or a hyphen
  have hmem : c ∈ (hyphenated (trimChars entity)).map Char.toLower := by
    have hflat : c ∈ (wordsOf entity).flatten := List.mem_flatten.mpr ⟨word, hword, hc⟩
    rw [wordsOf, flatten_runs, lowerChars_hyphenated hentity] at hflat
    exact (List.mem_filter.mp hflat).1
  obtain ⟨d, hd, rfl⟩ := List.mem_map.mp hmem
  refine ⟨Or.inr ?_, ascii_toLower ?_, not_isAsciiUpper_toLower d⟩
  · simpa using (wordsOf_proper entity word hword).2 _ hc
  · rcases mem_hyphenated hd with hd | rfl
    · exact hentity d (trimChars_subset entity hd)
    · decide

theorem ofChars_isNormal : IsNormal (ofChars entity) := by
  have hplain := plain_ofChars hentity
  -- the name is made of proper words with hyphens between them, so that its ends are those of words
  have hends : ∀ c, c ∈ (ofChars entity).head? ∨ c ∈ (ofChars entity).getLast? → c ≠ '-' := by
    rw [ofChars_eq]
    cases hwords : wordsOf entity with
    | nil => simp [joinWith]
    | cons word rest =>
      obtain ⟨first, last, hhead, hlast, hfirst, hend⟩ :=
        joinWith_ends ['-'] (List.cons_ne_nil word rest) (hwords ▸ wordsOf_proper entity)
      intro c hc
      have hsep : (!isSeparator c) = true := by
        rcases hc with hc | hc
        · exact Option.mem_unique hhead hc ▸ hfirst
        · exact Option.mem_unique hlast hc ▸ hend
      rintro rfl
      exact absurd hsep (by decide)
  refine ⟨fun c hc => ?_, fun c hc => ?_, fun hmem => ?_, fun hhead => ?_, fun hlast => ?_, ?_⟩
  · rw [isUpper, if_pos (hplain c hc).2.1]
    exact (hplain c hc).2.2
  · rcases (hplain c hc).1 with rfl | hsep
    · rfl
    · exact isBlank_of_not_isSeparator hsep
  · rcases (hplain '_' hmem).1 with heq | hsep
    · exact absurd heq (by decide)
    · exact absurd hsep (by decide)
  · exact hends '-' (Or.inl hhead) rfl
  · exact hends '-' (Or.inr hlast) rfl
  · rw [ofChars_eq]
    exact joinWith_single (p := fun c => !isSeparator c) rfl (wordsOf_proper entity)

/-- A name keeps the characters of its entity that do not separate. -/
theorem filter_ofChars :
    (ofChars entity).filter (· != '-') = (lowerChars entity).filter fun c => !isSeparator c := by
  have hwords : (ofChars entity).filter (· != '-') = (wordsOf entity).flatten := by
    rw [ofChars_eq]
    refine filter_joinWith rfl fun word hword c hc => ?_
    have hsep := (wordsOf_proper entity word hword).2 c hc
    rw [bne_iff_ne]
    rintro rfl
    exact absurd hsep (by decide)
  have hlower : ∀ cs : List Char, (cs.map Char.toLower).filter (fun c => !isSeparator c) =
      (cs.filter fun c => !isSeparator c).map Char.toLower := by
    intro cs
    rw [List.filter_map]
    simp only [Function.comp_def, isSeparator_toLower]
  have hblank : ∀ c, isBlank c = true → (!isSeparator c) = false := by
    intro c hc
    rw [isSeparator, hc]
    rfl
  rw [hwords, wordsOf, flatten_runs, lowerChars_hyphenated hentity, lowerChars_ascii hentity, hlower,
    hlower, filter_hyphenated (by decide), filter_trimChars hblank]

/-- A name is its own name. -/
theorem ofChars_ofChars : ofChars (ofChars entity) = ofChars entity := by
  have hplain := plain_ofChars hentity
  have hlower : (ofChars entity).map Char.toLower = ofChars entity :=
    (List.map_congr_left fun c hc => toLower_eq_self (hplain c hc).2.2).trans (List.map_id _)
  have hblanks := (ofChars_isNormal hentity).blanks
  have htrimmed : trimChars (ofChars entity) = ofChars entity :=
    Trimmed.trimChars_eq ⟨fun c hc => hblanks c (List.mem_of_mem_head? hc),
      fun c hc => hblanks c (List.mem_of_mem_getLast? hc)⟩
  have hwords : wordsOf (ofChars entity) = wordsOf entity := by
    rw [wordsOf, htrimmed, hyphenated_eq_self fun c hc => (hplain c hc).2.2,
      lowerChars_ascii fun c hc => (hplain c hc).2.1, hlower, ofChars_eq]
    exact runs_joinWith (by decide) (wordsOf_proper entity)
  rw [ofChars_eq (ofChars entity), hwords, ofChars_eq]

end Ascii

/-- **Module names are in normal form.** The name of an ASCII entity is in normal form; without its hyphens
it is the entity in lower case without blanks, underscores and hyphens; and it is its own name. -/
theorem ofEntity_isNormal (entity : String) (hentity : ∀ c ∈ entity.toList, c.toNat < 0x80) :
    IsNormal (ofEntity entity).toList ∧
      (ofEntity entity).toList.filter (· != '-') =
        (lower entity).toList.filter (fun c => !(isBlank c || c == '_' || c == '-')) ∧
      ofEntity (ofEntity entity) = ofEntity entity := by
  have htext : (ofEntity entity).toList = ofChars entity.toList := String.toList_ofList
  have hlower : (lower entity).toList = lowerChars entity.toList := String.toList_ofList
  refine ⟨htext ▸ ofChars_isNormal hentity, ?_, ?_⟩
  · rw [htext, hlower]
    exact filter_ofChars hentity
  · show String.ofList (ofChars (ofEntity entity).toList) = _
    rw [htext, ofChars_ofChars hentity]
    rfl

/-- Four words, the first and the last one of two parts, with blanks, underscores and a hyphen between and
around them. -/
def client : String := " HTTPClient__v2 -Beta\tOrderItem_"

theorem ofEntity_isNormal_client :
    (∀ c ∈ client.toList, c.toNat < 0x80) ∧ ofEntity client = "http-client-v2-beta-order-item" ∧
      IsNormal (ofEntity client).toList ∧
      (ofEntity client).toList.filter (· != '-') =
        (lower client).toList.filter (fun c => !(isBlank c || c == '_' || c == '-')) ∧
      ofEntity (ofEntity client) = ofEntity client := by
  have hall : (client.toList.all fun c => c.toNat < 0x80) = true := by decide
  have hascii : ∀ c ∈ client.toList, c.toNat < 0x80 := by
    simpa only [List.all_eq_true, decide_eq_true_eq] using hall
  exact ⟨hascii, by decide, ofEntity_isNormal client hascii⟩

end ChangeImpact.ModuleName

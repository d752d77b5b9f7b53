import ChangeImpact.Change.Operation
import ChangeImpact.Proofs.Text.Scan

/-!
# Clauses that ask for operations

The table of clauses and how one of them is matched. A clause starts where a word of the text is one of
its own in some letter case; letters and digits that spell none of them do not start it
(`clauseTarget_eq_none`). A verb with a phrase behind it is matched if the phrase ends before the line
does (`clauseTarget_verb`).

Of the operations with one target, in any letter case, the first one is kept (`mem_distinctTargets`).
-/

namespace ChangeImpact

open Text

namespace Operation

/-! ## The table of clauses -/

/-- The verbs of a clause. -/
def Clause.verbWords : Clause → List String
  | .verbs words => words
  | .afterNew => []

/-- The words that a clause starts with. -/
def Clause.starts : Clause → List String
  | .verbs words => words
  | .afterNew => ["new"]

/-- The clauses one by one, each with its type. -/
def listed : List (OperationType × Clause) :=
  clauses.flatMap fun (type, kinds) => kinds.map fun clause => (type, clause)

/-- All verbs, each with its type. -/
def verbs : List (OperationType × String) :=
  listed.flatMap fun (type, clause) => clause.verbWords.map fun verb => (type, verb)

/-- The place of a type in the table. -/
def rank (type : OperationType) : Nat := (clauses.map Prod.fst).idxOf type

/-- The words that clauses start with are `new` and the verbs. -/
theorem starts_listed : ∀ entry ∈ listed, ∀ word ∈ entry.2.starts,
    IsLowerWord word.toList ∧ (word = "new" ∨ (entry.1, word) ∈ verbs) := by
  decide +kernel

/-- No word is a verb of two types. -/
theorem verbs_spell_type : ∀ entry ∈ verbs, IsLowerWord entry.2.toList ∧ entry.2 ≠ "new" ∧
    ∀ other ∈ verbs, other.2 = entry.2 → other.1 = entry.1 := by
  decide +kernel

/-- Clauses are listed by type. -/
theorem listed_pairwise : listed.Pairwise fun a b => rank a.1 ≤ rank b.1 := by
  decide +kernel

/-- A verb is a word of one of its type's clauses. -/
theorem mem_verbs {type : OperationType} {word : String} :
    (type, word) ∈ verbs ↔ ∃ clause, (type, clause) ∈ listed ∧ word ∈ clause.verbWords := by
  unfold verbs
  rw [List.mem_flatMap]
  constructor
  · rintro ⟨⟨type', clause⟩, hlisted, hverb⟩
    obtain ⟨verb, hmem, heq⟩ := List.mem_map.mp hverb
    obtain ⟨rfl, rfl⟩ := Prod.mk.inj heq
    exact ⟨clause, hlisted, hmem⟩
  · rintro ⟨clause, hlisted, hmem⟩
    exact ⟨(type, clause), hlisted, List.mem_map_of_mem hmem⟩

/-- What a text asks for is found clause by clause in the order in which they are listed. -/
theorem requested_eq (text : List Char) :
    requested text = listed.flatMap fun entry => findAll (clauseOperation entry.1 entry.2) text := by
  simp only [requested, listed, List.flatMap_assoc, List.flatMap_map]

/-- The operations of a clause have its type and the targets that it finds. -/
theorem map_findAll_clauseOperation (type : OperationType) (clause : Clause) (text : List Char) :
    (findAll (clauseOperation type clause) text).map (fun op => (op.type, op.target)) =
      (findAll (clauseTarget clause) text).map fun target =>
        (type, String.ofList (trimChars target)) := by
  refine map_findAllFrom (fun before cs => ?_) 0
  unfold clauseOperation
  cases clauseTarget clause before cs <;> rfl

/-! ## How a clause is matched -/

section Matching

variable {clause : Clause} {before : Option Char} {letters tail rest : List Char}

/-- A word that is found without its letters being all there are has no blank behind it. -/
theorem head_of_not_spells {word : List Char} (hword : IsLowerWord word)
    (hletters : ∀ c ∈ letters, c.isAlphanum = true) (htail : EndsWord tail)
    (hnot : ¬ Spells word letters) (h : afterWord? word (letters ++ tail) = some rest) :
    ∀ c ∈ rest.head?, isBlank c = false := by
  intro c hc
  rw [Bool.eq_false_iff]
  intro hblank
  refine hnot (spells_of_afterWord hword.2 hletters htail h fun d hd => ?_)
  obtain rfl := Option.mem_unique hc hd
  rw [Bool.eq_false_iff]
  intro halnum
  rw [isBlank_of_isAlphanum halnum] at hblank
  cases hblank

/-- Without a blank there is no phrase behind blanks. -/
theorem phraseAfterBlanks_eq_none (h : ∀ c ∈ rest.head?, isBlank c = false) :
    phraseAfterBlanks? rest (rest.takeWhile isBlank).length = none := by
  cases rest with
  | nil => rfl
  | cons c rest =>
    rw [List.takeWhile_cons_of_neg (by rw [h c rfl]; exact Bool.false_ne_true)]
    rfl

/-- Letters and digits that spell no word of the clause do not start it. -/
theorem clauseTarget_eq_none (hclause : ∀ word ∈ clause.starts, IsLowerWord word.toList)
    (hletters : ∀ c ∈ letters, c.isAlphanum = true) (htail : EndsWord tail)
    (hnot : ∀ word ∈ clause.starts, ¬ Spells word.toList letters) :
    clauseTarget clause before (letters ++ tail) = none := by
  -- behind a word that is not spelled there is no blank, and so no phrase
  have hhead : ∀ word ∈ clause.starts, ∀ rest, afterWord? word.toList (letters ++ tail) = some rest →
      ∀ c ∈ rest.head?, isBlank c = false := fun word hword rest h =>
    head_of_not_spells (hclause word hword) hletters htail (hnot word hword) h
  unfold clauseTarget
  split
  next => rfl
  next =>
    cases clause with
    | verbs words =>
      refine List.findSome?_eq_none_iff.mpr fun word hword => ?_
      cases hafter : afterWord? word.toList (letters ++ tail) with
      | none => rfl
      | some rest =>
        dsimp only
        rw [phraseAfterBlanks_eq_none (hhead word hword rest hafter)]
        rfl
    | afterNew =>
      cases hafter : afterWord? "new".toList (letters ++ tail) with
      | none => rfl
      | some rest =>
        have hrest := hhead "new" (List.mem_singleton.mpr rfl) rest hafter
        cases rest with
        | nil => rfl
        | cons c rest =>
          have hblank : ((c :: rest).head?.map isBlank).getD false = false := hrest c rfl
          dsimp only
          rw [hblank]
          rfl

/-- Clauses start where words start. -/
theorem clauseTarget_matchesWords (hclause : ∀ word ∈ clause.starts, IsLowerWord word.toList) :
    MatchesWords (clauseTarget clause) where
  inside c cs hc := by
    have hstart : startsWord (some c) = false := by
      show (!isWord c) = false
      rw [hc]
      rfl
    unfold clauseTarget
    rw [hstart]
    rfl
  between before c cs hc := by
    have hletters : ∀ d ∈ ([] : List Char), d.isAlphanum = true := fun d hd => nomatch hd
    refine clauseTarget_eq_none hclause hletters (endsWord_cons hc) fun word hword hspells => ?_
    exact (hclause word hword).1 hspells.symm

/-- A phrase goes on through everything but points, commas and line breaks. -/
theorem phraseRest_append (h : ∀ c ∈ letters, c ≠ '.' ∧ c ≠ ',' ∧ c ≠ '\n') :
    phraseRest? (letters ++ tail) = (phraseRest? tail).map fun (rest, n) => (letters ++ rest, n) := by
  induction letters with
  | nil => simp
  | cons c letters ih =>
    obtain ⟨hpoint, hcomma, hbreak⟩ := h c (List.mem_cons_self ..)
    have hend : phraseEnd? (c :: (letters ++ tail)) = none := by
      unfold phraseEnd?
      split
      next heq => cases heq
      next heq => exact absurd (List.cons.inj heq).1 hbreak
      next heq =>
        obtain ⟨rfl, -⟩ := List.cons.inj heq
        simp [hpoint, hcomma]
    have hline : (c == '\n') = false := beq_eq_false_iff_ne.mpr hbreak
    rw [List.cons_append, phraseRest?, hend, hline,
      ih fun d hd => h d (List.mem_cons_of_mem c hd)]
    cases phraseRest? tail <;> rfl

/-- A phrase goes on over letters, blanks and other signs, but over no point, comma or line end. -/
theorem phrase_append (hne : letters ≠ []) (h : ∀ c ∈ letters, c ≠ '.' ∧ c ≠ ',' ∧ c ≠ '\n')
    (tail : List Char) :
    phrase? (letters ++ tail) = (phraseRest? tail).map fun (rest, n) => (letters ++ rest, n) := by
  obtain ⟨c, letters, rfl⟩ := List.exists_cons_of_ne_nil hne
  have hline : (c == '\n') = false := beq_eq_false_iff_ne.mpr (h c (List.mem_cons_self ..)).2.2
  rw [List.cons_append, phrase?, hline, phraseRest_append fun d hd => h d (List.mem_cons_of_mem c hd)]
  cases phraseRest? tail <;> rfl

/-- Something that only one entry can find is found if that entry finds it. -/
theorem findSome_eq_of_unique {α β : Type} {f : α → Option β} {as : List α} {a : α} (ha : a ∈ as)
    (h : ∀ b ∈ as, b = a ∨ f b = none) : as.findSome? f = f a := by
  induction as with
  | nil => cases ha
  | cons b as ih =>
    have hrest : ∀ c ∈ as, c = a ∨ f c = none := fun c hc => h c (List.mem_cons_of_mem b hc)
    rw [List.findSome?_cons]
    cases hb : f b with
    | some found =>
      rcases h b (List.mem_cons_self ..) with rfl | hnone
      · exact hb.symm
      · rw [hnone] at hb
        cases hb
    | none =>
      rcases List.mem_cons.mp ha with rfl | ha
      · refine (List.findSome?_eq_none_iff.mpr fun c hc => ?_).trans hb.symm
        rcases hrest c hc with rfl | hnone
        · exact hb
        · exact hnone
      · exact ih ha hrest

/-- A verb, a space and a phrase: the phrase is the target. -/
theorem clauseTarget_verb {words : List String} (hwords : ∀ word ∈ words, IsLowerWord word.toList)
    {word : String} (hword : word ∈ words) {verb : List Char} (hverb : Spells word.toList verb)
    (hbefore : startsWord before = true) {c : Char} (hc : isBlank c = false)
    (h : ∀ d ∈ c :: letters, d ≠ '.' ∧ d ≠ ',' ∧ d ≠ '\n') :
    clauseTarget (.verbs words) before (verb ++ ' ' :: (c :: letters ++ tail)) =
      (phraseRest? tail).map fun (rest, n) =>
        (c :: letters ++ rest, verb.length + (1 + (c :: letters ++ rest).length + n)) := by
  have hspace : EndsWord (' ' :: (c :: letters ++ tail)) := endsWord_cons (by decide)
  have hletters := hverb.isAlphanum (hwords word hword).2
  unfold clauseTarget
  rw [hbefore]
  refine (findSome_eq_of_unique hword fun other hother => ?_).trans ?_
  · -- another word is not spelled by the verb, so that no blank is behind it
    by_cases heq : other = word
    · exact Or.inl heq
    · refine Or.inr ?_
      have hnot : ¬ Spells other.toList verb := fun hspells =>
        heq (String.toList_injective (hspells.symm.trans hverb))
      cases hafter : afterWord? other.toList (verb ++ ' ' :: (c :: letters ++ tail)) with
      | none => rfl
      | some rest =>
        dsimp only
        rw [phraseAfterBlanks_eq_none
          (head_of_not_spells (hwords other hother) hletters hspace hnot hafter)]
        rfl
  · -- the verb is followed by one blank, behind which the phrase begins
    have htake : (' ' :: (c :: letters ++ tail)).takeWhile isBlank = [' '] := by
      rw [List.takeWhile_cons_of_pos (by decide), List.cons_append,
        List.takeWhile_cons_of_neg (by rw [hc]; exact Bool.false_ne_true)]
    have hlength : (verb ++ ' ' :: (c :: letters ++ tail)).length -
        (' ' :: (c :: letters ++ tail)).length = verb.length := by
      rw [List.length_append, Nat.add_sub_cancel]
    rw [afterWord_of_spells (hwords word hword).2 hverb]
    dsimp only
    rw [htake, hlength]
    show (phraseAfterBlanks? (' ' :: (c :: letters ++ tail)) 1).map _ = _
    have hphrase := phrase_append (List.cons_ne_nil c letters) h tail
    unfold phraseAfterBlanks?
    rw [List.drop_succ_cons, List.drop_zero, hphrase]
    cases phraseRest? tail with
    | none => rfl
    | some found => rfl

end Matching

/-! ## Each target once -/

/-- The operation has the target, in some letter case, and is not passed over. -/
def claims (key : String) (op : Operation) : Bool := 2 < op.target.length && lower op.target == key

/-- Kept is what has its target first. -/
theorem mem_distinctTargets {ops : List Operation} {key : String} {op : Operation} {seen : List String}
    (hseen : key ∉ seen) (h : ops.find? (claims key) = some op) : op ∈ distinctTargets seen ops := by
  -- no operation in front of the first that claims the key can have taken it
  induction ops generalizing seen with
  | nil => cases h
  | cons first ops ih =>
    unfold distinctTargets
    cases hclaims : claims key first with
    | true =>
      rw [List.find?_cons_of_pos hclaims] at h
      obtain rfl := Option.some.inj h
      obtain ⟨hlong, hkey⟩ := Bool.and_eq_true_iff.mp hclaims
      have hnew : seen.contains (lower first.target) = false := by
        rw [beq_iff_eq.mp hkey, Bool.eq_false_iff]
        exact fun hmem => hseen (List.contains_iff_mem.mp hmem)
      dsimp only
      rw [hlong, hnew]
      exact List.mem_cons_self ..
    | false =>
      rw [List.find?_cons_of_neg (by rw [hclaims]; exact Bool.false_ne_true)] at h
      dsimp only
      split
      next hkept =>
        have hother : key ≠ lower first.target := by
          rintro rfl
          rw [claims, (Bool.and_eq_true_iff.mp hkept).1, beq_self_eq_true] at hclaims
          cases hclaims
        refine List.mem_cons_of_mem _ (ih (fun hmem => ?_) h)
        rcases List.mem_cons.mp hmem with heq | hmem
        · exact hother heq
        · exact hseen hmem
      next => exact ih hseen h

/-- What is found first in a sorted list comes before all others that might have been found. -/
theorem find_of_pairwise {α : Type} {R : α → α → Prop} {p : α → Bool} {as : List α} {a b : α}
    (hsorted : as.Pairwise R) (h : as.find? p = some a) (hb : b ∈ as) (hp : p b = true) :
    b = a ∨ R a b := by
  obtain ⟨-, front, back, rfl, hfront⟩ := List.find?_eq_some_iff_append.mp h
  rcases List.mem_append.mp hb with hb | hb
  · have hnot := hfront b hb
    rw [hp] at hnot
    cases hnot
  · rcases List.mem_cons.mp hb with rfl | hb
    · exact Or.inl rfl
    · exact Or.inr ((List.pairwise_cons.mp (List.pairwise_append.mp hsorted).2.1).1 b hb)

/-- If anything is asked for, nothing is inferred. -/
theorem inText_eq {text : List Char} {op : Operation} (h : op ∈ distinctTargets [] (requested text)) :
    inText text = distinctTargets [] (requested text) := by
  unfold inText
  split
  next hnil =>
    rw [hnil] at h
    cases h
  next => rfl

end Operation

end ChangeImpact

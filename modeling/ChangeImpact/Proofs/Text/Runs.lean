import Mathlib.Data.List.Chain
import Mathlib.Data.List.TakeWhile
import ChangeImpact.Proofs.Text.Trimming
import ChangeImpact.Text.Blank

/-!
# Maximal runs

A run of characters with a property is maximal if it goes on in neither direction (`IsRun`). The runs of a
text are found from left to right: the first one is what can be taken from the front, and the others are
those of what is left then (`runs_cons_of_pos`).

> `mem_runs`: what is found are the maximal runs of the text, and all of them are found.

Words that are joined by a sign which none of them has are found again as its runs (`runs_joinWith`).
-/

namespace ChangeImpact.Text

variable {p : Char → Bool} {cs before run after : List Char} {c : Char}

/-- Some characters with a property, and neither what stands before them ends in such a character nor what
stands behind them begins with one. -/
structure IsRun (p : Char → Bool) (before run after : List Char) : Prop where
  ne_nil : run ≠ []
  all : ∀ c ∈ run, p c = true
  starts : ∀ c ∈ before.getLast?, p c = false
  ends : ∀ c ∈ after.head?, p c = false

theorem runs_cons_of_neg (h : p c = false) : runs p (c :: cs) = runs p cs := by
  conv => lhs; unfold runs
  rw [if_neg (by simp [h])]

/-- A character before another one goes into the run of that one, or is a run of its own. -/
theorem runs_cons_cons (h : p c = true) (d : Char) (cs : List Char) :
    runs p (c :: d :: cs) =
      match runs p (d :: cs) with
      | [] => [[c]]
      | run :: rest => if p d then (c :: run) :: rest else [c] :: run :: rest := by
  conv => lhs; unfold runs
  rw [if_pos h]
  cases runs p (d :: cs) <;> rfl

/-- The first run is what can be taken from the front. -/
theorem runs_cons_of_pos (h : p c = true) :
    runs p (c :: cs) = (c :: cs.takeWhile p) :: runs p (cs.dropWhile p) := by
  induction cs generalizing c with
  | nil => simp [runs, h]
  | cons d cs ih =>
    rw [runs_cons_cons h]
    by_cases hd : p d = true
    · rw [ih hd, List.takeWhile_cons_of_pos hd, List.dropWhile_cons_of_pos hd]
      exact if_pos hd
    · rw [List.takeWhile_cons_of_neg hd, List.dropWhile_cons_of_neg hd]
      cases runs p (d :: cs) with
      | nil => rfl
      | cons run rest => exact if_neg hd

/-- Where one text ends without a run, the runs of another one begin anew. -/
theorem runs_append (h : ∀ c ∈ before.getLast?, p c = false) (rest : List Char) :
    runs p (before ++ rest) = runs p before ++ runs p rest := by
  induction before with
  | nil => rfl
  | cons c before ih =>
    cases before with
    | nil =>
      have hc : p c = false := h c rfl
      rw [List.singleton_append, runs_cons_of_neg hc, runs_cons_of_neg hc]
      rfl
    | cons d before =>
      have hrest := ih (by simpa using h)
      by_cases hc : p c = true
      · have hstep := runs_cons_cons hc d (before ++ rest)
        rw [← List.cons_append, hrest] at hstep
        rw [List.cons_append, hstep, runs_cons_cons hc]
        by_cases hd : p d = true
        · simp [runs_cons_of_pos hd, hd]
        · -- a run of one character, whatever comes next
          cases runs p (d :: before) <;> cases runs p rest <;> simp [hd]
      · have hc : p c = false := Bool.eq_false_iff.mpr hc
        rw [List.cons_append, runs_cons_of_neg hc, runs_cons_of_neg hc, hrest]

/-- A maximal run is found. -/
theorem IsRun.mem_runs (h : IsRun p before run after) : run ∈ runs p (before ++ (run ++ after)) := by
  obtain ⟨c, letters, rfl⟩ := List.exists_cons_of_ne_nil h.ne_nil
  obtain ⟨hc, hletters⟩ := List.forall_mem_cons.mp h.all
  have htake : (letters ++ after).takeWhile p = letters := by
    rw [List.takeWhile_append_of_pos hletters]
    cases after with
    | nil => simp
    | cons d after => rw [List.takeWhile_cons_of_neg (by simp [h.ends d rfl]), List.append_nil]
  rw [runs_append h.starts, List.cons_append, runs_cons_of_pos hc, htake]
  exact List.mem_append_right _ (List.mem_cons_self ..)

/-- What stands farther in front does not matter if there is something before the run. -/
theorem IsRun.append_left (h : IsRun p before run after) (hbefore : before ≠ []) (front : List Char) :
    IsRun p (front ++ before) run after where
  ne_nil := h.ne_nil
  all := h.all
  starts := by
    rw [List.getLast?_append_of_ne_nil front hbefore]
    exact h.starts
  ends := h.ends

/-- A character without the property may stand in front of anything. -/
theorem IsRun.cons (h : IsRun p before run after) (hc : p c = false) : IsRun p (c :: before) run after := by
  cases before with
  | nil =>
    refine ⟨h.ne_nil, h.all, fun d hd => ?_, h.ends⟩
    obtain rfl := Option.some.inj hd
    exact hc
  | cons d before => exact h.append_left (List.cons_ne_nil d before) [c]

/-- The text does not go on with a run where one was taken from its front. -/
theorem IsRun.before_ne_nil (h : IsRun p before run after)
    (heq : before ++ (run ++ after) = cs.dropWhile p) : before ≠ [] := by
  rintro rfl
  obtain ⟨d, letters, rfl⟩ := List.exists_cons_of_ne_nil h.ne_nil
  have hnot := List.head?_dropWhile_not p cs
  rw [← heq] at hnot
  have hd : p d = true := h.all d (List.mem_cons_self ..)
  have hnd : p d = false := hnot
  rw [hd] at hnd
  cases hnd

/-- What is found is a maximal run. -/
theorem exists_isRun_of_mem_runs {cs : List Char} (h : run ∈ runs p cs) :
    ∃ before after, before ++ (run ++ after) = cs ∧ IsRun p before run after := by
  match cs with
  | [] => cases h
  | c :: cs =>
    by_cases hc : p c = true
    · rw [runs_cons_of_pos hc] at h
      rcases List.mem_cons.mp h with rfl | hlater
      · -- the first run has nothing before it, and behind it stands what ended it
        refine ⟨[], cs.dropWhile p, by simp, by simp, ?_, by simp, ?_⟩
        · exact List.forall_mem_cons.mpr ⟨hc, fun d hd => List.mem_takeWhile_imp hd⟩
        · intro d hd
          have hnot := List.head?_dropWhile_not p cs
          rw [hd] at hnot
          exact hnot
      · obtain ⟨before, after, heq, hrun⟩ := exists_isRun_of_mem_runs hlater
        refine ⟨c :: cs.takeWhile p ++ before, after, ?_, hrun.append_left (hrun.before_ne_nil heq) _⟩
        rw [List.append_assoc, heq, List.cons_append, List.takeWhile_append_dropWhile]
    · have hc : p c = false := Bool.eq_false_iff.mpr hc
      rw [runs_cons_of_neg hc] at h
      obtain ⟨before, after, heq, hrun⟩ := exists_isRun_of_mem_runs h
      exact ⟨c :: before, after, by rw [List.cons_append, heq], hrun.cons hc⟩
termination_by cs.length
decreasing_by
  · exact Nat.lt_succ_of_le (List.dropWhile_suffix p).length_le
  · exact Nat.lt_succ_self _

/-- **The maximal runs.** What is found in a text are its maximal runs, and all of them are found. -/
theorem mem_runs : run ∈ runs p cs ↔
    ∃ before after, before ++ (run ++ after) = cs ∧ IsRun p before run after := by
  constructor
  · exact exists_isRun_of_mem_runs
  · rintro ⟨before, after, rfl, hrun⟩
    exact hrun.mem_runs

/-- Nothing but the characters without the property is left out of the runs. -/
theorem flatten_runs (p : Char → Bool) (cs : List Char) : (runs p cs).flatten = cs.filter p := by
  match cs with
  | [] => rfl
  | c :: cs =>
    by_cases hc : p c = true
    · have htaken : (cs.takeWhile p).filter p = cs.takeWhile p :=
        List.filter_eq_self.mpr fun d hd => List.mem_takeWhile_imp hd
      rw [runs_cons_of_pos hc, List.flatten_cons, flatten_runs p (cs.dropWhile p),
        List.filter_cons_of_pos hc, List.cons_append]
      conv => rhs; rw [← List.takeWhile_append_dropWhile (p := p) (l := cs), List.filter_append, htaken]
    · rw [runs_cons_of_neg (Bool.eq_false_iff.mpr hc), flatten_runs p cs, List.filter_cons_of_neg hc]
termination_by cs.length
decreasing_by
  · exact Nat.lt_succ_of_le (List.dropWhile_suffix p).length_le
  · exact Nat.lt_succ_self _

theorem ne_nil_of_mem_runs (h : run ∈ runs p cs) : run ≠ [] :=
  have ⟨_, _, _, hrun⟩ := mem_runs.mp h
  hrun.ne_nil

theorem all_of_mem_runs (h : run ∈ runs p cs) : ∀ c ∈ run, p c = true :=
  have ⟨_, _, _, hrun⟩ := mem_runs.mp h
  hrun.all

/-! ## Joined runs -/

section Joined

variable {sep : Char} {words : List (List Char)} (hsep : p sep = false)
  (hwords : ∀ word ∈ words, word ≠ [] ∧ ∀ c ∈ word, p c = true)

include hsep hwords

theorem runs_joinWith : runs p (joinWith [sep] words) = words := by
  induction words with
  | nil => rfl
  | cons word rest ih =>
    obtain ⟨⟨hne, hall⟩, hothers⟩ := List.forall_mem_cons.mp hwords
    obtain ⟨c, letters, rfl⟩ := List.exists_cons_of_ne_nil hne
    obtain ⟨hc, hletters⟩ := List.forall_mem_cons.mp hall
    cases rest with
    | nil =>
      show runs p (c :: letters) = [c :: letters]
      rw [runs_cons_of_pos hc, List.takeWhile_eq_self_iff.mpr hletters,
        List.dropWhile_eq_nil_iff.mpr hletters]
      rfl
    | cons next rest =>
      have htext : joinWith [sep] ((c :: letters) :: next :: rest) =
          c :: (letters ++ sep :: joinWith [sep] (next :: rest)) := by
        simp [joinWith]
      rw [htext, runs_cons_of_pos hc, List.takeWhile_append_of_pos hletters,
        List.dropWhile_append_of_pos hletters, List.takeWhile_cons_of_neg (by simp [hsep]),
        List.dropWhile_cons_of_neg (by simp [hsep]), List.append_nil, runs_cons_of_neg hsep, ih hothers]

/-- The sign never stands twice in a row. -/
theorem joinWith_single : ¬ [sep, sep] <:+: joinWith [sep] words := by
  have hapart : ∀ c, p c = true → c ≠ sep := by
    rintro c hc rfl
    rw [hsep] at hc
    cases hc
  -- of two neighbours one is not the separator, within words and where they are joined
  have hchain : (joinWith [sep] words).IsChain fun c d => c ≠ sep ∨ d ≠ sep := by
    induction words with
    | nil => exact List.isChain_nil
    | cons word rest ih =>
      obtain ⟨⟨hne, hall⟩, hothers⟩ := List.forall_mem_cons.mp hwords
      have hword : word.IsChain fun c d => c ≠ sep ∨ d ≠ sep :=
        List.Pairwise.isChain (List.pairwise_of_forall_mem_list fun c hc _ _ =>
          Or.inl (hapart c (hall c hc)))
      cases rest with
      | nil => exact hword
      | cons next rest =>
        obtain ⟨c, -, hhead, -, hc, -⟩ := joinWith_ends [sep] (List.cons_ne_nil next rest) hothers
        show (word ++ [sep] ++ joinWith [sep] (next :: rest)).IsChain _
        rw [List.append_assoc, List.singleton_append]
        refine List.isChain_append.mpr ⟨hword, List.isChain_cons.mpr ⟨?_, ih hothers⟩, ?_⟩
        · intro d hd
          obtain rfl := Option.mem_unique hhead hd
          exact Or.inr (hapart _ hc)
        · intro d hd _ _
          exact Or.inl (hapart d (hall d (List.mem_of_mem_getLast? hd)))
  intro htwice
  have hpair := hchain.infix htwice
  simp at hpair

end Joined

end ChangeImpact.Text

/-!
# One entry of each kind

`List.eraseDupsBy` keeps the first of several entries that agree. The relation need not be an
equivalence: names are compared by their values and flows part by part. Both proofs follow the list
that is left once what agrees with its first entry is taken out.

> `exists_mem_eraseDupsBy`: every entry agrees with one that is kept.

Where it is an equivalence, the first entry of every class is kept (`mem_eraseDupsBy_iff`).
-/

namespace ChangeImpact

variable {α : Type}

/-- What is kept was there, in the same order. -/
theorem eraseDupsBy_sublist (r : α → α → Bool) (as : List α) : (as.eraseDupsBy r).Sublist as := by
  match as with
  | [] => exact List.Sublist.refl _
  | first :: rest =>
    rw [List.eraseDupsBy_cons]
    exact ((eraseDupsBy_sublist r _).trans List.filter_sublist).cons_cons first
termination_by as.length
decreasing_by exact Nat.lt_succ_of_le (List.length_filter_le ..)

/-- Every entry agrees with one that is kept. -/
theorem exists_mem_eraseDupsBy {r : α → α → Bool} (hrefl : ∀ a, r a a = true) {as : List α} {a : α}
    (h : a ∈ as) : ∃ kept ∈ as.eraseDupsBy r, r a kept = true := by
  match as with
  | [] => cases h
  | first :: rest =>
    rw [List.eraseDupsBy_cons]
    by_cases hfirst : r a first = true
    · exact ⟨first, List.mem_cons_self .., hfirst⟩
    · have hrest : a ∈ rest := by
        rcases List.mem_cons.mp h with rfl | hrest
        · exact absurd (hrefl a) hfirst
        · exact hrest
      have hleft : a ∈ rest.filter fun other => r other first = false :=
        List.mem_filter.mpr ⟨hrest, decide_eq_true (Bool.eq_false_iff.mpr hfirst)⟩
      obtain ⟨kept, hkept, hagrees⟩ := exists_mem_eraseDupsBy hrefl hleft
      exact ⟨kept, List.mem_cons_of_mem _ hkept, hagrees⟩
termination_by as.length
decreasing_by exact Nat.lt_succ_of_le (List.length_filter_le ..)

/-- What is kept of a list is found in what is kept of a larger one. -/
theorem contains_eraseDups_of_subset [BEq α] [ReflBEq α] {as bs : List α} (h : as ⊆ bs) {a : α}
    (ha : a ∈ as.eraseDups) : bs.eraseDups.contains a = true := by
  have hmem : a ∈ bs := h ((eraseDupsBy_sublist _ as).subset ha)
  obtain ⟨kept, hkept, heq⟩ := exists_mem_eraseDupsBy (r := (· == ·)) (fun _ => BEq.rfl) hmem
  exact List.contains_iff_exists_mem_beq.mpr ⟨kept, hkept, heq⟩

/-- What is kept of two lists is kept of the first one or stands in the second one. -/
theorem mem_eraseDupsBy_append {r : α → α → Bool} {as bs : List α} {a : α}
    (h : a ∈ (as ++ bs).eraseDupsBy r) : a ∈ as.eraseDupsBy r ∨ a ∈ bs := by
  match as with
  | [] => exact Or.inr ((eraseDupsBy_sublist r bs).subset h)
  | first :: rest =>
    rw [List.cons_append, List.eraseDupsBy_cons, List.filter_append] at h
    rw [List.eraseDupsBy_cons]
    rcases List.mem_cons.mp h with rfl | hrest
    · exact Or.inl (List.mem_cons_self ..)
    · rcases mem_eraseDupsBy_append hrest with hkept | hsecond
      · exact Or.inl (List.mem_cons_of_mem _ hkept)
      · exact Or.inr (List.mem_filter.mp hsecond).1
termination_by as.length
decreasing_by exact Nat.lt_succ_of_le (List.length_filter_le ..)

/-- Nothing that is kept agrees with anything kept before it. -/
theorem eraseDupsBy_pairwise (r : α → α → Bool) (as : List α) :
    (as.eraseDupsBy r).Pairwise fun a b => r b a = false := by
  match as with
  | [] => exact List.Pairwise.nil
  | first :: rest =>
    rw [List.eraseDupsBy_cons]
    refine List.pairwise_cons.mpr ⟨fun other hother => ?_, eraseDupsBy_pairwise r _⟩
    have hmem := (List.mem_filter.mp ((eraseDupsBy_sublist r _).subset hother)).2
    exact of_decide_eq_true hmem
termination_by as.length
decreasing_by exact Nat.lt_succ_of_le (List.length_filter_le ..)

/-- Everything is kept of a list without entries that agree. -/
theorem eraseDupsBy_eq_self {r : α → α → Bool} {as : List α}
    (h : as.Pairwise fun a b => r b a = false) : as.eraseDupsBy r = as := by
  induction as with
  | nil => rfl
  | cons first rest ih =>
    obtain ⟨hfirst, hrest⟩ := List.pairwise_cons.mp h
    rw [List.eraseDupsBy_cons, List.filter_eq_self.mpr fun b hb => decide_eq_true (hfirst b hb),
      ih hrest]

/-- What is kept of a list is kept of itself. -/
theorem eraseDups_eraseDups [BEq α] (as : List α) : as.eraseDups.eraseDups = as.eraseDups :=
  eraseDupsBy_eq_self (eraseDupsBy_pairwise _ as)

/-- Whether something is kept of a list is the same for what agrees, so that it does not matter when
the list is sifted. -/
theorem filter_eraseDups [BEq α] {p : α → Bool} (hp : ∀ a b, (a == b) = true → p a = p b)
    (as : List α) : as.eraseDups.filter p = (as.filter p).eraseDups := by
  match as with
  | [] => rfl
  | first :: rest =>
    have hrest : ((rest.filter fun b => !b == first).eraseDups).filter p =
        ((rest.filter fun b => !b == first).filter p).eraseDups := filter_eraseDups hp _
    have hcomm : (rest.filter fun b => !b == first).filter p =
        (rest.filter p).filter fun b => !b == first := by
      simp only [List.filter_filter, Bool.and_comm]
    rw [List.eraseDups_cons]
    cases hfirst : p first with
    | true =>
      rw [List.filter_cons_of_pos hfirst, List.filter_cons_of_pos hfirst, List.eraseDups_cons, hrest,
        hcomm]
    | false =>
      -- equals of a value that is filtered out are filtered out with it
      have hapart : (rest.filter p).filter (fun b => !b == first) = rest.filter p := by
        refine List.filter_eq_self.mpr fun b hb => ?_
        cases heq : b == first with
        | false => rfl
        | true =>
          have hkept := (List.mem_filter.mp hb).2
          rw [hp b first heq, hfirst] at hkept
          cases hkept
      rw [List.filter_cons_of_neg (by simp [hfirst]), List.filter_cons_of_neg (by simp [hfirst]), hrest,
        hcomm, hapart]
termination_by as.length
decreasing_by exact Nat.lt_succ_of_le (List.length_filter_le ..)

/-! ## One of each class

A relation that compares keys sorts the entries into classes, of each of which the first entry is kept. -/

section Classes

variable {κ : Type} {key : α → κ} {r : α → α → Bool}

/-- Kept is what is found first when its class is looked for. -/
theorem mem_eraseDupsBy_iff (hr : ∀ a b, r a b = true ↔ key a = key b) {as : List α} {a : α} :
    a ∈ as.eraseDupsBy r ↔ as.find? (r a) = some a := by
  match as with
  | [] => simp
  | first :: rest =>
    rw [List.eraseDupsBy_cons, List.mem_cons]
    have hrest : a ∈ (rest.filter fun other => r other first = false).eraseDupsBy r ↔
        (rest.filter fun other => r other first = false).find? (r a) = some a :=
      mem_eraseDupsBy_iff hr
    by_cases hfirst : r a first = true
    · -- of the class of the first entry nothing else is kept
      have hnot : a ∉ (rest.filter fun other => r other first = false).eraseDupsBy r := by
        intro hkept
        have hmem := (List.mem_filter.mp ((eraseDupsBy_sublist r _).subset hkept)).2
        rw [hfirst] at hmem
        cases hmem
      rw [List.find?_cons_of_pos hfirst, Option.some.injEq, or_iff_left hnot, eq_comm]
    · have hne : a ≠ first := fun heq => hfirst ((hr a first).mpr (congrArg key heq))
      rw [List.find?_cons_of_neg hfirst, or_iff_right hne, hrest, List.find?_filter]
      -- whatever is of the class of `a` is not of that of the first entry
      have hclass : (fun other => decide (decide (r other first = false) = true ∧ r a other = true)) =
          r a := by
        funext other
        by_cases hother : r a other = true
        · have hapart : r other first = false := by
            rw [Bool.eq_false_iff]
            intro heq
            exact hfirst ((hr a first).mpr (((hr a other).mp hother).trans ((hr other first).mp heq)))
          simp [hother, hapart]
        · simp [hother]
      rw [hclass]
termination_by as.length
decreasing_by exact Nat.lt_succ_of_le (List.length_filter_le ..)

/-- Nothing is kept twice. -/
theorem eraseDupsBy_nodup (hrefl : ∀ a, r a a = true) (as : List α) : (as.eraseDupsBy r).Nodup := by
  refine (eraseDupsBy_pairwise r as).imp ?_
  intro a b hne heq
  rw [heq, hrefl b] at hne
  cases hne

theorem eraseDups_nodup [BEq α] [ReflBEq α] (as : List α) : as.eraseDups.Nodup :=
  eraseDupsBy_nodup (fun _ => BEq.rfl) as

end Classes

/-! ## What occurs first -/

/-- What has been kept stays. -/
theorem reverse_prefix_eraseDupsBy_loop (r : α → α → Bool) (as kept : List α) :
    kept.reverse <+: List.eraseDupsBy.loop r as kept := by
  induction as generalizing kept with
  | nil => exact List.prefix_refl _
  | cons a as ih =>
    unfold List.eraseDupsBy.loop
    split
    · exact ih kept
    · have h := ih (a :: kept)
      rw [List.reverse_cons] at h
      exact (List.prefix_append _ _).trans h

/-- What is kept of a list is kept first of a longer one. -/
theorem eraseDupsBy_isPrefix (r : α → α → Bool) {as bs : List α} (h : as <+: bs) :
    as.eraseDupsBy r <+: bs.eraseDupsBy r := by
  obtain ⟨rest, rfl⟩ := h
  have hloop : ∀ kept, List.eraseDupsBy.loop r as kept <+:
      List.eraseDupsBy.loop r (as ++ rest) kept := by
    induction as with
    | nil => exact fun kept => reverse_prefix_eraseDupsBy_loop r rest kept
    | cons a as ih =>
      intro kept
      rw [List.cons_append]
      unfold List.eraseDupsBy.loop
      split
      · exact ih kept
      · exact ih (a :: kept)
  exact hloop []

/-- An added entry is kept if it is new. -/
theorem eraseDups_concat [BEq α] [LawfulBEq α] (as : List α) (a : α) :
    (as ++ [a]).eraseDups = if a ∈ as then as.eraseDups else as.eraseDups ++ [a] := by
  rw [List.eraseDups_append]
  split
  next hmet => simp [List.removeAll, hmet]
  next hnew => simp [List.removeAll, hnew, List.eraseDups_cons]

theorem eraseDups_isPrefix [BEq α] {as bs : List α} (h : as <+: bs) :
    as.eraseDups <+: bs.eraseDups :=
  eraseDupsBy_isPrefix _ h

end ChangeImpact

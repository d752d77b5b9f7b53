import ChangeImpact.Proofs.Reference.Changes
import ChangeImpact.Reference.Query

/-!
# Newest first

A row gets a number above all that are in use, so the numbers of the rows rise in the order of
insertion (`InOrder`), also when the last row was deleted and its number is used again. A query puts
rows in the order of their times and numbers, which is therefore the order of their times and, at
one time, the reverse of the order of insertion:

> `newest_newer`: of two rows, the one that comes first was created later or, at the same time,
> inserted later.

No change puts a table out of order: `inOrder_change` is the step, `run_inOrder` the run.
-/

namespace ChangeImpact

namespace ReferenceTable

/-- The numbers of the rows rise in the order of insertion. -/
def InOrder (table : ReferenceTable) : Prop :=
  table.rows.Pairwise fun a b => a.number < b.number

/-- The row `a` was created later than `b` or, at the same time, inserted later. -/
def Newer (table : ReferenceTable) (a b : Row) : Prop :=
  b.createdAt < a.createdAt ∨ (a.createdAt = b.createdAt ∧ [b, a].Sublist table.rows)

variable {table : ReferenceTable}

/-- Rows in order have different numbers. -/
theorem InOrder.numbers (h : table.InOrder) : (table.rows.map Row.number).Nodup :=
  List.pairwise_map.mpr (h.imp Nat.ne_of_lt)

/-- Of two rows, the one with the smaller number was inserted first. -/
theorem InOrder.inserted (h : table.InOrder) {a b : Row} (ha : a ∈ table.rows)
    (hb : b ∈ table.rows) (hlt : b.number < a.number) : [b, a].Sublist table.rows := by
  obtain ⟨rows⟩ := table
  change rows.Pairwise _ at h
  dsimp only at ha hb ⊢
  induction rows with
  | nil => cases ha
  | cons row rest ih =>
    obtain ⟨hrow, hrest⟩ := List.pairwise_cons.mp h
    rcases List.mem_cons.mp hb with rfl | hb'
    · rcases List.mem_cons.mp ha with rfl | ha'
      · exact absurd hlt (Nat.lt_irrefl _)
      · exact List.cons_sublist_cons.mpr (List.singleton_sublist.mpr ha')
    · rcases List.mem_cons.mp ha with rfl | ha'
      · exact absurd (hrow b hb') (Nat.lt_asymm hlt)
      · exact (ih ha' hb' hrest).cons row

/-! ## The order of a query -/

/-- The newest rows come first. -/
theorem newest_sorted (table : ReferenceTable) :
    table.newest.Pairwise fun a b => newerFirst a b = true := by
  refine List.pairwise_mergeSort ?_ ?_ table.rows
  · intro a b c hab hbc
    unfold newerFirst at hab hbc ⊢
    simp only [Bool.or_eq_true, Bool.and_eq_true, decide_eq_true_iff, beq_iff_eq] at hab hbc ⊢
    omega
  · intro a b
    unfold newerFirst
    simp only [Bool.or_eq_true, Bool.and_eq_true, decide_eq_true_iff, beq_iff_eq]
    omega

/-- Sorting loses no row and adds none. -/
theorem mem_newest {row : Row} : row ∈ table.newest ↔ row ∈ table.rows := List.mem_mergeSort

/-- Nor does it repeat one. -/
theorem newest_nodup (h : table.InOrder) : table.newest.Nodup :=
  (List.mergeSort_perm table.rows _).nodup_iff.mpr h.numbers.of_map

/-- **Newest first.** Rows are put in the order of their times, the last inserted first where times
agree. -/
theorem newest_newer (h : table.InOrder) : table.newest.Pairwise table.Newer := by
  refine (table.newest_sorted.and (newest_nodup h)).imp_of_mem ?_
  intro a b ha hb hboth
  obtain ⟨hfirst, hne⟩ := hboth
  unfold newerFirst at hfirst
  rcases Bool.or_eq_true_iff.mp hfirst with hlater | hsame
  · exact Or.inl (of_decide_eq_true hlater)
  · obtain ⟨htime, hnumber⟩ := Bool.and_eq_true_iff.mp hsame
    have ha := mem_newest.mp ha
    have hb := mem_newest.mp hb
    refine Or.inr ⟨eq_of_beq htime, h.inserted ha hb ?_⟩
    -- rows of one number are one row
    rcases Nat.lt_or_eq_of_le (of_decide_eq_true hnumber) with hlt | heq
    · exact hlt
    · exact absurd (List.inj_on_of_nodup_map h.numbers ha hb heq.symm) hne

/-- Where numbers and times rise in the order of insertion, newest first is that order reversed. -/
theorem newest_eq_reverse (horder : table.InOrder)
    (hrising : table.rows.Pairwise fun a b => a.createdAt ≤ b.createdAt) :
    table.newest = table.rows.reverse := by
  have hreversed : table.rows.reverse.Pairwise fun a b => newerFirst a b = true := by
    rw [List.pairwise_reverse]
    refine (horder.and hrising).imp fun {a b} hboth => ?_
    unfold newerFirst
    simp only [Bool.or_eq_true, Bool.and_eq_true, decide_eq_true_iff, beq_iff_eq]
    omega
  have hperm : table.newest.Perm table.rows.reverse :=
    (List.mergeSort_perm table.rows _).trans (List.reverse_perm _).symm
  refine hperm.eq_of_pairwise ?_ table.newest_sorted hreversed
  -- of two rows that each may come first, the numbers agree, and rows of one number are one row
  intro a b ha hb hab hba
  unfold newerFirst at hab hba
  simp only [Bool.or_eq_true, Bool.and_eq_true, decide_eq_true_iff, beq_iff_eq] at hab hba
  have ha := mem_newest.mp ha
  have hb := List.mem_reverse.mp hb
  exact List.inj_on_of_nodup_map horder.numbers ha hb (by omega)

/-! ## Tables stay in order -/

theorem inOrder_empty : InOrder .empty := List.Pairwise.nil

/-- The next number is higher than any in use. -/
theorem number_lt_next {row : Row} (h : row ∈ table.rows) : row.number < table.nextNumber := by
  have hmax : ∀ (numbers : List Nat) (start : Nat),
      start ≤ numbers.foldl max start ∧ ∀ n ∈ numbers, n ≤ numbers.foldl max start := by
    intro numbers
    induction numbers with
    | nil => intro start; exact ⟨Nat.le_refl _, List.forall_mem_nil _⟩
    | cons n rest ih =>
      intro start
      obtain ⟨hstart, hrest⟩ := ih (max start n)
      refine ⟨?_, List.forall_mem_cons.mpr ⟨?_, hrest⟩⟩
      · exact (Nat.le_max_left start n).trans hstart
      · exact (Nat.le_max_right start n).trans hstart
  exact Nat.lt_succ_of_le ((hmax _ 0).2 _ (List.mem_map_of_mem h))

/-- Rows stay in order when some are taken out. -/
theorem InOrder.erase (h : table.InOrder) (p : Row → Bool) : (table.erase p).InOrder :=
  h.sublist List.filter_sublist

/-- A further row has the next number. -/
theorem InOrder.append (h : table.InOrder) {row : Row} (hnumber : row.number = table.nextNumber) :
    InOrder ⟨table.rows ++ [row]⟩ := by
  refine List.pairwise_append.mpr ⟨h, List.pairwise_singleton _ _, ?_⟩
  intro a ha b hb
  rw [List.mem_singleton.mp hb, hnumber]
  exact number_lt_next ha

end ReferenceTable

namespace Store

open ReferenceTable

/-- **One change.** A table that is in order stays in order. -/
theorem inOrder_change [IdSource] {store after : Store} (h : Change store after) (ha : store.table.InOrder) :
    after.table.InOrder := by
  cases h with
  | use => exact ha
  | add hnumber hid => exact ha.append hnumber
  | erase p => exact ha.erase p
  | reopen => exact ha

/-- **A whole run.** After any actions the rows are numbered in the order of insertion. -/
theorem run_inOrder [IdSource] (creator : String) (actions : List Action) :
    (run creator actions).table.InOrder :=
  foldl_induction (P := fun store => store.table.InOrder) inOrder_change (fun _ h => h) inOrder_empty
    actions

end Store

end ChangeImpact

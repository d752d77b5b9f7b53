import ChangeImpact.Proofs.Reference.Filters
import ChangeImpact.Proofs.Reference.Order

/-!
# Page after page

Whoever asks for one page after the other, until a page is empty, has seen every reference that is
looked for, and each of them once: `Paged` is this reading, and

> `paged_exact`: what is read are the rows that meet the filter, newest first, as many as are
> counted.

A page is answered if its rows can be read, and the offset of a page is an integer of sixty-four
bits; so reading comes to an end unless a row cannot be read or there are more rows than such
offsets get through.
-/

namespace ChangeImpact

namespace FilterRequest

/-- An offset is taken if it fits into sixty-four bits. -/
theorem checkOffset_eq_ok {offset : Nat} :
    checkOffset (.int offset) = .ok () ↔ fitsWord offset = true := by
  unfold checkOffset
  rw [Checked.guardThat_eq_ok, Int.max_eq_left (Int.natCast_nonneg offset)]

/-- A limit that is not too large is taken as it is. -/
theorem rowCount_some {n most : Nat} (h : n ≤ most) : rowCount (some most) (.int n) = .ok n := by
  unfold rowCount
  dsimp only
  rw [Int.toNat_natCast, Nat.min_eq_left h]

/-- Where nothing bounds it, it only has to fit into sixty-four bits. -/
theorem rowCount_none {n : Nat} (h : fitsWord n = true) : rowCount none (.int n) = .ok n := by
  unfold rowCount
  dsimp only
  rw [Int.max_eq_left (Int.natCast_nonneg n), if_pos h, Int.toNat_natCast]

end FilterRequest

theorem fitsWord_iff {n : Nat} : fitsWord n = true ↔ n < 2 ^ 63 := by
  unfold fitsWord
  rw [Bool.and_eq_true, decide_eq_true_iff, decide_eq_true_iff]
  omega

namespace Store

/-- Reading page after page, of so many rows, gives these references from an offset on; the first
empty page is the last one. -/
inductive Paged (store : Store) (request : FilterRequest) (limit : Nat) :
    Nat → List Reference → Prop
  | last {offset : Nat} (h : store.query request (.int limit) (.int offset) = .ok []) :
    Paged store request limit offset []
  | next {offset : Nat} {page rest : List Reference}
    (h : store.query request (.int limit) (.int offset) = .ok page) (hpage : page ≠ [])
    (hrest : Paged store request limit (offset + limit) rest) :
    Paged store request limit offset (page ++ rest)

section

variable {store : Store} {f : TextFilter} {clause : Clause} {filter : Filter} {limit offset : Nat}
  (hopen : store.isOpen = true) (hclause : f.request.clause = .ok clause)
  (hbind : clause.bind = .ok filter)

include hopen hclause hbind

/-- A count is that of the matching rows. -/
theorem count_eq : store.count f.request = .ok (store.table.matching filter).length := by
  unfold count
  rw [hclause, Checked.ok_bind, needOpen_eq hopen, Checked.ok_bind, hbind]
  rfl

variable (hpos : 1 ≤ limit) (hmost : limit ≤ ReferenceTable.maxLimit)

include hpos hmost

/-- A page is answered if its offset fits and all its rows can be read. -/
theorem query_eq_ok {page : List Reference} :
    store.query f.request (.int limit) (.int offset) = .ok page ↔
      fitsWord offset = true ∧
        (((store.table.matching filter).drop offset).take limit).mapM Row.reference = .ok page := by
  have hrows : store.table.query filter limit offset =
      ((store.table.matching filter).drop offset).take limit := by
    unfold ReferenceTable.query
    rw [Nat.min_eq_left hmost]
  unfold query
  simp only [hclause, needOpen_eq hopen, hbind, FilterRequest.rowCount_some hmost, Json.needNumber,
    Checked.ok_bind]
  rw [if_neg (Nat.one_le_iff_ne_zero.mp hpos), Checked.bind_eq_ok]
  constructor
  · intro hgiven
    obtain ⟨⟨⟩, hcheck, hrest⟩ := hgiven
    have hfits := FilterRequest.checkOffset_eq_ok.mp hcheck
    rw [FilterRequest.rowCount_none hfits, Checked.ok_bind, hrows] at hrest
    exact ⟨hfits, hrest⟩
  · intro hgiven
    obtain ⟨hfits, hread⟩ := hgiven
    refine ⟨(), FilterRequest.checkOffset_eq_ok.mpr hfits, ?_⟩
    rw [FilterRequest.rowCount_none hfits, Checked.ok_bind, hrows, hread]

/-- What is read page after page is what the rows from the offset on answer. -/
theorem Paged.mapM_eq_ok {refs : List Reference} (h : store.Paged f.request limit offset refs) :
    ((store.table.matching filter).drop offset).mapM Row.reference = .ok refs := by
  induction h with
  | @last offset hquery =>
    obtain ⟨-, hread⟩ := (query_eq_ok hopen hclause hbind hpos hmost).mp hquery
    -- a page of at least one row is empty only behind the last row
    have hlength := (Checked.mapM_eq_ok.mp hread).length_eq
    rw [List.length_take, List.length_nil] at hlength
    have hnil : (store.table.matching filter).drop offset = [] :=
      List.eq_nil_of_length_eq_zero (by omega)
    rw [hnil]
    rfl
  | next hquery _ _ ih =>
    obtain ⟨-, hread⟩ := (query_eq_ok hopen hclause hbind hpos hmost).mp hquery
    rw [← List.drop_drop] at ih
    rw [← List.take_append_drop limit (List.drop _ _), Checked.mapM_eq_ok]
    exact List.rel_append (Checked.mapM_eq_ok.mp hread) (Checked.mapM_eq_ok.mp ih)

/-- Reading comes to an end if the rows from the offset on can be read and offsets do not become
too large. -/
theorem Paged.of_mapM {refs : List Reference}
    (hroom : (store.table.matching filter).length + limit ≤ 2 ^ 63)
    (hoffset : offset < (store.table.matching filter).length + limit)
    (hread : ((store.table.matching filter).drop offset).mapM Row.reference = .ok refs) :
    store.Paged f.request limit offset refs := by
  -- by the number of the rows that are left
  induction hleft : refs.length using Nat.strong_induction_on generalizing offset refs with
  | _ left ih =>
    have hall := Checked.mapM_eq_ok.mp hread
    have hlength := hall.length_eq
    rw [List.length_drop] at hlength
    have hpage : store.query f.request (.int limit) (.int offset) = .ok (refs.take limit) :=
      (query_eq_ok hopen hclause hbind hpos hmost).mpr
        ⟨fitsWord_iff.mpr (hoffset.trans_le hroom),
          Checked.mapM_eq_ok.mpr (List.forall₂_take limit hall)⟩
    by_cases hnil : refs = []
    · subst hnil
      rw [List.take_nil] at hpage
      exact .last hpage
    · have hsome := List.length_pos_iff.mpr hnil
      have hrest : store.Paged f.request limit (offset + limit) (refs.drop limit) := by
        refine ih (refs.drop limit).length ?_ (by omega) (Checked.mapM_eq_ok.mpr ?_) rfl
        · rw [List.length_drop]
          omega
        · rw [← List.drop_drop]
          exact List.forall₂_drop limit hall
      have hne : refs.take limit ≠ [] := by
        intro htake
        rcases List.take_eq_nil_iff.mp htake with hzero | hempty
        · omega
        · exact hnil hempty
      rw [← List.take_append_drop limit refs]
      exact .next hpage hne hrest

end

/-- **Page after page.** Of an open store, the references that are read page after page until a page
is empty are the rows that meet the filter, each of them once, newest first, as many as are counted.
Reading comes to an end if all of these rows can be read. -/
theorem paged_exact {store : Store} (hopen : store.isOpen = true) (horder : store.table.InOrder)
    (f : TextFilter) {limit : Nat} (hpos : 1 ≤ limit) (hmost : limit ≤ 500) :
    ∃ rows : List Row, rows.Nodup ∧ (∀ row, row ∈ rows ↔ row ∈ store.table.rows ∧ f.Meets row) ∧
      rows.Pairwise store.table.Newer ∧
      (∀ refs, store.Paged f.request limit 0 refs →
        rows.mapM Row.reference = .ok refs ∧ store.count f.request = .ok refs.length) ∧
      ((∀ row ∈ rows, ∃ ref, row.reference = .ok ref) → rows.length + limit ≤ 2 ^ 63 →
        ∃ refs, store.Paged f.request limit 0 refs) := by
  obtain ⟨clause, filter, hclause, hbind, haccepts⟩ := f.exists_bind
  have hkept : (store.table.matching filter).Sublist store.table.newest := List.filter_sublist
  refine ⟨store.table.matching filter, (ReferenceTable.newest_nodup horder).sublist hkept, ?_,
    (ReferenceTable.newest_newer horder).sublist hkept, ?_, ?_⟩
  · intro row
    unfold ReferenceTable.matching
    rw [List.mem_filter, ReferenceTable.mem_newest, haccepts]
  · intro refs hpaged
    have hread := hpaged.mapM_eq_ok hopen hclause hbind hpos hmost
    rw [List.drop_zero] at hread
    refine ⟨hread, ?_⟩
    rw [count_eq hopen hclause hbind, (Checked.mapM_eq_ok.mp hread).length_eq]
  · intro hreadable hroom
    obtain ⟨refs, hread⟩ := Checked.exists_mapM_eq_ok.mpr hreadable
    refine ⟨refs, Paged.of_mapM hopen hclause hbind hpos hmost hroom (by omega) ?_⟩
    rw [List.drop_zero]
    exact hread

/-- Three links of a task, two of them made at one time, and a link between others. -/
def threeLinks : List Action :=
  [.create ⟨⟨⟨"task", "T-1"⟩, ⟨"rule", "R-1"⟩, "governed_by"⟩, .null, none⟩, .clock 2000000,
    .create ⟨⟨⟨"task", "T-1"⟩, ⟨"task", "T-2"⟩, "blocks"⟩, .null, none⟩,
    .create ⟨⟨⟨"task", "T-2"⟩, ⟨"task", "T-3"⟩, "blocks"⟩, .null, none⟩,
    .create ⟨⟨⟨"note", "N-1"⟩, ⟨"task", "T-1"⟩, "about"⟩, .null, none⟩]

/-- What links the task `T-1`, on either side. -/
def aboutTask : TextFilter := ⟨none, none, none, none, some "task", some "T-1", .both, .any⟩

theorem paged_exact_threeLinks :
    (run "system" threeLinks).isOpen = true ∧ (run "system" threeLinks).table.InOrder ∧
      (1 ≤ 2 ∧ 2 ≤ 500) ∧ ∃ refs, (run "system" threeLinks).Paged aboutTask.request 2 0 refs ∧
        (run "system" threeLinks).count aboutTask.request = .ok refs.length ∧
        ∀ ref, ref ∈ refs ↔ ∃ row ∈ (run "system" threeLinks).table.rows,
          aboutTask.Meets row ∧ row.reference = .ok ref := by
  have hopen : (run "system" threeLinks).isOpen = true := by decide
  have horder : (run "system" threeLinks).table.InOrder := run_inOrder _ _
  have hpage : 1 ≤ 2 ∧ 2 ≤ 500 := by decide
  obtain ⟨rows, hnodup, hmem, -, hread, hends⟩ :=
    paged_exact hopen horder aboutTask hpage.1 hpage.2
  obtain ⟨name, hsound⟩ := @run_sound _ "system" threeLinks (by decide)
  have hreadable : ∀ row ∈ rows, ∃ ref, row.reference = .ok ref := by
    intro row hrow
    obtain ⟨ref, href, -⟩ := get_stored hsound ((hmem row).mp hrow).1
    exact ⟨ref, href⟩
  have hfew : rows.length ≤ 4 :=
    (List.subperm_of_subset hnodup fun row hrow => ((hmem row).mp hrow).1).length_le
  obtain ⟨refs, hpaged⟩ := hends hreadable (by omega)
  obtain ⟨hmap, hcount⟩ := hread refs hpaged
  refine ⟨hopen, horder, hpage, refs, hpaged, hcount, fun ref => ?_⟩
  rw [Checked.mem_mapM hmap]
  simp only [hmem, and_assoc]

end Store

end ChangeImpact

import ChangeImpact.Checklist.Generation

/-!
# Merging says the same

Merging the entries of a checklist loses none of what they say. Every entry stays in the sense that
there is one of its category and plain title that blocks if it does, and nothing is said that no
entry said before: `Covers` is this comparison of two checklists, and

> `deduplicate_covers`, `covers_deduplicate`: a list of entries and the list with equal ones merged
> cover each other.

So whoever wants to compare two generated checklists may compare the sections that they come from.
-/

namespace ChangeImpact.Checklist

/-- Every entry has one of the same key among the others, which blocks if it does. -/
def Covers (more items : List CheckItem) : Prop :=
  ∀ item ∈ items, ∃ other ∈ more, mergeKey other = mergeKey item ∧
    (item.blocks = true → other.blocks = true)

variable {a b c d : List CheckItem}

/-- What covers something covers all that is covered by it. -/
theorem Covers.trans (hab : Covers a b) (hbc : Covers b c) : Covers a c := by
  intro item hitem
  obtain ⟨middle, hmiddle, hkey, hblocks⟩ := hbc item hitem
  obtain ⟨other, hother, hkey', hblocks'⟩ := hab middle hmiddle
  exact ⟨other, hother, hkey'.trans hkey, fun h => hblocks' (hblocks h)⟩

/-- More entries cover fewer. -/
theorem covers_of_subset (h : b ⊆ a) : Covers a b :=
  fun item hitem => ⟨item, h hitem, rfl, id⟩

/-- Entries behind each other cover what each of them covers. -/
theorem Covers.append (hab : Covers a b) (hcd : Covers c d) : Covers (a ++ c) (b ++ d) := by
  intro item hitem
  rcases List.mem_append.mp hitem with hb | hd
  · obtain ⟨other, hother, h⟩ := hab item hb
    exact ⟨other, List.mem_append_left _ hother, h⟩
  · obtain ⟨other, hother, h⟩ := hcd item hd
    exact ⟨other, List.mem_append_right _ hother, h⟩

/-! ## One entry -/

/-- A merged entry keeps its key. -/
theorem mergeKey_merge {old new : CheckItem} (h : mergeKey old = mergeKey new) :
    mergeKey (merge old new) = mergeKey old := by
  unfold merge
  dsimp only
  split
  · exact h.symm
  · rfl

/-- Two entries as one block if one of them does. -/
theorem merge_blocks (old new : CheckItem) :
    (merge old new).blocks = (old.blocks || new.blocks) := by
  show (old.isBlocking.orElse new.isBlocking).truthy = _
  unfold Json.orElse CheckItem.blocks
  cases hold : old.isBlocking.truthy with
  | true => exact hold
  | false => rfl

/-- An added entry is covered, and so are those that were there before. -/
theorem addItem_covers (item : CheckItem) (kept : List CheckItem) :
    Covers (addItem item kept) (item :: kept) := by
  induction kept with
  | nil => exact covers_of_subset (List.Subset.refl _)
  | cons other rest ih =>
    unfold addItem
    split
    next hkey =>
      -- the merged entry stands for both
      have hmerged := mergeKey_merge hkey
      have hblocks := merge_blocks other item
      intro entry hentry
      rcases List.mem_cons.mp hentry with rfl | hentry
      · refine ⟨merge other entry, List.mem_cons_self .., hmerged.trans hkey, fun h => ?_⟩
        rw [hblocks, h, Bool.or_true]
      · rcases List.mem_cons.mp hentry with rfl | hrest
        · refine ⟨merge entry item, List.mem_cons_self .., hmerged, fun h => ?_⟩
          rw [hblocks, h, Bool.true_or]
        · exact ⟨entry, List.mem_cons_of_mem _ hrest, rfl, id⟩
    next =>
      intro entry hentry
      rcases List.mem_cons.mp hentry with rfl | hentry
      · obtain ⟨found, hfound, h⟩ := ih entry (List.mem_cons_self ..)
        exact ⟨found, List.mem_cons_of_mem _ hfound, h⟩
      · rcases List.mem_cons.mp hentry with rfl | hrest
        · exact ⟨entry, List.mem_cons_self .., rfl, id⟩
        · obtain ⟨found, hfound, h⟩ := ih entry (List.mem_cons_of_mem _ hrest)
          exact ⟨found, List.mem_cons_of_mem _ hfound, h⟩

/-- Adding an entry says nothing beyond it. -/
theorem covers_addItem (item : CheckItem) (kept : List CheckItem) :
    Covers (item :: kept) (addItem item kept) := by
  induction kept with
  | nil => exact covers_of_subset (List.Subset.refl _)
  | cons other rest ih =>
    unfold addItem
    split
    next hkey =>
      intro entry hentry
      rcases List.mem_cons.mp hentry with rfl | hrest
      · -- a merged entry blocks on behalf of the one or the other
        cases hblocks : other.blocks with
        | true =>
          exact ⟨other, by simp, (mergeKey_merge hkey).symm, fun _ => hblocks⟩
        | false =>
          refine ⟨item, List.mem_cons_self .., hkey ▸ (mergeKey_merge hkey).symm, fun h => ?_⟩
          rw [merge_blocks, hblocks, Bool.false_or] at h
          exact h
      · exact ⟨entry, by simp [hrest], rfl, id⟩
    next =>
      intro entry hentry
      rcases List.mem_cons.mp hentry with rfl | hrest
      · exact ⟨entry, by simp, rfl, id⟩
      · obtain ⟨found, hfound, h⟩ := ih entry hrest
        refine ⟨found, ?_, h⟩
        rcases List.mem_cons.mp hfound with rfl | hfound
        · exact List.mem_cons_self ..
        · exact List.mem_cons_of_mem _ (List.mem_cons_of_mem _ hfound)

/-! ## All entries -/

/-- Merging loses nothing. -/
theorem deduplicate_covers (items : List CheckItem) : Covers (deduplicate items) items := by
  have h : ∀ kept, Covers (items.foldl (fun kept item => addItem item kept) kept)
      (kept ++ items) := by
    induction items with
    | nil => intro kept; exact covers_of_subset (by simp)
    | cons item rest ih =>
      intro kept
      refine (ih (addItem item kept)).trans ?_
      refine ((addItem_covers item kept).append (covers_of_subset (List.Subset.refl rest))).trans ?_
      exact covers_of_subset (by simp)
  exact h []

/-- Merging adds nothing. -/
theorem covers_deduplicate (items : List CheckItem) : Covers items (deduplicate items) := by
  have h : ∀ kept, Covers (kept ++ items)
      (items.foldl (fun kept item => addItem item kept) kept) := by
    induction items with
    | nil => intro kept; exact covers_of_subset (by simp)
    | cons item rest ih =>
      intro kept
      refine Covers.trans ?_ (ih (addItem item kept))
      refine Covers.trans ?_
        ((covers_addItem item kept).append (covers_of_subset (List.Subset.refl rest)))
      exact covers_of_subset (by simp)
  exact h []

section

variable {settings : CheckSettings} {scope : Scope} {flows : List ImpactFlow} {risks : List Risk}

/-- An entry of a generated checklist is one that is kept, under its number. -/
theorem mem_generate {item : CheckItem} : item ∈ generate settings scope flows risks ↔
    ∃ (kept : CheckItem) (i : Nat),
      (deduplicate (sections settings scope flows risks))[i]? = some kept ∧
        item = { kept with id := s!"val-{i}" } := by
  unfold generate
  rw [List.mem_map]
  constructor
  · intro hgiven
    obtain ⟨⟨kept, i⟩, hnumbered, rfl⟩ := hgiven
    exact ⟨kept, i, List.mem_zipIdx_iff_getElem?.mp hnumbered, rfl⟩
  · intro hgiven
    obtain ⟨kept, i, hkept, rfl⟩ := hgiven
    exact ⟨(kept, i), List.mem_zipIdx_iff_getElem?.mpr hkept, rfl⟩

end

variable (settings : CheckSettings) (scope : Scope) (flows : List ImpactFlow) (risks : List Risk)

/-- A generated checklist says all that its sections say. -/
theorem generate_covers :
    Covers (generate settings scope flows risks) (sections settings scope flows risks) := by
  refine Covers.trans ?_ (deduplicate_covers _)
  intro item hitem
  obtain ⟨i, hi⟩ := List.mem_iff_getElem?.mp hitem
  exact ⟨_, mem_generate.mpr ⟨item, i, hi, rfl⟩, rfl, id⟩

/-- A generated checklist says nothing that its sections do not say. -/
theorem covers_generate :
    Covers (sections settings scope flows risks) (generate settings scope flows risks) := by
  refine Covers.trans (covers_deduplicate _) ?_
  intro item hitem
  obtain ⟨kept, i, hkept, rfl⟩ := mem_generate.mp hitem
  exact ⟨kept, List.mem_of_getElem? hkept, rfl, id⟩

end ChangeImpact.Checklist

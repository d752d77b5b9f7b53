import Mathlib.Data.List.Induction
import Mathlib.Data.List.Nodup
import ChangeImpact.Proofs.Checklist.Merging

/-!
# What stands for a group

Entries with one key form a group, of which a merged checklist keeps one entry. Merging goes from entry
to entry and never looks back, but what it keeps can be told from the group alone:

> `exists_isLongest_of_mem_deduplicate`: the entry kept for a group is, but for whether it blocks, the
> first one of the group that has the longest description.

Entries are merged one after the other, so the proof adds them at the end (`deduplicate_concat`). No two
entries that are kept have one key (`deduplicate_keys_nodup`); a further entry meets its whole group in
one of them, or opens a group.
-/

namespace ChangeImpact.Checklist

/-- The entries with a key. -/
def groupOf (key : CheckCategory × List Char) (items : List CheckItem) : List CheckItem :=
  items.filter fun item => mergeKey item = key

/-- The entry is the first one of its group that has the longest description. -/
def IsLongest (items : List CheckItem) (item : CheckItem) : Prop :=
  ∃ before after, groupOf (mergeKey item) items = before ++ item :: after ∧
    (∀ other ∈ before, other.description.length < item.description.length) ∧
    ∀ other ∈ after, other.description.length ≤ item.description.length

variable {items : List CheckItem} {item : CheckItem}

/-- The entries of a group are those with its key. -/
theorem mem_groupOf {key : CheckCategory × List Char} :
    item ∈ groupOf key items ↔ item ∈ items ∧ mergeKey item = key := by
  unfold groupOf
  rw [List.mem_filter, decide_eq_true_iff]

/-- Groups of entries behind each other stand behind each other. -/
theorem groupOf_append (key : CheckCategory × List Char) (items others : List CheckItem) :
    groupOf key (items ++ others) = groupOf key items ++ groupOf key others :=
  List.filter_append ..

/-- There is no group for a key that no entry has. -/
theorem groupOf_eq_nil {key : CheckCategory × List Char} (h : ∀ item ∈ items, mergeKey item ≠ key) :
    groupOf key items = [] :=
  List.filter_eq_nil_iff.mpr fun item hitem => by simpa using h item hitem

namespace IsLongest

/-- The longest entry of a group is one of the entries. -/
theorem mem (h : IsLongest items item) : item ∈ items := by
  obtain ⟨before, after, hgroup, -⟩ := h
  have hmem : item ∈ groupOf (mergeKey item) items := by
    rw [hgroup]
    exact List.mem_append_right _ (List.mem_cons_self ..)
  exact (mem_groupOf.mp hmem).1

/-- No entry with its key has a longer description. -/
theorem le (h : IsLongest items item) {other : CheckItem} (hother : other ∈ items)
    (hkey : mergeKey other = mergeKey item) :
    other.description.length ≤ item.description.length := by
  obtain ⟨before, after, hgroup, hbefore, hafter⟩ := h
  have hmem := mem_groupOf.mpr ⟨hother, hkey⟩
  rw [hgroup] at hmem
  rcases List.mem_append.mp hmem with hfirst | hrest
  · exact Nat.le_of_lt (hbefore other hfirst)
  · rcases List.mem_cons.mp hrest with rfl | hlater
    · exact Nat.le_refl _
    · exact hafter other hlater

/-- It stays the longest if no longer one of its group is added. -/
theorem concat (h : IsLongest items item) {new : CheckItem}
    (hnew : mergeKey new = mergeKey item → new.description.length ≤ item.description.length) :
    IsLongest (items ++ [new]) item := by
  obtain ⟨before, after, hgroup, hbefore, hafter⟩ := h
  refine ⟨before, after ++ groupOf (mergeKey item) [new], ?_, hbefore, ?_⟩
  · rw [groupOf_append, hgroup, List.append_assoc, List.cons_append]
  · intro other hother
    rcases List.mem_append.mp hother with hold | hlast
    · exact hafter other hold
    · obtain ⟨hmem, hkey⟩ := mem_groupOf.mp hlast
      obtain rfl := List.mem_singleton.mp hmem
      exact hnew hkey

/-- An added entry is the longest if all others of its group are shorter. -/
theorem last {new : CheckItem} (h : ∀ other ∈ items, mergeKey other = mergeKey new →
    other.description.length < new.description.length) : IsLongest (items ++ [new]) new := by
  refine ⟨groupOf (mergeKey new) items, [], ?_, ?_, ?_⟩
  · rw [groupOf_append]
    simp [groupOf]
  · intro other hother
    obtain ⟨hmem, hkey⟩ := mem_groupOf.mp hother
    exact h other hmem hkey
  · intro other hother
    cases hother

/-- Only the group matters. -/
theorem of_groupOf_eq (h : IsLongest items item) {others : List CheckItem}
    (heq : groupOf (mergeKey item) items = groupOf (mergeKey item) others) : IsLongest others item := by
  unfold IsLongest at h ⊢
  rwa [heq] at h

end IsLongest

/-! ## One more entry -/

/-- An entry is added with a key of its own, or leaves the keys as they are. -/
theorem addItem_keys (item : CheckItem) (kept : List CheckItem) :
    (addItem item kept).map mergeKey =
      if mergeKey item ∈ kept.map mergeKey then kept.map mergeKey
      else kept.map mergeKey ++ [mergeKey item] := by
  induction kept with
  | nil => rfl
  | cons other rest ih =>
    unfold addItem
    split
    next hkey => simp [mergeKey_merge hkey, hkey]
    next hkey =>
      rw [List.map_cons, ih, List.map_cons]
      by_cases hrest : mergeKey item ∈ rest.map mergeKey
      · rw [if_pos hrest, if_pos (List.mem_cons_of_mem _ hrest)]
      · have hnone : mergeKey item ∉ mergeKey other :: rest.map mergeKey := by
          rw [List.mem_cons, not_or]
          exact ⟨fun heq => hkey heq.symm, hrest⟩
        rw [if_neg hrest, if_neg hnone, List.cons_append]

/-- After adding an entry, every other group stands as it was; that of the entry is merged with it, or
is the entry alone. -/
theorem of_mem_addItem {kept : List CheckItem} (hkeys : (kept.map mergeKey).Nodup) {entry : CheckItem}
    (h : entry ∈ addItem item kept) :
    (entry ∈ kept ∧ mergeKey item ≠ mergeKey entry) ∨
      (∃ old ∈ kept, mergeKey old = mergeKey item ∧ entry = merge old item) ∨
      (entry = item ∧ ∀ other ∈ kept, mergeKey other ≠ mergeKey item) := by
  induction kept with
  | nil => exact Or.inr (Or.inr ⟨List.mem_singleton.mp h, fun other hother => by cases hother⟩)
  | cons other rest ih =>
    obtain ⟨hother, hrest⟩ := List.nodup_cons.mp hkeys
    unfold addItem at h
    split at h
    -- the item has the key of the first entry and is merged into it
    next hkey =>
      rcases List.mem_cons.mp h with rfl | hmem
      · exact Or.inr (Or.inl ⟨other, List.mem_cons_self .., hkey, rfl⟩)
      · -- no other entry has the key of the one that is merged
        refine Or.inl ⟨List.mem_cons_of_mem _ hmem, fun heq => hother ?_⟩
        rw [hkey, heq]
        exact List.mem_map_of_mem hmem
    next hkey =>
      rcases List.mem_cons.mp h with rfl | hmem
      · exact Or.inl ⟨List.mem_cons_self .., fun heq => hkey heq.symm⟩
      · rcases ih hrest hmem with ⟨hold, hne⟩ | ⟨old, hold, hsame⟩ | ⟨hnew, hnone⟩
        · exact Or.inl ⟨List.mem_cons_of_mem _ hold, hne⟩
        · exact Or.inr (Or.inl ⟨old, List.mem_cons_of_mem _ hold, hsame⟩)
        · refine Or.inr (Or.inr ⟨hnew, fun known hknown => ?_⟩)
          rcases List.mem_cons.mp hknown with rfl | hknown
          · exact hkey
          · exact hnone known hknown

/-! ## All entries -/

/-- One more entry is added to what the others were merged to. -/
theorem deduplicate_concat (items : List CheckItem) (item : CheckItem) :
    deduplicate (items ++ [item]) = addItem item (deduplicate items) :=
  List.foldl_concat ..

/-- Of every group one entry is kept. -/
theorem deduplicate_keys_nodup (items : List CheckItem) :
    ((deduplicate items).map mergeKey).Nodup := by
  induction items using List.reverseRecOn with
  | nil => exact List.nodup_nil
  | append_singleton items item ih =>
    rw [deduplicate_concat, addItem_keys]
    split
    next => exact ih
    next hnew => exact List.nodup_append.mpr ⟨ih, List.nodup_singleton _, by simpa using hnew⟩

/-- **The longest stands for the group.** What is kept of a group is the first of its entries with the
longest description, and may block on behalf of another one. -/
theorem exists_isLongest_of_mem_deduplicate {kept : CheckItem} (h : kept ∈ deduplicate items) :
    ∃ chosen, IsLongest items chosen ∧ kept = { chosen with isBlocking := kept.isBlocking } := by
  induction items using List.reverseRecOn generalizing kept with
  | nil => cases h
  | append_singleton items item ih =>
    rw [deduplicate_concat] at h
    rcases of_mem_addItem (deduplicate_keys_nodup items) h with
      ⟨hold, hne⟩ | ⟨old, hold, hkey, rfl⟩ | ⟨rfl, hnone⟩
    · obtain ⟨chosen, hlongest, hkept⟩ := ih hold
      rw [hkept] at hne
      exact ⟨chosen, hlongest.concat fun hkey => absurd hkey hne, hkept⟩
    · obtain ⟨chosen, hlongest, hchosen⟩ := ih hold
      have hlength : old.description.length = chosen.description.length := by rw [hchosen]
      have hchosenKey : mergeKey old = mergeKey chosen := by rw [hchosen]; rfl
      unfold merge
      dsimp only
      split
      next hlonger =>
        -- the new entry is longer than the longest one before
        refine ⟨item, IsLongest.last fun other hother hsame => ?_, rfl⟩
        have hle := hlongest.le hother (hsame.trans (hkey.symm.trans hchosenKey))
        omega
      next hnot =>
        refine ⟨chosen, hlongest.concat fun _ => by omega, ?_⟩
        rw [hchosen]
    · refine ⟨kept, IsLongest.last fun other hother hsame => ?_, rfl⟩
      -- a group that was there would have been kept
      obtain ⟨found, hfound, hfoundKey, -⟩ := deduplicate_covers items other hother
      exact absurd (hfoundKey.trans hsame) (hnone found hfound)

/-- The same holds of a generated checklist, whose entries are numbered. -/
theorem exists_isLongest_of_mem_generate {settings : CheckSettings} {scope : Scope}
    {flows : List ImpactFlow} {risks : List Risk} {item : CheckItem}
    (h : item ∈ generate settings scope flows risks) :
    ∃ chosen, IsLongest (sections settings scope flows risks) chosen ∧
      item = { chosen with id := item.id, isBlocking := item.isBlocking } := by
  obtain ⟨kept, i, hkept, rfl⟩ := mem_generate.mp h
  obtain ⟨chosen, hlongest, hchosen⟩ :=
    exists_isLongest_of_mem_deduplicate (List.mem_of_getElem? hkept)
  refine ⟨chosen, hlongest, ?_⟩
  dsimp only
  rw [hchosen]

end ChangeImpact.Checklist

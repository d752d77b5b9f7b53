import ChangeImpact.Proofs.Checklist.Groups
import ChangeImpact.Proofs.Distinct

/-!
# Every entry is represented

A merged checklist has one entry for each group, where the group began, and that entry speaks for the
whole group: it says what the first one of its longest descriptions says, and it blocks if any of them
does. So nothing that a section asks for is lost in the checklist that is made of it.

> `deduplicate_represents`: merging represents any entries group by group; of a generated checklist
> every entry that a section in use has built finds one that says at least as much and blocks if it
> does, and the entries are numbered in order.

What stands for a group has been shown beside its key (`exists_isLongest_of_mem_deduplicate`), and that
it blocks on behalf of the group follows from the two comparisons of a list with what is merged from it,
because no two entries that are kept have one key.
-/

namespace ChangeImpact.Checklist

/-- The kept entries stand for the groups of the given ones: one for each, in the order in which the
groups begin, with the first of the longest descriptions, and blocking if one of the group is. -/
structure Represents (kept items : List CheckItem) : Prop where
  groups : kept.map mergeKey = (items.map mergeKey).eraseDups
  longest : ∀ item ∈ kept, ∃ chosen, IsLongest items chosen ∧
    item = { chosen with isBlocking := item.isBlocking }
  blocks_iff : ∀ item ∈ kept, item.blocks = true ↔
    ∃ other ∈ items, mergeKey other = mergeKey item ∧ other.blocks = true

variable {settings : CheckSettings} {scope : Scope} {flows : List ImpactFlow} {risks : List Risk}

/-- A section that is in use has built the entry. -/
inductive IsBuilt (settings : CheckSettings) (scope : Scope) (flows : List ImpactFlow)
    (risks : List Risk) (item : CheckItem) : Prop
  | risk (h : item ∈ riskItems settings risks)
  | moduleTest (hon : settings.moduleTests = true) (h : item ∈ moduleItems settings scope)
  | flow (hon : settings.flowChecks = true) (h : item ∈ flowItems flows)
  | api (hon : settings.apiChecks = true) (h : item ∈ apiItems settings scope)

/-- The entry says at least as much as the other one under its key, and blocks if that does. -/
structure SpeaksFor (entry item : CheckItem) : Prop where
  key : mergeKey entry = mergeKey item
  length_le : item.description.length ≤ entry.description.length
  blocks : item.blocks = true → entry.blocks = true

/-! ## Groups -/

/-- The kept keys are the keys that are met, each at its first occurrence. -/
theorem deduplicate_keys (items : List CheckItem) :
    (deduplicate items).map mergeKey = (items.map mergeKey).eraseDups := by
  induction items using List.reverseRecOn with
  | nil => rfl
  | append_singleton items item ih =>
    rw [deduplicate_concat, addItem_keys, ih, List.map_append, List.map_singleton, eraseDups_concat]
    simp only [List.mem_eraseDups]

/-- What is kept of a group blocks exactly if one of the group does. -/
theorem blocks_iff_of_mem_deduplicate {items : List CheckItem} {item : CheckItem}
    (h : item ∈ deduplicate items) : item.blocks = true ↔
      ∃ other ∈ items, mergeKey other = mergeKey item ∧ other.blocks = true := by
  constructor
  · intro hblocks
    obtain ⟨other, hother, hkey, hsame⟩ := covers_deduplicate items item h
    exact ⟨other, hother, hkey, hsame hblocks⟩
  · intro hgiven
    obtain ⟨other, hother, hkey, hblocks⟩ := hgiven
    obtain ⟨entry, hentry, hsame, hblocks'⟩ := deduplicate_covers items other hother
    -- of the group only one entry is kept
    have hone : entry = item := List.inj_on_of_nodup_map (deduplicate_keys_nodup items) hentry h
      (hsame.trans hkey)
    exact hone ▸ hblocks' hblocks

/-! ## Generated checklists -/

/-- The entries that are built are those of the four sections. -/
theorem isBuilt_iff {item : CheckItem} :
    IsBuilt settings scope flows risks item ↔ item ∈ sections settings scope flows risks := by
  have hif : ∀ (on : Bool) (items : List CheckItem),
      item ∈ (if on then items else []) ↔ on = true ∧ item ∈ items := by
    intro on items
    cases on <;> simp
  unfold sections
  rw [List.mem_append, List.mem_append, List.mem_append, hif, hif, hif]
  constructor
  · intro hgiven
    cases hgiven with
    | risk h => exact Or.inl (Or.inl (Or.inl h))
    | moduleTest hon h => exact Or.inl (Or.inl (Or.inr ⟨hon, h⟩))
    | flow hon h => exact Or.inl (Or.inr ⟨hon, h⟩)
    | api hon h => exact Or.inr ⟨hon, h⟩
  · intro hgiven
    rcases hgiven with ((h | ⟨hon, h⟩) | ⟨hon, h⟩) | ⟨hon, h⟩
    · exact .risk h
    · exact .moduleTest hon h
    · exact .flow hon h
    · exact .api hon h

/-- An entry that has been built is spoken for in the checklist. -/
theorem exists_speaksFor {item : CheckItem} (h : IsBuilt settings scope flows risks item) :
    ∃ entry ∈ generate settings scope flows risks, SpeaksFor entry item := by
  have hitem := isBuilt_iff.mp h
  obtain ⟨entry, hentry, hkey, hblocks⟩ := generate_covers settings scope flows risks item hitem
  obtain ⟨chosen, hlongest, hchosen⟩ := exists_isLongest_of_mem_generate hentry
  have hsame : mergeKey entry = mergeKey chosen := by
    rw [hchosen]
    rfl
  have hlength : entry.description.length = chosen.description.length := by rw [hchosen]
  refine ⟨entry, hentry, hkey, ?_, hblocks⟩
  rw [hlength]
  exact hlongest.le hitem (hkey.symm.trans hsame)

/-- Entries are numbered in their order. -/
theorem generate_ids (settings : CheckSettings) (scope : Scope) (flows : List ImpactFlow)
    (risks : List Risk) : (generate settings scope flows risks).map CheckItem.id =
      (List.range (generate settings scope flows risks).length).map fun i => s!"val-{i}" := by
  unfold generate
  rw [List.length_map, List.length_zipIdx, List.range_eq_range', ← List.zipIdx_map_snd, List.map_map,
    List.map_map]
  rfl

/-- **Nothing is lost in merging.** Any entries are represented by what is kept of them, and every entry
that a section in use has built by one of the generated checklist, whose entries are numbered in
order. -/
theorem deduplicate_represents :
    (∀ items, Represents (deduplicate items) items) ∧
    ∀ (settings : CheckSettings) (scope : Scope) (flows : List ImpactFlow) (risks : List Risk),
      (∀ item, IsBuilt settings scope flows risks item →
        ∃ entry ∈ generate settings scope flows risks, SpeaksFor entry item) ∧
      (generate settings scope flows risks).map CheckItem.id =
        (List.range (generate settings scope flows risks).length).map fun i => s!"val-{i}" := by
  refine ⟨fun items => ⟨deduplicate_keys items, ?_, ?_⟩, fun settings scope flows risks => ⟨?_, ?_⟩⟩
  · exact fun item hitem => exists_isLongest_of_mem_deduplicate hitem
  · exact fun item hitem => blocks_iff_of_mem_deduplicate hitem
  · exact fun item hbuilt => exists_speaksFor hbuilt
  · exact generate_ids settings scope flows risks

/-- A review that a person makes. -/
def review (title description : String) (blocks : Bool) : CheckItem where
  id := ""
  title := title
  description := description
  category := .review
  status := .pending
  isBlocking := .bool blocks
  autoVerifiable := false
  verifyCommand := none
  expectedPattern := none
  riskId := .null
  flowId := .null
  moduleId := .null

/-- Five reviews of two things, in turns. -/
def reviews : List CheckItem :=
  [review "Check login" "by hand" false, review "Deploy" "twice" false,
    review "check-login!" "in a browser" false, review "deploy" "once" false,
    review "CHECK LOGIN" "on a machine" true]

/-- A change to a module on which another one depends. -/
def accounts : Scope where
  primaryModules := ["accounts"]
  primaryFiles := []
  dependentModules := [⟨"billing", "Billing", .known .direct, ["accounts"], "uses accounts"⟩]
  affectedFiles := []
  affectedEntities := []
  expansionDepth := 1

theorem deduplicate_represents_reviews :
    deduplicate reviews = [review "check-login!" "in a browser" true, review "Deploy" "twice" false] ∧
    Represents (deduplicate reviews) reviews ∧
    (∃ item, IsBuilt .standard accounts [] [] item ∧ item.verifyCommand = some "pytest tests/billing" ∧
      ∃ entry ∈ generate .standard accounts [] [], SpeaksFor entry item) ∧
    (generate .standard accounts [] []).map CheckItem.id = ["val-0", "val-1"] := by
  obtain ⟨hspoken, hids⟩ := deduplicate_represents.2 .standard accounts [] []
  have htest : ∃ item ∈ moduleItems .standard accounts,
      item.verifyCommand = some "pytest tests/billing" := by decide +kernel
  obtain ⟨item, hitem, hcommand⟩ := htest
  have hbuilt : IsBuilt .standard accounts [] [] item := .moduleTest rfl hitem
  refine ⟨by decide +kernel, deduplicate_represents.1 reviews,
    ⟨item, hbuilt, hcommand, hspoken item hbuilt⟩, hids.trans ?_⟩
  decide +kernel

end ChangeImpact.Checklist

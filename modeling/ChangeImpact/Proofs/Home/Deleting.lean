import ChangeImpact.Proofs.Home.Tidy

/-!
# Deleting a project

What is below a directory is removed one by one, in descending order. A location stands before everything
below it in ascending order, so that whatever is below an entry is gone when its turn comes, and no
directory is removed that is not empty. The invariant is that of a tree: every entry stands in a
directory (`IsOrderly`), which taking out an entry with nothing below it preserves.

> `removeEntries_descending`: what is below a directory is removed, and nothing else.
> `deleteProject_removesProject`: deleting a project that is listed removes its directory and everything
> below it, leaves every other entry and every other project, and a second time there is nothing to delete.
-/

namespace ChangeImpact

namespace FileTree

-- the order of lists is the core one, whatever else is imported
attribute [local instance (high)] List.instLE List.decidableLE

/-! ## Trees -/

/-- The entries make a tree that can be walked: every location is listed once and stands in a directory,
by plain names that are not too long, and its path is not too long either. -/
structure IsOrderly (tree : FileTree) : Prop where
  nodup : (tree.entries.map Prod.fst).Nodup
  rooted : ∀ listed ∈ tree.entries, listed.1 ≠ []
  parent : ∀ listed ∈ tree.entries, tree.entry? listed.1.dropLast = some .directory
  names : ∀ listed ∈ tree.entries, ∀ step ∈ listed.1, IsPlainName step ∧ checkName step = .ok ()
  path : ∀ listed ∈ tree.entries, checkPath listed.1 = .ok ()

/-- The tree without what is at a location and what is below it. -/
def without (tree : FileTree) (location : Location) : FileTree :=
  ⟨tree.entries.filter fun listed => ¬ location <+: listed.1⟩

variable {tree : FileTree} {location : Location} {listed : Location × Entry}

/-- No way leads below a location to what is elsewhere, or to itself. -/
theorem wayBelow?_eq_none {other : Location} :
    wayBelow? location other = none ↔ location <+: other → other = location := by
  rw [Option.eq_none_iff_forall_ne_some]
  constructor
  · rintro h ⟨way, rfl⟩
    by_cases hway : way = []
    · rw [hway, List.append_nil]
    · exact absurd (wayBelow?_eq_some.mpr ⟨rfl, hway⟩) (h way)
  · intro h way hbelow
    obtain ⟨rfl, hway⟩ := wayBelow?_eq_some.mp hbelow
    exact hway (List.append_right_eq_self.mp (h (List.prefix_append _ _)))

namespace IsOrderly

/-- What is listed is found. -/
theorem entry?_listed (h : tree.IsOrderly) (hlisted : listed ∈ tree.entries) :
    tree.entry? listed.1 = some listed.2 := by
  obtain ⟨entry, hfound⟩ := exists_entry?_of_mem hlisted
  have hmem := mem_of_entry_eq (h.rooted listed hlisted) hfound
  have hsame : (listed.1, entry) = listed := List.inj_on_of_nodup_map h.nodup hmem hlisted rfl
  rw [hfound, ← hsame]

/-- The way to a directory is open. -/
theorem isOpen (h : tree.IsOrderly) (hdirectory : tree.entry? location = some .directory) :
    IsOpen tree [] location := by
  induction location using List.reverseRecOn with
  | nil =>
    intro way hway
    rw [List.prefix_nil.mp hway]
    rfl
  | append_singleton front step ih =>
    have hlisted := mem_of_entry_eq (by simp) hdirectory
    have hparent := h.parent _ hlisted
    rw [List.dropLast_concat] at hparent
    intro way hway
    rcases List.prefix_concat_iff.mp hway with rfl | hshorter
    · exact hdirectory
    · exact ih hparent way hshorter

/-- The walk to it leads there. -/
theorem walk_listed (h : tree.IsOrderly) (hlisted : listed ∈ tree.entries) :
    tree.walk listed.1 = .ok listed.1 := by
  have hnames : ∀ step ∈ listed.1, LeadsDown step ∧ checkName step = .ok () := fun step hstep =>
    (h.names listed hlisted step hstep).imp_left IsPlainName.leadsDown
  have hpath := h.path listed hlisted
  have hopen := h.isOpen (h.parent listed hlisted)
  rw [← List.dropLast_append_getLast (h.rooted listed hlisted)] at hnames hpath ⊢
  obtain ⟨hfront, hlast⟩ := List.forall_mem_append.mp hnames
  exact walk_concat hfront (hlast _ (List.mem_singleton.mpr rfl)) hpath hopen

/-- It is found by walking as well. -/
theorem find?_listed (h : tree.IsOrderly) (hlisted : listed ∈ tree.entries) :
    tree.find? listed.1 = .ok (some listed) := by
  unfold find?
  rw [h.walk_listed hlisted]
  dsimp only
  rw [h.entry?_listed hlisted]
  rfl

/-- Taking out an entry with nothing below it leaves a tree. -/
theorem remove (h : tree.IsOrderly)
    (hleaf : ∀ other ∈ tree.entries, wayBelow? location other.1 = none) :
    (tree.remove location).IsOrderly where
  nodup := h.nodup.sublist (List.filter_sublist.map _)
  rooted := fun other hother => h.rooted other (mem_remove.mp hother).1
  parent := by
    intro other hother
    obtain ⟨hkept, -⟩ := mem_remove.mp hother
    rw [entry?_remove_of_ne]
    · exact h.parent other hkept
    · intro heq
      -- the entry would stand in the location
      have hbelow := List.dropLast_append_getLast (h.rooted other hkept)
      rw [heq] at hbelow
      have hway := wayBelow?_eq_some.mpr ⟨hbelow.symm, List.cons_ne_nil _ _⟩
      rw [hleaf other hkept] at hway
      cases hway
  names := fun other hother => h.names other (mem_remove.mp hother).1
  path := fun other hother => h.path other (mem_remove.mp hother).1

/-- An entry with nothing below it is removed. -/
theorem removeEntry_leaf (h : tree.IsOrderly) (hlisted : listed ∈ tree.entries)
    (hleaf : ∀ other ∈ tree.entries, wayBelow? listed.1 other.1 = none) :
    tree.removeEntry listed.1 = .ok (tree.remove listed.1) := by
  have hempty := isEmptyAt_of_nothingBelow hleaf
  unfold removeEntry
  rw [h.find?_listed hlisted, Checked.ok_bind]
  obtain ⟨at', entry⟩ := listed
  cases entry with
  | directory =>
    dsimp only at hempty ⊢
    rw [hempty]
    rfl
  | file => rfl
  | references => rfl

end IsOrderly

/-! ## From the inside -/

/-- The ways below a location lead to what is listed below it. -/
theorem mem_waysBelow {way : List String} : way ∈ tree.waysBelow location ↔
    ∃ listed ∈ tree.entries, wayBelow? location listed.1 = some way := by
  unfold waysBelow
  rw [(List.mergeSort_perm _ _).mem_iff, List.mem_filterMap]

/-- No way leads to two entries. -/
theorem IsOrderly.waysBelow_nodup (h : tree.IsOrderly) (location : Location) :
    (tree.waysBelow location).Nodup := by
  unfold waysBelow
  rw [(List.mergeSort_perm _ _).nodup_iff, ← Function.comp_def, ← List.filterMap_map]
  refine h.nodup.filterMap fun a b way ha hb => ?_
  rw [(wayBelow?_eq_some.mp ha).1, (wayBelow?_eq_some.mp hb).1]

/-- They are in descending order. -/
theorem waysBelow_descending (tree : FileTree) (location : Location) :
    (tree.waysBelow location).Pairwise fun a b => b ≤ a := by
  unfold waysBelow
  refine (List.pairwise_mergeSort ?_ ?_ _).imp fun hle => of_decide_eq_true hle
  · intro a b c hba hcb
    exact decide_eq_true (List.le_trans (of_decide_eq_true hcb) (of_decide_eq_true hba))
  · intro a b
    simpa using List.le_total b a

/-- **From the inside.** What is below a location, taken in descending order, is removed without a fault,
and nothing else is. -/
theorem removeEntries_descending {ways : List (List String)} (h : tree.IsOrderly)
    (hways : ∀ way, way ∈ ways ↔ ∃ listed ∈ tree.entries, wayBelow? location listed.1 = some way)
    (hnodup : ways.Nodup) (hdescending : ways.Pairwise fun a b => b ≤ a) :
    ∃ left, tree.removeEntries (ways.map fun way => location ++ way) = (left, .ok ()) ∧ left.IsOrderly ∧
      left.entries = tree.entries.filter fun listed => wayBelow? location listed.1 = none := by
  induction ways generalizing tree with
  | nil =>
    refine ⟨tree, rfl, h, (List.filter_eq_self.mpr fun listed hlisted => decide_eq_true ?_).symm⟩
    refine Option.eq_none_iff_forall_ne_some.mpr fun way hway => ?_
    exact List.not_mem_nil ((hways way).mpr ⟨listed, hlisted, hway⟩)
  | cons way ways ih =>
    obtain ⟨hnew, hnodup⟩ := List.nodup_cons.mp hnodup
    obtain ⟨hfirst, hdescending⟩ := List.pairwise_cons.mp hdescending
    obtain ⟨listed, hlisted, hway⟩ := (hways way).mp (List.mem_cons_self ..)
    obtain ⟨hat, hne⟩ := wayBelow?_eq_some.mp hway
    -- whatever is below the entry would come before it
    have hleaf : ∀ other ∈ tree.entries, wayBelow? listed.1 other.1 = none := by
      intro other hother
      refine Option.eq_none_iff_forall_ne_some.mpr fun rest hrest => ?_
      obtain ⟨hbelow, hrestne⟩ := wayBelow?_eq_some.mp hrest
      have hlonger : wayBelow? location other.1 = some (way ++ rest) :=
        wayBelow?_eq_some.mpr ⟨by rw [hbelow, hat, List.append_assoc], by simp [hne]⟩
      have hle : way ++ rest ≤ way := by
        rcases List.mem_cons.mp ((hways _).mpr ⟨other, hother, hlonger⟩) with hsame | hlater
        · rw [hsame]
          exact List.le_refl _
        · exact hfirst _ hlater
      exact hrestne (List.append_right_eq_self.mp (List.le_antisymm hle List.le_append_left))
    have hothers : ∀ other, other ∈ ways ↔
        ∃ listed' ∈ (tree.remove listed.1).entries, wayBelow? location listed'.1 = some other := by
      intro other
      constructor
      · intro hother
        obtain ⟨listed', hlisted', hother'⟩ := (hways other).mp (List.mem_cons_of_mem _ hother)
        refine ⟨listed', mem_remove.mpr ⟨hlisted', fun heq => hnew ?_⟩, hother'⟩
        rw [heq, hway, Option.some.injEq] at hother'
        exact hother' ▸ hother
      · rintro ⟨listed', hlisted', hother⟩
        obtain ⟨hkept, hapart⟩ := mem_remove.mp hlisted'
        rcases List.mem_cons.mp ((hways other).mpr ⟨listed', hkept, hother⟩) with rfl | hlater
        · exact absurd ((wayBelow?_eq_some.mp hother).1.trans hat.symm) hapart
        · exact hlater
    obtain ⟨left, hremoved, horderly, hleft⟩ := ih (h.remove hleaf) hothers hnodup hdescending
    refine ⟨left, ?_, horderly, ?_⟩
    · rw [List.map_cons, ← hat, removeEntries, h.removeEntry_leaf hlisted hleaf]
      exact hremoved
    · rw [hleft]
      unfold FileTree.remove
      rw [List.filter_filter]
      refine List.filter_congr fun other _ => ?_
      by_cases hsame : other.1 = listed.1
      · simp [hsame, hway]
      · simp [hsame]

/-- A directory is removed with everything below it. -/
theorem IsOrderly.removeTree_eq (h : tree.IsOrderly) (hlisted : (location, .directory) ∈ tree.entries) :
    tree.removeTree location = (tree.without location, .ok ()) ∧ (tree.without location).IsOrderly := by
  -- everything below is listed, and goes in descending order
  have hpaths : tree.pathsBelow location = (tree.waysBelow location).map fun way => location ++ way := by
    unfold pathsBelow
    rw [h.walk_listed hlisted]
    exact if_pos (h.entry?_listed hlisted)
  obtain ⟨left, hremoved, horderly, hleft⟩ := removeEntries_descending h (fun way => mem_waysBelow)
    (h.waysBelow_nodup location) (waysBelow_descending tree location)
  have hstill : (location, Entry.directory) ∈ left.entries := by
    rw [hleft]
    exact List.mem_filter.mpr ⟨hlisted, decide_eq_true (wayBelow?_eq_none.mpr fun _ => rfl)⟩
  have hleaf : ∀ other ∈ left.entries, wayBelow? location other.1 = none := by
    intro other hother
    rw [hleft] at hother
    exact of_decide_eq_true (List.mem_filter.mp hother).2
  -- what is then left without the directory itself is the tree without it
  have hwithout : left.remove location = tree.without location := by
    unfold FileTree.remove without
    rw [hleft, List.filter_filter]
    congr 1
    refine List.filter_congr fun other _ => ?_
    rw [Bool.eq_iff_iff]
    simp only [Bool.and_eq_true, decide_eq_true_iff, wayBelow?_eq_none]
    constructor
    · rintro ⟨hne, hbelow⟩ hprefix
      exact hne (hbelow hprefix)
    · intro hnot
      exact ⟨fun heq => hnot (heq ▸ List.prefix_refl _), fun hprefix => absurd hprefix hnot⟩
  have hlast : location.getLast? ≠ some ".." := fun hlast =>
    (h.names _ hlisted ".." (List.mem_of_getLast? hlast)).1.leadsDown.2 rfl
  have hdirectory := removeDirectory_of_nothingBelow (horderly.walk_listed hstill) hlast hleaf
    (horderly.entry?_listed hstill)
  constructor
  · unfold removeTree
    rw [hpaths, hremoved]
    dsimp only
    rw [hdirectory, hwithout]
  · exact hwithout ▸ horderly.remove hleaf

/-! ## What is left -/

/-- Everything elsewhere stays. -/
theorem entry?_without {other : Location} (h : ¬ location <+: other) :
    entry? (tree.without location) other = tree.entry? other := by
  by_cases hne : other = []
  · rw [hne]
    rfl
  · rw [entry?_of_ne_nil hne, entry?_of_ne_nil hne]
    unfold without
    rw [List.find?_filter]
    congr 2
    funext listed
    by_cases hother : listed.1 = other
    · simp [hother, h]
    · simp [hother]

/-- Nothing is left at a location or below it. -/
theorem entry?_without_eq_none {other : Location} (hne : location ≠ []) (h : location <+: other) :
    entry? (tree.without location) other = none := by
  have hother : other ≠ [] := fun hnil => hne (List.prefix_nil.mp (hnil ▸ h))
  rw [entry?_of_ne_nil hother, Option.map_eq_none_iff, List.find?_eq_none]
  intro listed hlisted heq
  have hapart := of_decide_eq_true (List.mem_filter.mp hlisted).2
  exact hapart (of_decide_eq_true heq ▸ h)

/-- Directories are listed in ascending order. -/
theorem directoriesIn_sorted (tree : FileTree) (location : Location) :
    (tree.directoriesIn location).Pairwise fun a b => a ≤ b := by
  unfold directoriesIn
  refine (List.pairwise_mergeSort ?_ ?_ _).imp fun hle => of_decide_eq_true hle
  · intro a b c hab hbc
    exact decide_eq_true (String.le_trans (of_decide_eq_true hab) (of_decide_eq_true hbc))
  · intro a b
    simpa using String.le_total a b

/-- Of the directories in the one above it, only the directory itself is missing. -/
theorem directoriesIn_without (tree : FileTree) (location : Location) (name : String) :
    (tree.without (location ++ [name])).directoriesIn location =
      (tree.directoriesIn location).filter (· ≠ name) := by
  refine List.Perm.eq_of_pairwise (fun _ _ _ _ => String.le_antisymm) (directoriesIn_sorted _ _)
    ((directoriesIn_sorted _ _).filter _) ?_
  unfold directoriesIn without
  refine (List.mergeSort_perm _ _).trans (.trans ?_ ((List.mergeSort_perm _ _).filter _).symm)
  rw [List.filterMap_filter, List.filter_filterMap]
  refine .of_eq (congrFun (congrArg _ ?_) _)
  funext listed
  cases hway : wayBelow? location listed.1 with
  | none => simp
  | some way =>
    obtain ⟨hbelow, -⟩ := wayBelow?_eq_some.mp hway
    simp only [hbelow, List.prefix_append_right_inj]
    -- only what is one step below and a directory is listed
    rcases way with _ | ⟨step, _ | ⟨next, rest⟩⟩
    · simp
    · by_cases hsame : step = name
      · cases listed.2 <;> simp [Option.filter, hsame]
      · cases listed.2 <;> simp [Option.filter, hsame, Ne.symm hsame]
    · simp

end FileTree

namespace Workspace

variable {w : Workspace} {name : String}

/-- The workspace without the directory of a project and what is below it. -/
def withoutProject (w : Workspace) (name : String) : Workspace :=
  { w with tree := w.tree.without (w.projectsPath ++ [name]) }

/-- Projects of an orderly tree have plain names. -/
theorem isPlainName_of_mem_projects (h : w.tree.IsOrderly) (hname : name ∈ w.projects) :
    IsPlainName name :=
  (h.names _ (mem_projects.mp hname) name (List.mem_append_right _ (List.mem_singleton.mpr rfl))).1

/-- A project that was deleted is not found any more. -/
theorem find?_withoutProject (h : w.tree.IsOrderly) (hname : name ∈ w.projects) :
    (w.withoutProject name).tree.find? (w.projectsPath ++ [name]) = .ok none := by
  have hlisted := mem_projects.mp hname
  obtain ⟨found, hfound⟩ := @FileTree.exists_find? (w.withoutProject name).tree _
    (fun step hstep => (h.names _ hlisted step hstep).2) (h.path _ hlisted)
  cases found with
  | none => exact hfound
  | some found =>
    obtain ⟨-, -, hentry⟩ := FileTree.find?_eq_some
      (fun step hstep => (h.names _ hlisted step hstep).1.leadsDown) hfound
    have hgone : FileTree.entry? (w.withoutProject name).tree (w.projectsPath ++ [name]) = none :=
      FileTree.entry?_without_eq_none (by simp) (List.prefix_refl _)
    rw [hgone] at hentry
    cases hentry

/-- **Deleting a project.** A project that is listed is deleted without a fault: its directory and what is
below it are gone, everything else is as it was, and so are the other projects. A second time there is
nothing to delete, and nothing changes.

An orderly tree has no names or paths that are too long for a file system, so that everything in it can
be found. How deep its directories lie is not bounded: they are listed without a limit. -/
theorem deleteProject_removesProject (h : w.tree.IsOrderly) (hname : name ∈ w.projects) :
    w.deleteProject name = (w.withoutProject name, .ok true) ∧
    (∀ location, w.projectsPath ++ [name] <+: location →
      FileTree.entry? (w.withoutProject name).tree location = none) ∧
    (∀ location, ¬ w.projectsPath ++ [name] <+: location →
      FileTree.entry? (w.withoutProject name).tree location = w.tree.entry? location) ∧
    (w.withoutProject name).projects = w.projects.filter (· ≠ name) ∧
    (w.withoutProject name).deleteProject name = (w.withoutProject name, .ok false) ∧
    (w.withoutProject name).tree.IsOrderly := by
  have hlisted := mem_projects.mp hname
  have hplain := isPlainName_of_mem_projects h hname
  obtain ⟨hremoved, horderly⟩ := h.removeTree_eq hlisted
  refine ⟨?_, fun _ => FileTree.entry?_without_eq_none (by simp), fun _ => FileTree.entry?_without,
    FileTree.directoriesIn_without _ _ _, ?_, horderly⟩
  · unfold deleteProject
    rw [projectPath_plain hplain]
    dsimp only
    rw [h.find?_listed hlisted]
    dsimp only
    rw [hremoved]
    rfl
  · have hpath : (w.withoutProject name).projectPath name = w.projectsPath ++ [name] :=
      projectPath_plain hplain _
    unfold deleteProject
    rw [hpath]
    dsimp only
    rw [find?_withoutProject h hname]

/-- A project with a store and a directory in a directory, beside entries whose names begin alike. -/
def cabinet : Workspace where
  tree := ⟨[(["h"], .directory), (["h", "memory"], .directory), (["h", "state.json"], .file "{}"),
    (["h", "memory", "a", "x", "y"], .directory), (["h", "memory", "ab", "x"], .file "kept"),
    (["h", "memory", "a"], .directory), (["h", "memory", "a", "references.db"], .references .empty),
    (["h", "memory", "a", "x"], .directory), (["h", "memory", "a", "x", "y", "z"], .file "deep"),
    (["h", "memory", "a", "x-1"], .file ""), (["h", "memory", "ab"], .directory)]⟩
  home := ["h"]
  current := []
  issuer := .start

theorem deleteProject_removesProject_cabinet :
    cabinet.tree.IsOrderly ∧ "a" ∈ cabinet.projects ∧
    cabinet.deleteProject "a" = (cabinet.withoutProject "a", .ok true) ∧
    (cabinet.withoutProject "a").tree.entries = [(["h"], .directory), (["h", "memory"], .directory),
      (["h", "state.json"], .file "{}"), (["h", "memory", "ab", "x"], .file "kept"),
      (["h", "memory", "ab"], .directory)] ∧
    (cabinet.withoutProject "a").projects = cabinet.projects.filter (· ≠ "a") ∧
    (cabinet.withoutProject "a").deleteProject "a" = (cabinet.withoutProject "a", .ok false) := by
  have horderly : cabinet.tree.IsOrderly :=
    ⟨by decide, by decide, by decide, by decide, by decide⟩
  have hname : "a" ∈ cabinet.projects := mem_projects.mpr (by decide)
  obtain ⟨hdeleted, -, -, hprojects, hagain, -⟩ := deleteProject_removesProject horderly hname
  exact ⟨horderly, hname, hdeleted, by decide, hprojects, hagain⟩

end Workspace

end ChangeImpact

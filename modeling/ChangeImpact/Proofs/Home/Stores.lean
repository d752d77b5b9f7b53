import ChangeImpact.Home.Configuration
import ChangeImpact.Proofs.Home.Tidy
import ChangeImpact.Proofs.Reference.Soundness

/-!
# The stores in a file tree

Stores are scattered over a file tree. Whatever makes, writes or removes directories and files brings
no store about (`FewerStores`): a store that is there afterwards was there before, with the same rows.
A store comes about only where one is used, at the end of a path whose last name is that of stores.

> `makeDirectory_fewer`, `writeFile_fewer`, `removeTree_fewer`: no store comes about;
> `makeDirectory_sameRows`: making directories leaves the rows of every store alone;
> `useStore_follows`, `useStore_sameRows`: using a store with care leaves sound stores behind, and a
> fault leaves the rows of every store alone.
-/

namespace ChangeImpact

namespace FileTree

variable {tree less least : FileTree} {location other : Location} {entry : Entry}

/-- There is a store at the location. -/
def HasStore (tree : FileTree) (location : Location) : Prop :=
  ∃ table, tree.entry? location = some (.references table)

/-- If there is a store at the location, it is sound. -/
def SoundAt (tree : FileTree) (location : Location) : Prop :=
  ∀ table, tree.entry? location = some (.references table) → table.IsSound

/-- The rows of the store at a location; none if there is no store. -/
def rowsAt (tree : FileTree) (location : Location) : List Row :=
  match tree.entry? location with
  | some (.references table) => table.rows
  | _ => []

/-- The rows at a store are those of its table. -/
theorem rowsAt_of_store {table : ReferenceTable}
    (h : tree.entry? location = some (.references table)) : tree.rowsAt location = table.rows := by
  unfold rowsAt
  rw [h]

/-- Where there is no store there are no rows. -/
theorem rowsAt_of_not_hasStore (h : ¬ tree.HasStore location) : tree.rowsAt location = [] := by
  unfold rowsAt
  split
  next table hfound => exact absurd ⟨table, hfound⟩ h
  next => rfl

/-- Where there is no store nothing is unsound. -/
theorem soundAt_of_not_hasStore (h : ¬ tree.HasStore location) : tree.SoundAt location :=
  fun table hfound => absurd ⟨table, hfound⟩ h

theorem not_hasStore_of_eq {found : Option Entry} (h : tree.entry? location = found)
    (hfound : ∀ table, found ≠ some (.references table)) : ¬ tree.HasStore location := by
  intro hgiven
  obtain ⟨table, hstore⟩ := hgiven
  exact hfound table (h.symm.trans hstore)

theorem not_hasStore_nil : ¬ tree.HasStore [] :=
  not_hasStore_of_eq (if_pos rfl) fun _ => by simp

/-! ## Fewer stores -/

/-- Every store of the second tree is one of the first, with the same rows. -/
def FewerStores (tree less : FileTree) : Prop :=
  ∀ location table, less.entry? location = some (.references table) →
    tree.entry? location = some (.references table)

theorem FewerStores.refl (tree : FileTree) : FewerStores tree tree := fun _ _ h => h

/-- Trees that get fewer stores step by step have fewer in the end. -/
theorem FewerStores.trans (h : FewerStores tree less) (hless : FewerStores less least) :
    FewerStores tree least := fun location table hfound => h location table (hless location table hfound)

theorem FewerStores.hasStore (h : FewerStores tree less) (hstore : less.HasStore location) :
    tree.HasStore location := hstore.imp fun table hfound => h location table hfound

/-- A store that stays is as sound as it was. -/
theorem FewerStores.soundAt (h : FewerStores tree less) (hsound : tree.SoundAt location) :
    less.SoundAt location := fun table hfound => hsound table (h location table hfound)

/-- Anything but a store is put somewhere. -/
theorem put_fewer (hentry : ∀ table, entry ≠ .references table) :
    FewerStores tree (tree.put location entry) := by
  intro other table hfound
  by_cases heq : other = location
  · subst heq
    by_cases hnil : other = []
    · subst hnil
      exact absurd ⟨table, hfound⟩ not_hasStore_nil
    · rw [entry?_put hnil, Option.some.injEq] at hfound
      exact absurd hfound (hentry table)
  · rwa [entry?_put_of_ne heq] at hfound

/-- Removing makes no store. -/
theorem remove_fewer : FewerStores tree (tree.remove location) := by
  intro other table hfound
  by_cases hnil : other = []
  · subst hnil
    exact absurd ⟨table, hfound⟩ not_hasStore_nil
  · have hne := (mem_remove.mp (mem_of_entry_eq hnil hfound)).2
    rwa [entry?_remove_of_ne hne] at hfound

/-- Writing a text makes no store, and overwrites the one in its place. -/
theorem writeFile_fewer {steps : List String} {text : String}
    (h : tree.writeFile steps text = .ok less) : FewerStores tree less := by
  obtain ⟨location, -, hput⟩ := Checked.bind_eq_ok.mp h
  split at hput
  next => cases hput
  next =>
    obtain rfl := Checked.pure_eq_ok.mp hput
    exact put_fewer fun _ => Entry.noConfusion

/-- Removing an entry makes no store. -/
theorem removeEntry_fewer {steps : List String} (h : tree.removeEntry steps = .ok less) :
    FewerStores tree less := by
  obtain ⟨found, -, h⟩ := Checked.bind_eq_ok.mp h
  split at h
  next =>
    obtain rfl := Checked.pure_eq_ok.mp h
    exact .refl tree
  next =>
    obtain ⟨⟨⟩, -, h⟩ := Checked.bind_eq_ok.mp h
    obtain rfl := Checked.pure_eq_ok.mp h
    exact remove_fewer
  next =>
    obtain rfl := Checked.pure_eq_ok.mp h
    exact remove_fewer

/-- Removing a directory makes no store. -/
theorem removeDirectory_fewer {steps : List String} (h : tree.removeDirectory steps = .ok less) :
    FewerStores tree less := by
  obtain ⟨location, -, h⟩ := Checked.bind_eq_ok.mp h
  split at h
  next => cases h
  next =>
    obtain ⟨⟨⟩, -, h⟩ := Checked.bind_eq_ok.mp h
    obtain rfl := Checked.pure_eq_ok.mp h
    exact remove_fewer
  next => cases h

/-- Removing entries makes no store, however far it gets. -/
theorem removeEntries_fewer (tree : FileTree) (paths : List (List String)) :
    FewerStores tree (tree.removeEntries paths).1 := by
  induction paths generalizing tree with
  | nil => exact .refl tree
  | cons steps rest ih =>
    unfold removeEntries
    split
    next hremoved => exact (removeEntry_fewer hremoved).trans (ih _)
    next => exact .refl tree

/-- A directory that is removed as far as that goes. -/
theorem removeTree_fewer (tree : FileTree) (steps : List String) :
    FewerStores tree (tree.removeTree steps).1 := by
  have hbelow := removeEntries_fewer tree (tree.pathsBelow steps)
  unfold removeTree
  split
  next hentries =>
    rw [hentries] at hbelow
    exact hbelow
  next hentries =>
    rw [hentries] at hbelow
    split
    next hremoved => exact hbelow.trans (removeDirectory_fewer hremoved)
    next => exact hbelow

/-! ## The same rows -/

/-- At every location there are the same rows. -/
def SameRows (tree other : FileTree) : Prop := ∀ location, other.rowsAt location = tree.rowsAt location

theorem SameRows.refl (tree : FileTree) : SameRows tree tree := fun _ => rfl

theorem SameRows.trans (h : SameRows tree less) (hless : SameRows less least) : SameRows tree least :=
  fun location => (hless location).trans (h location)

/-- Putting something elsewhere changes no row. -/
theorem rowsAt_put_of_ne (h : other ≠ location) :
    rowsAt (tree.put location entry) other = tree.rowsAt other := by
  unfold rowsAt
  rw [entry?_put_of_ne h]

/-- Anything but a store is put where there is no store. -/
theorem put_sameRows (hentry : ∀ table, entry ≠ .references table) (hnone : ¬ tree.HasStore location) :
    SameRows tree (tree.put location entry) := by
  intro other
  by_cases heq : other = location
  · subst heq
    rw [rowsAt_of_not_hasStore hnone,
      rowsAt_of_not_hasStore fun hstore => hnone ((put_fewer hentry).hasStore hstore)]
  · exact rowsAt_put_of_ne heq

/-- A store is put back with the rows that it had. -/
theorem put_references_sameRows {table : ReferenceTable} (hne : location ≠ [])
    (hrows : table.rows = tree.rowsAt location) :
    SameRows tree (tree.put location (.references table)) := by
  intro other
  by_cases heq : other = location
  · subst heq
    rw [rowsAt_of_store (entry?_put hne), hrows]
  · exact rowsAt_put_of_ne heq

/-! ## Making directories -/

/-- Directories are put where nothing was, so that stores and rows are as before. -/
theorem makeFrom_stores (tree : FileTree) (made : Bool) (here : Location) (steps : List String) :
    FewerStores tree (tree.makeFrom made here steps).1 ∧
      SameRows tree (tree.makeFrom made here steps).1 := by
  induction steps generalizing tree made here with
  | nil => exact ⟨.refl tree, .refl tree⟩
  | cons step steps ih =>
    unfold makeFrom
    split
    next => exact ⟨.refl tree, .refl tree⟩
    next => exact ih tree made _
    next _ hnone =>
      have hdirectory : ∀ table, Entry.directory ≠ .references table := fun _ => Entry.noConfusion
      have hfree : ¬ tree.HasStore (stepFrom here step) := not_hasStore_of_eq hnone (by simp)
      obtain ⟨hfewer, hrows⟩ := ih (tree.put (stepFrom here step) .directory) true (stepFrom here step)
      exact ⟨(put_fewer hdirectory).trans hfewer, (put_sameRows hdirectory hfree).trans hrows⟩
    next => exact ⟨.refl tree, .refl tree⟩

/-- Making directories leaves stores and rows as they were. -/
theorem makeDirectory_stores (tree : FileTree) (steps : List String) :
    FewerStores tree (tree.makeDirectory steps).1 ∧ SameRows tree (tree.makeDirectory steps).1 := by
  unfold makeDirectory
  split
  next => exact ⟨.refl tree, .refl tree⟩
  next =>
    split
    next => exact ⟨.refl tree, .refl tree⟩
    next => exact makeFrom_stores tree false [] steps

theorem makeDirectory_fewer (tree : FileTree) (steps : List String) :
    FewerStores tree (tree.makeDirectory steps).1 := (makeDirectory_stores tree steps).1

theorem makeDirectory_sameRows (tree : FileTree) (steps : List String) :
    SameRows tree (tree.makeDirectory steps).1 := (makeDirectory_stores tree steps).2

end FileTree

namespace Workspace

open FileTree (LeadsDown stepFrom stepFrom_eq HasStore SoundAt rowsAt FewerStores SameRows)

variable {α : Type} {w w' : Workspace} {tree : FileTree}

/-! ## Opening a store -/

/-- The name of every store. -/
def storeName : String := "references.db"

theorem leadsDown_storeName : LeadsDown storeName := ⟨by decide, by decide⟩

/-- However its directory is found, a store lies in it by its name. -/
theorem getLast?_of_locateFrom {here location : Location} {steps : List String} {name : String}
    (hname : LeadsDown name) (h : locateFrom tree here (steps ++ [name]) = some location) :
    location.getLast? = some name := by
  -- whichever way the walk takes, it ends by making the last step
  induction steps generalizing here with
  | nil =>
    rw [List.nil_append] at h
    unfold locateFrom at h
    rw [stepFrom_eq hname] at h
    dsimp only at h
    have hend : locateFrom tree (here ++ [name]) [] = some location →
        location.getLast? = some name := by
      intro hsome
      cases hsome
      exact List.getLast?_concat
    split at h
    next => exact hend h
    next =>
      split at h
      next => cases h
      next =>
        split at h
        next => exact hend h
        next => exact hend h
        next => cases h
  | cons step steps ih =>
    rw [List.cons_append] at h
    unfold locateFrom at h
    dsimp only at h
    split at h
    next => exact ih h
    next =>
      split at h
      next => cases h
      next =>
        split at h
        next => exact ih h
        next => exact ih h
        next => cases h

/-- **What is opened.** The table of the store at a location of its name, or an empty one where there
is no store. -/
theorem openTable_eq_ok {directory : List String} {location : Location} {table : ReferenceTable}
    (h : openTable tree directory = .ok (location, table)) :
    location.getLast? = some storeName ∧
      (tree.entry? location = some (.references table) ∨ ¬ tree.HasStore location ∧ table = .empty) := by
  unfold openTable at h
  dsimp only at h
  obtain ⟨⟨⟩, -, h⟩ := Checked.bind_eq_ok.mp h
  split at h
  next => cases h
  next found hlocate =>
    have hlast := getLast?_of_locateFrom leadsDown_storeName hlocate
    obtain ⟨⟨⟩, -, h⟩ := Checked.bind_eq_ok.mp h
    split at h
    next hnone =>
      cases h
      exact ⟨hlast, Or.inr ⟨FileTree.not_hasStore_of_eq hnone (by simp), rfl⟩⟩
    next hfound =>
      cases h
      exact ⟨hlast, Or.inl hfound⟩
    next hfile =>
      obtain ⟨⟨⟩, -, h⟩ := Checked.bind_eq_ok.mp h
      cases h
      exact ⟨hlast, Or.inr ⟨FileTree.not_hasStore_of_eq hfile (by simp), rfl⟩⟩
    next => cases h

/-- Of a sound store a sound table is opened. -/
theorem soundTable_of_openTable {directory : List String} {location : Location}
    {table : ReferenceTable} (h : openTable tree directory = .ok (location, table))
    (hsound : tree.SoundAt location) : table.IsSound := by
  rcases (openTable_eq_ok h).2 with hfound | ⟨-, rfl⟩
  · exact hsound table hfound
  · exact ReferenceTable.isSound_empty

/-- The rows that are opened are those of the store. -/
theorem rows_of_openTable {directory : List String} {location : Location}
    {table : ReferenceTable} (h : openTable tree directory = .ok (location, table)) :
    table.rows = tree.rowsAt location := by
  rcases (openTable_eq_ok h).2 with hfound | ⟨hnone, rfl⟩
  · exact (FileTree.rowsAt_of_store hfound).symm
  · exact (FileTree.rowsAt_of_not_hasStore hnone).symm

/-- No store is the root. -/
theorem location_ne_nil {directory : List String} {location : Location} {table : ReferenceTable}
    (h : openTable tree directory = .ok (location, table)) : location ≠ [] := by
  rintro rfl
  cases (openTable_eq_ok h).1

/-! ## From one workspace to another -/

/-- What happens to the stores of a workspace: the sound ones stay sound, and others come about only
by the name of stores. -/
structure Follows (w w' : Workspace) : Prop where
  home : w'.home = w.home
  sound : ∀ location, w.tree.SoundAt location → w'.tree.SoundAt location
  named : ∀ location, w'.tree.HasStore location →
    w.tree.HasStore location ∨ location.getLast? = some storeName

theorem Follows.refl (w : Workspace) : Follows w w := ⟨rfl, fun _ h => h, fun _ h => Or.inl h⟩

/-- Soundness is kept step by step. -/
theorem Follows.trans {last : Workspace} (h : Follows w w') (hlast : Follows w' last) :
    Follows w last where
  home := hlast.home.trans h.home
  sound := fun location hsound => hlast.sound location (h.sound location hsound)
  named := by
    intro location hstore
    rcases hlast.named location hstore with hstore | hname
    · exact h.named location hstore
    · exact Or.inr hname

/-- A workspace without new stores follows. -/
theorem FewerStores.follows (hfewer : FewerStores w.tree w'.tree) (hhome : w'.home = w.home) :
    Follows w w' :=
  ⟨hhome, fun _ => hfewer.soundAt, fun _ hstore => Or.inl (hfewer.hasStore hstore)⟩

/-- Files can be kept in the home directory, and there is no store where the settings are kept. -/
structure IsSettled (w : Workspace) : Prop extends HasHome w where
  configuration : ¬ w.tree.HasStore w.configurationPath

/-- A settled workspace stays settled. -/
theorem Follows.isSettled (h : Follows w w') (hw : IsSettled w) : IsSettled w' where
  steps := h.home ▸ hw.steps
  path := by
    have hpath := hw.path
    unfold statePath at hpath ⊢
    rwa [h.home]
  configuration := by
    intro hstore
    rcases h.named _ hstore with hbefore | hname
    · refine hw.configuration ?_
      unfold configurationPath at hbefore ⊢
      rwa [h.home] at hbefore
    · unfold configurationPath storeName at hname
      rw [List.getLast?_concat] at hname
      exact absurd hname (by decide)

/-- Making directories keeps stores sound. -/
theorem makeDirectory_follows (w : Workspace) (steps : List String) :
    Follows w (w.makeDirectory steps).1 :=
  FewerStores.follows (FileTree.makeDirectory_fewer w.tree steps) rfl

/-- So does making one that has to be there, and no row changes. -/
theorem withDirectory_eq_ok {steps : List String} (h : w.withDirectory steps = .ok w') :
    Follows w w' ∧ SameRows w.tree w'.tree := by
  obtain ⟨⟨⟩, -, rfl⟩ := Checked.map_eq_ok.mp h
  exact ⟨makeDirectory_follows w steps, FileTree.makeDirectory_sameRows w.tree steps⟩

/-- Writing a file keeps the other stores sound. -/
theorem writeFile_follows {steps : List String} {text : String}
    (h : w.writeFile steps text = .ok w') : Follows w w' := by
  obtain ⟨tree, htree, heq⟩ := Checked.bind_eq_ok.mp h
  obtain rfl := Checked.pure_eq_ok.mp heq
  exact FewerStores.follows (FileTree.writeFile_fewer htree) rfl

/-- So does pointing at a project. -/
theorem activate_follows {active : Json} (h : w.activate active = .ok w') : Follows w w' := by
  obtain ⟨_, hhome, hwrite⟩ := Checked.bind_eq_ok.mp h
  exact (withDirectory_eq_ok hhome).1.trans (writeFile_follows hwrite)

/-- So does deleting one, whether it works or not. -/
theorem deleteProject_follows (w : Workspace) (name : String) :
    Follows w (w.deleteProject name).1 := by
  unfold deleteProject
  dsimp only
  split
  next => exact .refl w
  next => exact .refl w
  next => exact FewerStores.follows (FileTree.removeTree_fewer w.tree _) rfl

/-! ## Using a store -/

variable {directory : List String} {creator : Name} {use : Store → Store × Checked α}

/-- **A careful use.** Using a store carefully keeps it sound, and the others are not touched. -/
theorem useStore_follows (huse : Store.IsCareful use) :
    Follows w (w.useStore directory creator use).1 := by
  unfold useStore
  split
  next => exact .refl w
  next location table hopen =>
    refine ⟨rfl, fun other hsound => ?_, fun other hstore => ?_⟩
    · intro found hfound
      -- only the location that was opened changes
      by_cases heq : other = location
      · subst heq
        have hput := hfound
        dsimp only at hput
        rw [FileTree.entry?_put (location_ne_nil hopen), Option.some.injEq, Entry.references.injEq] at hput
        rw [← hput]
        exact huse.sound _ (soundTable_of_openTable hopen hsound)
      · dsimp only at hfound
        rw [FileTree.entry?_put_of_ne heq] at hfound
        exact hsound found hfound
    · by_cases heq : other = location
      · subst heq
        exact Or.inr (openTable_eq_ok hopen).1
      · obtain ⟨found, hfound⟩ := hstore
        dsimp only at hfound
        rw [FileTree.entry?_put_of_ne heq] at hfound
        exact Or.inl ⟨found, hfound⟩

/-- A store is put back as it was if there is a fault; one that was not there is then empty. -/
theorem useStore_sameRows (huse : Store.IsCareful use) {fault : Fault}
    (hfault : (w.useStore directory creator use).2 = .error fault) :
    SameRows w.tree (w.useStore directory creator use).1.tree := by
  unfold useStore at hfault ⊢
  split at hfault
  next => exact .refl w.tree
  next location table hopen =>
    have hsame := huse.refused _ fault hfault
    refine FileTree.put_references_sameRows (location_ne_nil hopen) ?_
    rw [hsame]
    exact rows_of_openTable hopen

/-! ## Storing settings -/

/-- Saving settings writes a file. -/
theorem saveSettings_follows [Toml.Package] (w : Workspace) (settings : StoredSettings) :
    Follows w (w.saveSettings settings).1 := by
  unfold saveSettings
  split
  next => exact .refl w
  next w' hhome =>
    have hmade := (withDirectory_eq_ok hhome).1
    dsimp only
    split
    next => exact hmade
    next hwrite => exact hmade.trans (writeFile_follows hwrite)

/-- The file of the settings may have been emptied before a fault, but it is no store. -/
theorem IsSettled.saveSettings_sameRows [Toml.Package] (hw : IsSettled w) (settings : StoredSettings) :
    SameRows w.tree (w.saveSettings settings).1.tree := by
  unfold saveSettings
  split
  next => exact .refl w.tree
  next w' hhome =>
    obtain ⟨hmade, hrows⟩ := withDirectory_eq_ok hhome
    have hsettled := hmade.isSettled hw
    dsimp only
    split
    next => exact hrows
    next hwrite =>
      have hsteps : ∀ step ∈ w'.configurationPath, LeadsDown step :=
        List.forall_mem_append.mpr ⟨hsettled.leadsDown,
          List.forall_mem_singleton.mpr ⟨by decide, by decide⟩⟩
      obtain rfl := writeFile_eq_ok hsteps hwrite
      exact hrows.trans (FileTree.put_sameRows (fun _ => Entry.noConfusion) hsettled.configuration)

/-- Changing them saves them or nothing. -/
theorem changeSettings_follows [Toml.Package] (w : Workspace) (changed : Checked StoredSettings) :
    Follows w (w.changeSettings changed).1 := by
  unfold changeSettings
  split
  next => exact .refl w
  next settings => exact saveSettings_follows w settings

/-- No row is lost if the file is not in the place of a store. -/
theorem IsSettled.changeSettings_sameRows [Toml.Package] (hw : IsSettled w)
    (changed : Checked StoredSettings) :
    SameRows w.tree (w.changeSettings changed).1.tree := by
  unfold changeSettings
  split
  next => exact .refl w.tree
  next settings => exact hw.saveSettings_sameRows settings

end Workspace

end ChangeImpact

import Mathlib.Data.List.Basic
import ChangeImpact.Home.FileTree
import ChangeImpact.Proofs.Checked

/-!
# Walking, making and removing directories

A path of plain names leads straight down: where it leads is the path itself, and it leads there if
there is a directory at every step. Making the directory of such a path adds directories on the way
to it and changes nothing else (`Grows`), and afterwards the way is open (`IsOpen`). Removing a
directory with nothing below it removes that one entry.

> `makeDirectory_grows`, `isOpen_makeDirectory`: what is there after a directory was made.
> `removeTree_of_nothingBelow`: what is there after a directory was removed.
-/

namespace ChangeImpact.FileTree

variable {tree more : FileTree} {location other : Location} {entry : Entry}
  {listed : Location × Entry}

/-! ## One entry -/

/-- What is put somewhere takes the place of what was there. -/
theorem mem_put : listed ∈ (tree.put location entry).entries ↔
    listed = (location, entry) ∨ listed ∈ tree.entries ∧ listed.1 ≠ location := by
  unfold put
  rw [List.mem_cons, List.mem_filter, decide_eq_true_iff]

/-- What is removed is what is listed under the location. -/
theorem mem_remove : listed ∈ (tree.remove location).entries ↔
    listed ∈ tree.entries ∧ listed.1 ≠ location := by
  unfold remove
  rw [List.mem_filter, decide_eq_true_iff]

theorem entry?_of_ne_nil (h : location ≠ []) : tree.entry? location =
    (tree.entries.find? fun listed => listed.1 = location).map Prod.snd := if_neg h

/-- What is found below the root is listed. -/
theorem mem_of_entry_eq (hne : location ≠ []) (h : tree.entry? location = some entry) :
    (location, entry) ∈ tree.entries := by
  rw [entry?_of_ne_nil hne] at h
  obtain ⟨listed, hfound, rfl⟩ := Option.map_eq_some_iff.mp h
  have hlocation := List.find?_some hfound
  rw [← of_decide_eq_true hlocation]
  exact List.mem_of_find?_eq_some hfound

/-- Where nothing is found nothing is listed. -/
theorem not_mem_of_entry_eq_none (hne : location ≠ []) (h : tree.entry? location = none) :
    ∀ listed ∈ tree.entries, listed.1 ≠ location := by
  intro listed hlisted heq
  rw [entry?_of_ne_nil hne, Option.map_eq_none_iff, List.find?_eq_none] at h
  exact h listed hlisted (decide_eq_true heq)

/-- Where something is listed something is found. -/
theorem exists_entry?_of_mem (h : listed ∈ tree.entries) : ∃ entry, tree.entry? listed.1 = some entry := by
  by_cases hne : listed.1 = []
  · rw [hne]
    exact ⟨.directory, rfl⟩
  · refine Option.ne_none_iff_exists'.mp fun hnone => ?_
    exact not_mem_of_entry_eq_none hne hnone listed h rfl

theorem find?_filter_ne (h : other ≠ location) :
    ((tree.entries.filter fun listed => listed.1 ≠ location).find? fun listed => listed.1 = other) =
      tree.entries.find? fun listed => listed.1 = other := by
  rw [List.find?_filter]
  congr 1
  funext listed
  by_cases heq : listed.1 = other
  · simp [heq, h]
  · simp [heq]

/-- What is put somewhere is found there. -/
theorem entry?_put (hne : location ≠ []) :
    entry? (tree.put location entry) location = some entry := by
  rw [entry?_of_ne_nil hne]
  unfold put
  rw [List.find?_cons_of_pos (by simp)]
  rfl

/-- Elsewhere there is what was there before. -/
theorem entry?_put_of_ne (h : other ≠ location) :
    entry? (tree.put location entry) other = tree.entry? other := by
  unfold entry? put
  rw [List.find?_cons_of_neg (by simpa using h.symm), find?_filter_ne h]

/-- Removing changes nothing elsewhere either. -/
theorem entry?_remove_of_ne (h : other ≠ location) :
    entry? (tree.remove location) other = tree.entry? other := by
  unfold entry? remove
  rw [find?_filter_ne h]

/-! ## What is below a location -/

/-- A way leads from a location to one below it. -/
theorem wayBelow?_eq_some {way : List String} :
    wayBelow? location other = some way ↔ other = location ++ way ∧ way ≠ [] := by
  unfold wayBelow?
  constructor
  · intro h
    split at h
    next hbelow =>
      obtain ⟨hstarts, hlength⟩ := Bool.and_eq_true_iff.mp hbelow
      obtain ⟨rest, rfl⟩ := List.isPrefixOf_iff_prefix.mp hstarts
      rw [List.drop_left, Option.some.injEq] at h
      subst h
      refine ⟨rfl, fun hnil => ?_⟩
      rw [hnil, List.append_nil] at hlength
      exact absurd (of_decide_eq_true hlength) (Nat.lt_irrefl _)
    next => cases h
  · intro hgiven
    obtain ⟨rfl, hne⟩ := hgiven
    have hlength := List.length_pos_of_ne_nil hne
    rw [if_pos]
    · rw [List.drop_left]
    · rw [Bool.and_eq_true_iff, List.isPrefixOf_iff_prefix, decide_eq_true_iff, List.length_append]
      exact ⟨List.prefix_append _ _, by omega⟩

/-- The directories in a directory are those that are listed there. -/
theorem mem_directoriesIn {name : String} :
    name ∈ tree.directoriesIn location ↔ (location ++ [name], Entry.directory) ∈ tree.entries := by
  unfold directoriesIn
  rw [(List.mergeSort_perm _ _).mem_iff, List.mem_filterMap]
  constructor
  · intro hgiven
    obtain ⟨⟨at', found⟩, hlisted, hname⟩ := hgiven
    split at hname
    next way hway hdirectory =>
      rw [Option.some.injEq] at hname
      subst hname
      obtain ⟨rfl, -⟩ := wayBelow?_eq_some.mp hway
      cases hdirectory
      exact hlisted
    next => cases hname
  · intro h
    refine ⟨_, h, ?_⟩
    have hway : wayBelow? location (location ++ [name]) = some [name] :=
      wayBelow?_eq_some.mpr ⟨rfl, List.cons_ne_nil _ _⟩
    simp only [hway]

/-! ## Walking -/

/-- There is a directory at every step of a way. -/
def IsOpen (tree : FileTree) (here : Location) (steps : List String) : Prop :=
  ∀ way, way <+: steps → tree.entry? (here ++ way) = some .directory

/-- The step leads further down. -/
def LeadsDown (step : String) : Prop := step ≠ "." ∧ step ≠ ".."

instance (step : String) : Decidable (LeadsDown step) := inferInstanceAs (Decidable (_ ∧ _))

/-- A step that leads down goes on by its name. -/
theorem stepFrom_eq {step : String} (h : LeadsDown step) (here : Location) :
    stepFrom here step = here ++ [step] := by
  unfold stepFrom
  rw [if_neg h.2, if_neg h.1]

/-- A way is open if it starts in a directory and goes on openly. -/
theorem isOpen_cons {here : Location} {step : String} {steps : List String} :
    IsOpen tree here (step :: steps) ↔
      tree.entry? here = some .directory ∧ IsOpen tree (here ++ [step]) steps := by
  constructor
  · intro h
    refine ⟨by simpa using h [] (List.nil_prefix ..), fun way hway => ?_⟩
    rw [List.append_assoc]
    exact h _ (List.cons_prefix_cons.mpr ⟨rfl, hway⟩)
  · intro hgiven way hway
    obtain ⟨hhere, hsteps⟩ := hgiven
    rcases List.prefix_cons_iff.mp hway with rfl | ⟨rest, rfl, hrest⟩
    · simpa using hhere
    · simpa using hsteps rest hrest

/-- Any first part of an open way is open. -/
theorem IsOpen.left {here : Location} {steps rest : List String} (h : IsOpen tree here (steps ++ rest)) :
    IsOpen tree here steps := fun way hway => h way (hway.trans (List.prefix_append _ _))

/-- Nothing but the path itself lies at the end of it. -/
theorem eq_of_walkFrom {here : Location} {steps : List String}
    (hsteps : ∀ step ∈ steps, LeadsDown step) (h : tree.walkFrom here steps = .ok location) :
    location = here ++ steps := by
  induction steps generalizing here with
  | nil =>
    cases h
    simp
  | cons step steps ih =>
    obtain ⟨hstep, hrest⟩ := List.forall_mem_cons.mp hsteps
    unfold walkFrom at h
    split at h
    next => cases h
    next =>
      obtain ⟨-, -, hwalk⟩ := Checked.bind_eq_ok.mp h
      rw [stepFrom_eq hstep] at hwalk
      rw [ih hrest hwalk]
      simp
    next => cases h

/-- Steps that lead down are where they lead. -/
theorem eq_of_walk {steps : List String} (hsteps : ∀ step ∈ steps, LeadsDown step)
    (h : tree.walk steps = .ok location) : location = steps := by
  obtain ⟨-, -, hwalk⟩ := Checked.bind_eq_ok.mp h
  exact eq_of_walkFrom hsteps hwalk

/-- An open way is walked to its end. -/
theorem walkFrom_append {here : Location} {steps : List String}
    (hsteps : ∀ step ∈ steps, LeadsDown step ∧ checkName step = .ok ())
    (h : IsOpen tree here steps) (rest : List String) :
    tree.walkFrom here (steps ++ rest) = tree.walkFrom (here ++ steps) rest := by
  induction steps generalizing here with
  | nil => simp
  | cons step steps ih =>
    obtain ⟨⟨hdown, hname⟩, hrest⟩ := List.forall_mem_cons.mp hsteps
    obtain ⟨hhere, hopen⟩ := isOpen_cons.mp h
    rw [List.cons_append, walkFrom, hhere]
    dsimp only
    rw [hname, Checked.ok_bind, stepFrom_eq hdown, ih hrest hopen]
    simp

/-- The last step of a path needs no directory at its end. -/
theorem walk_concat {steps : List String} {step : String}
    (hsteps : ∀ step ∈ steps, LeadsDown step ∧ checkName step = .ok ())
    (hstep : LeadsDown step ∧ checkName step = .ok ())
    (hpath : checkPath (steps ++ [step]) = .ok ()) (h : IsOpen tree [] steps) :
    tree.walk (steps ++ [step]) = .ok (steps ++ [step]) := by
  unfold walk
  rw [hpath, Checked.ok_bind, walkFrom_append hsteps h]
  have hend : tree.entry? ([] ++ steps) = some .directory := h steps (List.prefix_refl _)
  rw [walkFrom, hend]
  dsimp only
  rw [hstep.2, Checked.ok_bind, stepFrom_eq hstep.1, List.nil_append]
  rfl

/-- A path that can be walked leads somewhere or nowhere, but its names are not too long. -/
theorem walkFrom_ne_nameTooLong {here : Location} {steps : List String}
    (hsteps : ∀ step ∈ steps, checkName step = .ok ()) :
    tree.walkFrom here steps ≠ .error .nameTooLong := by
  induction steps generalizing here with
  | nil => intro h; cases h
  | cons step steps ih =>
    obtain ⟨hname, hrest⟩ := List.forall_mem_cons.mp hsteps
    unfold walkFrom
    split
    next => intro h; cases h
    next =>
      rw [hname, Checked.ok_bind]
      exact ih hrest
    next => intro h; cases h

/-- What is found at the end of such steps is listed under them. -/
theorem find?_eq_some {steps : List String} (hsteps : ∀ step ∈ steps, LeadsDown step)
    (h : tree.find? steps = .ok (some (location, entry))) :
    tree.walk steps = .ok steps ∧ location = steps ∧ tree.entry? steps = some entry := by
  unfold find? at h
  split at h
  next at' hwalk =>
    obtain rfl := eq_of_walk hsteps hwalk
    rw [Except.ok.injEq] at h
    obtain ⟨found, hfound, heq⟩ := Option.map_eq_some_iff.mp h
    cases heq
    exact ⟨hwalk, rfl, hfound⟩
  next => cases h
  next => cases h

/-- A path of proper names is found or not found, without a fault. -/
theorem exists_find? {steps : List String} (hsteps : ∀ step ∈ steps, checkName step = .ok ())
    (hpath : checkPath steps = .ok ()) : ∃ found, tree.find? steps = .ok found := by
  unfold find?
  split
  next => exact ⟨_, rfl⟩
  next hwalk =>
    unfold walk at hwalk
    rw [hpath, Checked.ok_bind] at hwalk
    exact absurd hwalk (walkFrom_ne_nameTooLong hsteps)
  next => exact ⟨_, rfl⟩

/-! ## Making directories -/

/-- One tree has all that the other one has, and besides that only directories on the way to a
location. -/
structure Grows (tree more : FileTree) (location : Location) : Prop where
  listed : tree.entries ⊆ more.entries
  found : ∀ other entry, tree.entry? other = some entry → more.entry? other = some entry
  added : ∀ listed ∈ more.entries, listed ∈ tree.entries ∨
    listed.2 = .directory ∧ listed.1 <+: location

theorem Grows.refl (tree : FileTree) (location : Location) : Grows tree tree location where
  listed := List.Subset.refl _
  found := fun _ _ h => h
  added := fun _ h => Or.inl h

/-- A tree that has grown grows on. -/
theorem Grows.trans {most : FileTree} (h : Grows tree more location)
    (hmore : Grows more most location) : Grows tree most location where
  listed := List.Subset.trans h.listed hmore.listed
  found := fun other entry hfound => hmore.found other entry (h.found other entry hfound)
  added := by
    intro listed hlisted
    rcases hmore.added listed hlisted with hold | hnew
    · exact h.added listed hold
    · exact Or.inr hnew

/-- A tree that grows along a way does so along a longer one. -/
theorem Grows.further (h : Grows tree more location) (hway : location <+: other) :
    Grows tree more other where
  listed := h.listed
  found := h.found
  added := fun listed hlisted => (h.added listed hlisted).imp_right fun hnew =>
    ⟨hnew.1, hnew.2.trans hway⟩

/-- What is found in the larger tree was found before, or is a directory on the way. -/
theorem Grows.entry?_cases (h : Grows tree more location) (hfound : more.entry? other = some entry) :
    tree.entry? other = some entry ∨ entry = .directory ∧ other <+: location := by
  cases hbefore : tree.entry? other with
  | some before =>
    rw [h.found other before hbefore] at hfound
    exact Or.inl hfound
  | none =>
    have hne : other ≠ [] := by
      rintro rfl
      cases hbefore
    rcases h.added _ (mem_of_entry_eq hne hfound) with hold | hnew
    · exact absurd rfl (not_mem_of_entry_eq_none hne hbefore _ hold)
    · exact Or.inr hnew

/-- Ways stay open as a tree grows. -/
theorem Grows.isOpen (h : Grows tree more location) {here : Location} {steps : List String}
    (hopen : IsOpen tree here steps) : IsOpen more here steps := fun way hway =>
  h.found _ _ (hopen way hway)

/-- A directory is put where nothing was. -/
theorem grows_put (hnone : tree.entry? other = none) (hway : other <+: location) :
    Grows tree (tree.put other .directory) location := by
  have hne : other ≠ [] := by
    rintro rfl
    cases hnone
  refine ⟨fun listed hlisted => ?_, fun at' entry hfound => ?_, fun listed hlisted => ?_⟩
  · exact mem_put.mpr (Or.inr ⟨hlisted, not_mem_of_entry_eq_none hne hnone listed hlisted⟩)
  · rw [entry?_put_of_ne]
    · exact hfound
    · rintro rfl
      rw [hnone] at hfound
      cases hfound
  · rcases mem_put.mp hlisted with rfl | ⟨hold, -⟩
    · exact Or.inr ⟨rfl, hway⟩
    · exact Or.inl hold

/-- Making directories on a way makes the tree grow along it. -/
theorem makeFrom_grows {steps : List String} (hsteps : ∀ step ∈ steps, LeadsDown step)
    (tree : FileTree) (made : Bool) (here : Location) :
    Grows tree (tree.makeFrom made here steps).1 (here ++ steps) := by
  induction steps generalizing tree made here with
  | nil => exact .refl _ _
  | cons step steps ih =>
    obtain ⟨hstep, hrest⟩ := List.forall_mem_cons.mp hsteps
    have hend : here ++ step :: steps = (here ++ [step]) ++ steps := by simp
    unfold makeFrom
    rw [stepFrom_eq hstep, hend]
    split
    next => exact .refl _ _
    next => exact ih hrest tree made (here ++ [step])
    next _ hnone =>
      exact (grows_put hnone (List.prefix_append _ _)).trans (ih hrest _ true (here ++ [step]))
    next => exact .refl _ _

/-- If a directory was made, the way to it is open. -/
theorem isOpen_makeFrom {steps : List String} (hsteps : ∀ step ∈ steps, LeadsDown step)
    {tree : FileTree} {made : Bool} {here : Location} (hhere : tree.entry? here = some .directory)
    (h : (tree.makeFrom made here steps).2 = .ok ()) :
    IsOpen (tree.makeFrom made here steps).1 here steps := by
  induction steps generalizing tree made here with
  | nil =>
    intro way hway
    rw [List.prefix_nil.mp hway, List.append_nil]
    exact hhere
  | cons step steps ih =>
    obtain ⟨hstep, hrest⟩ := List.forall_mem_cons.mp hsteps
    have hgrows := makeFrom_grows hsteps tree made here
    unfold makeFrom at h hgrows ⊢
    rw [stepFrom_eq hstep] at h hgrows ⊢
    split at h
    next => cases h
    next hname hdirectory =>
      rw [hname, hdirectory] at hgrows
      exact isOpen_cons.mpr ⟨hgrows.found _ _ hhere, ih hrest hdirectory h⟩
    next hname hnone =>
      rw [hname, hnone] at hgrows
      exact isOpen_cons.mpr ⟨hgrows.found _ _ hhere, ih hrest (entry?_put (by simp)) h⟩
    next => cases h

/-- Where the way is open, nothing is to be made. -/
theorem makeFrom_of_isOpen {steps : List String}
    (hsteps : ∀ step ∈ steps, LeadsDown step ∧ checkName step = .ok ()) {made : Bool}
    {here : Location} (h : IsOpen tree here steps) : tree.makeFrom made here steps = (tree, .ok ()) := by
  induction steps generalizing here with
  | nil => rfl
  | cons step steps ih =>
    obtain ⟨⟨hdown, hname⟩, hrest⟩ := List.forall_mem_cons.mp hsteps
    obtain ⟨-, hopen⟩ := isOpen_cons.mp h
    have hnext : tree.entry? (here ++ [step]) = some .directory := by
      simpa using hopen [] (List.nil_prefix ..)
    rw [makeFrom, stepFrom_eq hdown, hname, hnext]
    exact ih hrest hopen

/-- No directory is missing on an open way. -/
theorem missingFrom_of_isOpen {steps : List String} (hsteps : ∀ step ∈ steps, LeadsDown step)
    {here : Location} (h : IsOpen tree here steps) : tree.missingFrom here steps = 0 := by
  induction steps generalizing here with
  | nil => rfl
  | cons step steps ih =>
    obtain ⟨hdown, hrest⟩ := List.forall_mem_cons.mp hsteps
    obtain ⟨-, hopen⟩ := isOpen_cons.mp h
    have hnext : tree.entry? (here ++ [step]) = some .directory := by
      simpa using hopen [] (List.nil_prefix ..)
    rw [missingFrom, stepFrom_eq hdown, hnext]
    exact ih hrest hopen

/-- Whether it works or not, making a directory makes the tree grow along the way to it. -/
theorem makeDirectory_grows {steps : List String} (hsteps : ∀ step ∈ steps, LeadsDown step)
    (tree : FileTree) : Grows tree (tree.makeDirectory steps).1 steps := by
  unfold makeDirectory
  split
  next => exact .refl _ _
  next =>
    split
    next => exact .refl _ _
    next => exact makeFrom_grows hsteps tree false []

/-- A way that was made is open. -/
theorem isOpen_makeDirectory {steps : List String} (hsteps : ∀ step ∈ steps, LeadsDown step)
    (h : (tree.makeDirectory steps).2 = .ok ()) :
    checkPath steps = .ok () ∧ IsOpen (tree.makeDirectory steps).1 [] steps := by
  unfold makeDirectory at h ⊢
  split at h
  next => cases h
  next hpath =>
    split at h
    next => cases h
    next hmissing =>
      rw [if_neg hmissing]
      exact ⟨hpath, isOpen_makeFrom hsteps rfl h⟩

/-- Nothing is made where there is an open way. -/
theorem makeDirectory_of_isOpen {steps : List String}
    (hsteps : ∀ step ∈ steps, LeadsDown step ∧ checkName step = .ok ())
    (hpath : checkPath steps = .ok ()) (h : IsOpen tree [] steps) :
    tree.makeDirectory steps = (tree, .ok ()) := by
  have hmissing := missingFrom_of_isOpen (fun step hstep => (hsteps step hstep).1) h
  unfold makeDirectory
  rw [hpath, hmissing]
  exact makeFrom_of_isOpen hsteps h

/-- What is found is found again, wherever directories are made. -/
theorem entry?_makeFrom {steps : List String} {made : Bool} {here : Location}
    (h : tree.entry? other = some entry) : entry? (tree.makeFrom made here steps).1 other = some entry := by
  induction steps generalizing tree made here with
  | nil => exact h
  | cons step steps ih =>
    unfold makeFrom
    split
    next => exact h
    next => exact ih h
    next _ hnone =>
      have hne : other ≠ stepFrom here step := by
        rintro rfl
        rw [h] at hnone
        cases hnone
      exact ih ((entry?_put_of_ne hne).trans h)
    next => exact h

/-- Making a directory leaves everything that was there. -/
theorem entry?_makeDirectory (steps : List String) (h : tree.entry? other = some entry) :
    entry? (tree.makeDirectory steps).1 other = some entry := by
  unfold makeDirectory
  split
  next => exact h
  next =>
    split
    next => exact h
    next => exact entry?_makeFrom h

/-! ## Reading and writing files -/

/-- A path leads on where it led, as long as the directories stay. -/
theorem walkFrom_mono {here : Location} {steps : List String}
    (hstays : ∀ other, tree.entry? other = some .directory → more.entry? other = some .directory)
    (h : tree.walkFrom here steps = .ok location) : more.walkFrom here steps = .ok location := by
  induction steps generalizing here with
  | nil => exact h
  | cons step steps ih =>
    unfold walkFrom at h ⊢
    split at h
    next => cases h
    next hdirectory =>
      obtain ⟨_, hname, hwalk⟩ := Checked.bind_eq_ok.mp h
      rw [hstays here hdirectory]
      dsimp only
      rw [hname, Checked.ok_bind]
      exact ih hwalk
    next => cases h

/-- A walk leads to the same place in any tree with these directories. -/
theorem walk_mono {steps : List String}
    (hstays : ∀ other, tree.entry? other = some .directory → more.entry? other = some .directory)
    (h : tree.walk steps = .ok location) : more.walk steps = .ok location := by
  obtain ⟨_, hpath, hwalk⟩ := Checked.bind_eq_ok.mp h
  exact Checked.bind_eq_ok.mpr ⟨_, hpath, walkFrom_mono hstays hwalk⟩

/-- A file is read where the walk to it leads to one. -/
theorem readFile_eq_ok {steps : List String} {text : String} : tree.readFile steps = .ok text ↔
    ∃ location, tree.walk steps = .ok location ∧ tree.entry? location = some (.file text) := by
  unfold readFile
  rw [Checked.bind_eq_ok]
  refine exists_congr fun location => and_congr_right fun _ => ?_
  split
  next found hfound => rw [hfound, Checked.pure_eq_ok, Option.some.injEq, Entry.file.injEq]
  next hfound => simp [hfound, throw, throwThe, MonadExceptOf.throw]
  next hfound => simp [hfound, throw, throwThe, MonadExceptOf.throw]
  next hfound => simp [hfound, throw, throwThe, MonadExceptOf.throw]

/-- A file is written where the walk to it leads, unless to a directory. -/
theorem writeFile_eq_ok {steps : List String} {text : String} : tree.writeFile steps text = .ok more ↔
    ∃ location, tree.walk steps = .ok location ∧ tree.entry? location ≠ some .directory ∧
      more = tree.put location (.file text) := by
  unfold writeFile
  rw [Checked.bind_eq_ok]
  refine exists_congr fun location => and_congr_right fun _ => ?_
  split
  next hdirectory => simp [hdirectory, throw, throwThe, MonadExceptOf.throw]
  next hother => rw [Checked.pure_eq_ok, eq_comm, and_iff_right hother]

/-- What was written is read. -/
theorem readFile_writeFile {steps : List String} {text : String}
    (h : tree.writeFile steps text = .ok more) : more.readFile steps = .ok text := by
  obtain ⟨location, hwalk, hfree, rfl⟩ := writeFile_eq_ok.mp h
  have hroot : location ≠ [] := by
    rintro rfl
    exact hfree rfl
  refine readFile_eq_ok.mpr ⟨location, walk_mono (fun other hother => ?_) hwalk, entry?_put hroot⟩
  have hne : other ≠ location := by
    rintro rfl
    exact hfree hother
  exact (entry?_put_of_ne hne).trans hother

/-- What can be read is read wherever directories are made. -/
theorem readFile_makeDirectory {steps : List String} {text : String} (made : List String)
    (h : tree.readFile steps = .ok text) : (tree.makeDirectory made).1.readFile steps = .ok text := by
  obtain ⟨location, hwalk, hfile⟩ := readFile_eq_ok.mp h
  exact readFile_eq_ok.mpr ⟨location, walk_mono (fun _ => entry?_makeDirectory made) hwalk,
    entry?_makeDirectory made hfile⟩

/-- What can be read can be written. -/
theorem exists_writeFile {steps : List String} {text : String} (h : tree.readFile steps = .ok text)
    (new : String) : ∃ more, tree.writeFile steps new = .ok more := by
  obtain ⟨location, hwalk, hfile⟩ := readFile_eq_ok.mp h
  refine ⟨_, writeFile_eq_ok.mpr ⟨location, hwalk, ?_, rfl⟩⟩
  rw [hfile]
  simp

/-! ## Removing a directory -/

/-- If nothing is listed below a location no way leads on from it. -/
theorem waysBelow_eq_nil (h : ∀ listed ∈ tree.entries, wayBelow? location listed.1 = none) :
    tree.waysBelow location = [] := by
  unfold waysBelow
  rw [List.filterMap_eq_nil_iff.mpr h, List.mergeSort_nil]

/-- If nothing is listed below a location it is empty. -/
theorem isEmptyAt_of_nothingBelow (h : ∀ listed ∈ tree.entries, wayBelow? location listed.1 = none) :
    tree.isEmptyAt location = true := by
  unfold isEmptyAt
  rw [waysBelow_eq_nil h]
  rfl

/-- A directory with nothing below it can be removed. -/
theorem removeDirectory_of_nothingBelow {steps : List String} (hwalk : tree.walk steps = .ok location)
    (hlast : steps.getLast? ≠ some "..")
    (hbelow : ∀ listed ∈ tree.entries, wayBelow? location listed.1 = none)
    (hdirectory : tree.entry? location = some .directory) :
    tree.removeDirectory steps = .ok (tree.remove location) := by
  have hguard : guardThat (tree.isEmptyAt location && decide (steps.getLast? ≠ some "..")) .notEmpty =
      .ok () := by
    rw [Checked.guardThat_eq_ok, Bool.and_eq_true_iff, decide_eq_true_iff]
    exact ⟨isEmptyAt_of_nothingBelow hbelow, hlast⟩
  unfold removeDirectory
  rw [hwalk, Checked.ok_bind, hdirectory]
  dsimp only
  rw [hguard]
  rfl

/-- A directory with nothing below it is removed, and nothing else is. -/
theorem removeTree_of_nothingBelow {steps : List String} (hwalk : tree.walk steps = .ok location)
    (hlast : steps.getLast? ≠ some "..")
    (hbelow : ∀ listed ∈ tree.entries, wayBelow? location listed.1 = none)
    (hdirectory : tree.entry? location = some .directory) :
    tree.removeTree steps = (tree.remove location, .ok ()) := by
  have hpaths : tree.pathsBelow steps = [] := by
    unfold pathsBelow
    rw [hwalk]
    dsimp only
    rw [if_pos hdirectory, waysBelow_eq_nil hbelow]
    rfl
  unfold removeTree
  rw [hpaths, removeEntries]
  dsimp only
  rw [removeDirectory_of_nothingBelow hwalk hlast hbelow hdirectory]

end ChangeImpact.FileTree

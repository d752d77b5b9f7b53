import ChangeImpact.Proofs.Home.ActiveProject
import ChangeImpact.Proofs.Home.FileTree

/-!
# A tidy home directory

Besides the directories of the projects there is only the file that names the active one. `IsTidy`
says so, and that the file names one of some names or none. Whatever is done to projects by their
plain names keeps a home tidy: providing for it, writing the file, making a project and deleting one.

> `IsTidy.activeProject`: in a tidy home the active project is read as null or one of the names.
-/

namespace ChangeImpact

open FileTree (LeadsDown checkName checkPath IsOpen Grows wayBelow?)

/-- The name of one directory: without a slash, not empty, and neither one point nor two. -/
structure IsPlainName (name : String) : Prop where
  ne_empty : name ≠ ""
  leadsDown : LeadsDown name
  noSlash : '/' ∉ name.toList

instance (name : String) : Decidable (IsPlainName name) :=
  decidable_of_iff (name ≠ "" ∧ LeadsDown name ∧ '/' ∉ name.toList)
    ⟨fun ⟨hempty, hdown, hslash⟩ => ⟨hempty, hdown, hslash⟩,
      fun ⟨hempty, hdown, hslash⟩ => ⟨hempty, hdown, hslash⟩⟩

namespace PathName

/-- Without separators a text is its only part. -/
theorem splitAll_eq_singleton {sep : Char} {cs : List Char} (h : sep ∉ cs) :
    Text.splitAll sep cs = [cs] := by
  induction cs with
  | nil => rfl
  | cons c rest ih =>
    rw [List.mem_cons, not_or] at h
    unfold Text.splitAll
    rw [if_neg (by simpa using Ne.symm h.1), ih h.2]

/-- A plain name is its only component. -/
theorem components_plain {name : String} (h : IsPlainName name) :
    components name.toList = [name.toList] := by
  have hempty : name.toList ≠ [] := by
    intro hnil
    exact h.ne_empty (String.toList_inj.mp hnil)
  have hpoint : name.toList ≠ ['.'] := by
    intro hpoint
    exact h.leadsDown.1 (String.toList_inj.mp hpoint)
  unfold components
  rw [splitAll_eq_singleton h.noSlash]
  simp [hempty, hpoint]

end PathName

namespace Workspace

variable {w w' : Workspace} {name : String}

/-- A plain name is the last step to its project. -/
theorem projectPath_plain (h : IsPlainName name) (w : Workspace) :
    w.projectPath name = w.projectsPath ++ [name] := by
  have hhead : name.toList.head? ≠ some '/' := fun hhead => h.noSlash (List.mem_of_mem_head? hhead)
  unfold projectPath stepsFrom
  rw [PathName.components_plain h, if_neg hhead, List.map_singleton, String.ofList_toList]

/-! ## What is found in the home directory -/

/-- Files can be kept in the home directory: the way to it goes down by proper names, and it is not so
long that nothing could be added to it. -/
structure HasHome (w : Workspace) : Prop where
  steps : ∀ step ∈ w.home, LeadsDown step ∧ checkName step = .ok ()
  path : checkPath w.statePath = .ok ()

/-- What may be found in the home directory: the directory of all projects, those of the projects,
and the file that names the active one, which is null or one of some names. -/
inductive Slot (names : List String) : List String → Entry → Prop
  | memory : Slot names ["memory"] .directory
  | project (name : String) : Slot names ["memory", name] .directory
  | state (active : Json) (h : active = .null ∨ ∃ name ∈ names, active = .str name) :
    Slot names ["state.json"] (.file (stateText active))

/-- Nothing else is found in the home directory. -/
structure IsTidy (names : List String) (w : Workspace) : Prop extends HasHome w where
  slots : ∀ way entry, way ≠ [] → w.tree.entry? (w.home ++ way) = some entry → Slot names way entry

theorem leadsDown_memory : LeadsDown "memory" ∧ checkName "memory" = .ok () :=
  ⟨⟨by decide, by decide⟩, rfl⟩

theorem leadsDown_state : LeadsDown "state.json" ∧ checkName "state.json" = .ok () :=
  ⟨⟨by decide, by decide⟩, rfl⟩

namespace HasHome

theorem leadsDown (h : HasHome w) : ∀ step ∈ w.home, LeadsDown step := fun step hstep =>
  (h.steps step hstep).1

theorem leadsDown_projectsPath (h : HasHome w) : ∀ step ∈ w.projectsPath, LeadsDown step :=
  List.forall_mem_append.mpr ⟨h.leadsDown, List.forall_mem_singleton.mpr leadsDown_memory.1⟩

/-- All steps to the directory of projects lead down, by names that are not too long. -/
theorem names_projectsPath (h : HasHome w) :
    ∀ step ∈ w.projectsPath, LeadsDown step ∧ checkName step = .ok () :=
  List.forall_mem_append.mpr ⟨h.steps, List.forall_mem_singleton.mpr leadsDown_memory⟩

/-- So do those to the file of the active project. -/
theorem names_statePath (h : HasHome w) :
    ∀ step ∈ w.statePath, LeadsDown step ∧ checkName step = .ok () :=
  List.forall_mem_append.mpr ⟨h.steps, List.forall_mem_singleton.mpr leadsDown_state⟩

/-- So do those to a project with a plain name. -/
theorem leadsDown_projectPath (h : HasHome w) (hname : IsPlainName name) :
    ∀ step ∈ w.projectPath name, LeadsDown step := by
  rw [projectPath_plain hname]
  exact List.forall_mem_append.mpr ⟨h.leadsDown_projectsPath,
    List.forall_mem_singleton.mpr hname.leadsDown⟩

end HasHome

/-- The projects are the directories in that of all projects. -/
theorem mem_projects : name ∈ w.projects ↔
    (w.projectsPath ++ [name], Entry.directory) ∈ w.tree.entries := FileTree.mem_directoriesIn

/-! ## What is found where -/

variable {names : List String}

/-- The file of the active project points at a project or at none. -/
theorem Slot.at_state {entry : Entry} (h : Slot names ["state.json"] entry) :
    ∃ active, (active = .null ∨ ∃ name ∈ names, active = .str name) ∧
      entry = .file (stateText active) := by
  generalize hway : ["state.json"] = way at h
  cases h with
  | memory => exact absurd hway (by decide)
  | project name => exact absurd hway (by simp)
  | state active hactive => exact ⟨active, hactive, rfl⟩

/-- What stands under the name of a project is a directory. -/
theorem Slot.at_project {entry : Entry} (h : Slot names ["memory", name] entry) :
    entry = .directory := by
  generalize hway : ["memory", name] = way at h
  cases h with
  | memory => rfl
  | project name => rfl
  | state active hactive => exact absurd hway (by simp)

/-- Nothing is listed deeper than projects are. -/
theorem Slot.length_le {way : List String} {entry : Entry} (h : Slot names way entry) :
    way.length ≤ 2 := by
  cases h <;> simp

/-- Apart from that file no slot depends on the names of projects. -/
theorem Slot.of_ne_state {others way : List String} {entry : Entry} (h : Slot names way entry)
    (hway : way ≠ ["state.json"]) : Slot others way entry := by
  cases h with
  | memory => exact .memory
  | project name => exact .project name
  | state => exact absurd rfl hway

/-- The names may be any others that the active project is one of. -/
theorem Slot.mono {others way : List String} {entry : Entry} (h : Slot names way entry)
    (hnames : ∀ name ∈ names, name ∈ others) : Slot others way entry := by
  cases h with
  | memory => exact .memory
  | project name => exact .project name
  | state active hactive =>
    exact .state active (hactive.imp_right fun ⟨name, hname, heq⟩ => ⟨name, hnames name hname, heq⟩)

namespace IsTidy

/-- A home that is tidy for some projects is so for more of them. -/
theorem mono {others : List String} (h : IsTidy names w) (hnames : ∀ name ∈ names, name ∈ others) :
    IsTidy others w :=
  ⟨h.toHasHome, fun way entry hway hfound => (h.slots way entry hway hfound).mono hnames⟩

/-- Nothing is below the directory of a project. -/
theorem nothingBelow (h : IsTidy names w) (name : String) :
    ∀ listed ∈ w.tree.entries, wayBelow? (w.home ++ ["memory", name]) listed.1 = none := by
  intro listed hlisted
  by_contra hne
  obtain ⟨way, hbelow⟩ := Option.ne_none_iff_exists'.mp hne
  obtain ⟨hlocation, hnil⟩ := FileTree.wayBelow?_eq_some.mp hbelow
  obtain ⟨entry, hfound⟩ := FileTree.exists_entry?_of_mem hlisted
  rw [hlocation, List.append_assoc] at hfound
  have hlength := (h.slots _ entry (by simp) hfound).length_le
  have hpos := List.length_pos_of_ne_nil hnil
  simp only [List.length_append, List.length_cons, List.length_nil] at hlength
  omega

/-- Making the directories of projects keeps a home tidy. -/
theorem grows (h : IsTidy names w) {tree : FileTree} {name : String}
    (hgrows : Grows w.tree tree (w.projectsPath ++ [name])) : IsTidy names { w with tree } where
  steps := h.steps
  path := h.path
  slots := by
    intro way entry hway hfound
    rcases hgrows.entry?_cases hfound with hold | ⟨rfl, hstarts⟩
    · exact h.slots way entry hway hold
    · have hshort : way <+: ["memory", name] := by
        refine (List.prefix_append_right_inj w.home).mp ?_
        simpa [projectsPath] using hstarts
      rcases List.prefix_cons_iff.mp hshort with rfl | ⟨rest, rfl, hrest⟩
      · exact absurd rfl hway
      · rcases List.prefix_cons_iff.mp hrest with rfl | ⟨more, rfl, hmore⟩
        · exact .memory
        · rw [List.prefix_nil.mp hmore]
          exact .project name

/-- The file that names the active project is written anew. -/
theorem putState (h : IsTidy names w) {others : List String} {active : Json}
    (hactive : active = .null ∨ ∃ name ∈ others, active = .str name) :
    IsTidy others { w with tree := w.tree.put w.statePath (.file (stateText active)) } where
  steps := h.steps
  path := h.path
  slots := by
    intro way entry hway hfound
    by_cases hstate : way = ["state.json"]
    · subst hstate
      have hput : FileTree.entry? (w.tree.put w.statePath (.file (stateText active))) w.statePath =
          some entry := hfound
      rw [FileTree.entry?_put (by simp [statePath]), Option.some.injEq] at hput
      rw [← hput]
      exact .state active hactive
    · have hne : w.home ++ way ≠ w.statePath := fun heq => hstate (List.append_cancel_left heq)
      rw [FileTree.entry?_put_of_ne hne] at hfound
      exact (h.slots way entry hway hfound).of_ne_state hstate

/-- The directory of a project is removed. -/
theorem remove (h : IsTidy names w) (location : Location) :
    IsTidy names { w with tree := w.tree.remove location } where
  steps := h.steps
  path := h.path
  slots := by
    intro way entry hway hfound
    have hlisted := FileTree.mem_of_entry_eq (by simp [hway]) hfound
    have hne := (FileTree.mem_remove.mp hlisted).2
    rw [FileTree.entry?_remove_of_ne hne] at hfound
    exact h.slots way entry hway hfound

end IsTidy

/-! ## Providing for the home directory -/

/-- The home directory was provided for: the way to the projects is open. -/
structure IsReady (w : Workspace) : Prop where
  path : checkPath w.projectsPath = .ok ()
  isOpen : IsOpen w.tree [] w.projectsPath

/-- Making the home directory makes the tree grow, and the home is ready then. -/
theorem withHome_cases (h : HasHome w) (hhome : w.withHome = .ok w') :
    ∃ tree, w' = { w with tree } ∧ Grows w.tree tree w.projectsPath ∧ IsReady { w with tree } := by
  unfold withHome withDirectory makeDirectory at hhome
  obtain ⟨⟨⟩, hmade, rfl⟩ := Checked.map_eq_ok.mp hhome
  obtain ⟨hpath, hopen⟩ := FileTree.isOpen_makeDirectory h.leadsDown_projectsPath hmade
  exact ⟨_, rfl, FileTree.makeDirectory_grows h.leadsDown_projectsPath w.tree, hpath, hopen⟩

/-- No project is lost as a tree grows. -/
theorem projects_of_grows {tree : FileTree} {location : Location} (h : Grows w.tree tree location) :
    ∀ name ∈ w.projects, name ∈ projects { w with tree } := fun _ hname =>
  mem_projects.mpr (h.listed (mem_projects.mp hname))

/-- Once the home directory was provided for, it is as tidy as before. -/
theorem IsTidy.withHome (h : IsTidy names w) (hhome : w.withHome = .ok w') :
    IsTidy names w' ∧ IsReady w' ∧ ∀ name ∈ w.projects, name ∈ w'.projects := by
  obtain ⟨tree, rfl, hgrows, hready⟩ := withHome_cases h.toHasHome hhome
  exact ⟨h.grows (hgrows.further (List.prefix_append _ [""])), hready, projects_of_grows hgrows⟩

/-- Where the home directory was provided for, there is nothing left to do. -/
theorem IsReady.withHome (h : IsReady w) (hhome : HasHome w) : w.withHome = .ok w := by
  unfold Workspace.withHome withDirectory makeDirectory
  rw [FileTree.makeDirectory_of_isOpen hhome.names_projectsPath h.path h.isOpen]
  rfl

/-- Of a home that is ready the file of the active project can be reached. -/
theorem IsReady.walk_statePath (h : IsReady w) (hhome : HasHome w) :
    w.tree.walk w.statePath = .ok w.statePath :=
  FileTree.walk_concat hhome.steps leadsDown_state hhome.path h.isOpen.left

/-! ## Writing and reading the active project -/

/-- The projects are what they were after the active one was written. -/
theorem projects_putState {text : String} :
    ∀ name ∈ w.projects, name ∈ projects { w with tree := w.tree.put w.statePath (.file text) } := by
  intro name hname
  refine mem_projects.mpr (FileTree.mem_put.mpr (Or.inr ⟨mem_projects.mp hname, fun heq => ?_⟩))
  simp [projectsPath, statePath] at heq

/-- A file at the end of steps that lead down is put where they lead. -/
theorem writeFile_eq_ok {steps : List String} {text : String} (hsteps : ∀ step ∈ steps, LeadsDown step)
    (h : w.writeFile steps text = .ok w') : w' = { w with tree := w.tree.put steps (.file text) } := by
  unfold writeFile at h
  obtain ⟨tree, htree, heq⟩ := Checked.bind_eq_ok.mp h
  obtain ⟨location, hwalk, -, rfl⟩ := FileTree.writeFile_eq_ok.mp htree
  obtain rfl := FileTree.eq_of_walk hsteps hwalk
  exact (Checked.pure_eq_ok.mp heq).symm

/-- Making one of the projects the active one, or none, keeps a home tidy. -/
theorem IsTidy.activate (h : IsTidy names w) {active : Json}
    (hactive : active = .null ∨ ∃ name ∈ w.projects, active = .str name)
    (hdone : w.activate active = .ok w') : IsTidy w'.projects w' := by
  obtain ⟨provided, hhome, hwrite⟩ := Checked.bind_eq_ok.mp hdone
  obtain ⟨htidy, -, hprojects⟩ := h.withHome hhome
  have hsteps : ∀ step ∈ w.statePath, LeadsDown step := fun step hstep =>
    (h.names_statePath step hstep).1
  obtain ⟨tree, rfl, -, -⟩ := withHome_cases h.toHasHome hhome
  obtain rfl := writeFile_eq_ok hsteps hwrite
  exact htidy.putState (hactive.imp_right fun ⟨name, hname, heq⟩ =>
    ⟨name, projects_putState name (hprojects name hname), heq⟩)

/-- Where the home directory was provided for, the file can be written. -/
theorem IsTidy.exists_deactivate (h : IsTidy names w) (hready : IsReady w) :
    ∃ w', w.deactivate = .ok w' := by
  have hwrite : ∃ tree, w.tree.writeFile w.statePath (stateText .null) = .ok tree := by
    unfold FileTree.writeFile
    rw [hready.walk_statePath h.toHasHome, Checked.ok_bind]
    split
    next hdirectory =>
      -- the only thing that may be found there is a file
      obtain ⟨_, -, hfile⟩ := (h.slots _ _ (List.cons_ne_nil _ _) hdirectory).at_state
      cases hfile
    next => exact ⟨_, rfl⟩
  obtain ⟨tree, htree⟩ := hwrite
  unfold deactivate Workspace.activate
  rw [hready.withHome h.toHasHome, Checked.ok_bind]
  unfold writeFile
  rw [htree]
  exact ⟨_, rfl⟩

/-- The file at its place is read as the active project that was written into it. -/
theorem activeProject_eq {active : Json} (hpointer : IsPointer active)
    (hwalk : w.tree.walk w.statePath = .ok w.statePath)
    (hfile : w.tree.entry? w.statePath = some (.file (stateText active))) :
    w.activeProject = .ok active := by
  have hfound : w.tree.find? w.statePath = .ok (some (w.statePath, .file (stateText active))) := by
    unfold FileTree.find?
    rw [hwalk]
    dsimp only
    rw [hfile]
    rfl
  have hread : w.readLines w.statePath =
      .ok (String.ofList (Text.withLineFeeds (stateText active).toList)) := by
    unfold readLines FileTree.readFile
    rw [hwalk, Checked.ok_bind, hfile]
    rfl
  unfold activeProject
  rw [hfound, Checked.ok_bind]
  dsimp only
  rw [hread, Checked.ok_bind, read_stateText hpointer]
  rfl

/-- **What a tidy home says.** The active project is null or one of the names. -/
theorem IsTidy.activeProject (h : IsTidy names w) : w.activeProject = .ok .null ∨
    ∃ name ∈ names, w.activeProject = .ok (.str name) := by
  have hnames : ∀ step ∈ w.statePath, checkName step = .ok () := fun step hstep =>
    (h.names_statePath step hstep).2
  obtain ⟨found, hfound⟩ := FileTree.exists_find? hnames h.path
  cases found with
  | none =>
    unfold Workspace.activeProject
    rw [hfound]
    exact Or.inl rfl
  | some found =>
    obtain ⟨hwalk, -, hentry⟩ :=
      FileTree.find?_eq_some (fun step hstep => (h.names_statePath step hstep).1) hfound
    obtain ⟨active, hactive, hfile⟩ := (h.slots _ _ (List.cons_ne_nil _ _) hentry).at_state
    rw [hfile] at hentry
    rcases hactive with rfl | ⟨name, hname, rfl⟩
    · exact Or.inl (activeProject_eq (Or.inl rfl) hwalk hentry)
    · exact Or.inr ⟨name, hname, activeProject_eq (Or.inr ⟨name, rfl⟩) hwalk hentry⟩

/-- What was read as the active project is all that the file says. -/
theorem IsTidy.pointing (h : IsTidy names w) (hready : IsReady w) {active : Json}
    (hread : w.activeProject = .ok active) {others : List String}
    (hactive : active = .null ∨ ∃ name ∈ others, active = .str name) : IsTidy others w := by
  refine ⟨h.toHasHome, fun way entry hway hfound => ?_⟩
  by_cases hstate : way = ["state.json"]
  · subst hstate
    obtain ⟨written, hwritten, rfl⟩ := (h.slots _ _ hway hfound).at_state
    have heq := activeProject_eq (hwritten.imp_right fun ⟨name, _, heq⟩ => ⟨name, heq⟩)
      (hready.walk_statePath h.toHasHome) hfound
    rw [hread, Except.ok.injEq] at heq
    rw [← heq]
    exact .state active hactive
  · exact (h.slots way entry hway hfound).of_ne_state hstate

/-! ## Making and deleting projects -/

/-- Making a project by a plain name keeps a home tidy, and if it worked the project is there. -/
theorem IsTidy.createProject (h : IsTidy names w) (hname : IsPlainName name) :
    IsTidy names (w.createProject name).1 ∧
      (∀ other ∈ w.projects, other ∈ (w.createProject name).1.projects) ∧
      ((w.createProject name).2 = .ok () → name ∈ (w.createProject name).1.projects) := by
  have hsteps := h.leadsDown_projectPath hname
  have hpath := projectPath_plain hname w
  have hgrows := FileTree.makeDirectory_grows hsteps w.tree
  have hway : w.projectPath name <+: w.projectsPath ++ [name] := ⟨[], by rw [hpath, List.append_nil]⟩
  refine ⟨h.grows (hgrows.further hway), projects_of_grows hgrows, fun hmade => ?_⟩
  obtain ⟨-, hopen⟩ := FileTree.isOpen_makeDirectory hsteps hmade
  have hfound : FileTree.entry? (w.createProject name).1.tree (w.projectsPath ++ [name]) =
      some .directory := by
    rw [← hpath]
    exact hopen _ (List.prefix_refl _)
  exact mem_projects.mpr (FileTree.mem_of_entry_eq (by simp) hfound)

/-- Deleting a project by a plain name takes away its directory and nothing else, or nothing. -/
theorem IsTidy.deleteProject_cases (h : IsTidy names w) (hname : IsPlainName name) :
    (w.deleteProject name).1 = w ∧ (w.deleteProject name).2 ≠ .ok true ∨
      w.deleteProject name =
        ({ w with tree := w.tree.remove (w.projectsPath ++ [name]) }, .ok true) := by
  have hpath := projectPath_plain hname w
  have hsteps := h.leadsDown_projectPath hname
  have hway : w.projectsPath ++ [name] = w.home ++ ["memory", name] := by simp [projectsPath]
  unfold deleteProject
  dsimp only
  split
  next => exact Or.inl ⟨rfl, by simp⟩
  next => exact Or.inl ⟨rfl, by simp⟩
  next found hfound =>
    obtain ⟨location, entry⟩ := found
    obtain ⟨hwalk, -, hentry⟩ := FileTree.find?_eq_some hsteps hfound
    rw [hpath, hway] at hwalk hentry ⊢
    obtain rfl := (h.slots _ _ (List.cons_ne_nil _ _) hentry).at_project
    have hlast : (w.home ++ ["memory", name]).getLast? ≠ some ".." := by
      simpa using hname.leadsDown.2
    rw [FileTree.removeTree_of_nothingBelow hwalk hlast (h.nothingBelow name) hentry]
    exact Or.inr rfl

/-- Where the directory of a project was removed, the home directory is still provided for. -/
theorem IsReady.remove (h : IsReady w) (name : String) :
    IsReady { w with tree := w.tree.remove (w.projectsPath ++ [name]) } where
  path := h.path
  isOpen := by
    intro way hway
    have hlength : way.length ≤ w.projectsPath.length := hway.length_le
    have hne : [] ++ way ≠ w.projectsPath ++ [name] := by
      intro heq
      rw [List.nil_append] at heq
      rw [heq, List.length_append, List.length_singleton] at hlength
      omega
    rw [FileTree.entry?_remove_of_ne hne]
    exact h.isOpen way hway

/-- The other projects are still there. -/
theorem projects_remove {other : String} (hne : other ≠ name) (hother : other ∈ w.projects) :
    other ∈ projects { w with tree := w.tree.remove (w.projectsPath ++ [name]) } := by
  refine mem_projects.mpr (FileTree.mem_remove.mpr ⟨mem_projects.mp hother, fun heq => hne ?_⟩)
  exact (List.cons_eq_cons.mp (List.append_cancel_left heq)).1

end Workspace

end ChangeImpact

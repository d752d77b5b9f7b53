import ChangeImpact.CommandLine.Run
import ChangeImpact.Proofs.Home.Tidy

/-!
# The active project is one of the projects

The file that names the active project and the directories of the projects are changed one after
the other, by different commands. As long as projects are made and deleted by plain names, the two
stay in step: every command keeps the home directory tidy, with the projects as the names. Loading
needs no such care, since it looks for the name among the projects. A name with a slash or a point in
front of one makes or deletes a directory that is listed under another name, or under none, and the
file is left with the name that was given.

> `run_pointsAtProject`: in an empty home, after any commands on projects that make and delete by
> plain names, the active project is null or one of the projects.
-/

namespace ChangeImpact.CommandLine

open Workspace

variable {w : Workspace} {name : String}

/-- The home directory is tidy, and the active project is null or one of the projects. -/
def PointsAtProject (w : Workspace) : Prop := IsTidy w.projects w

/-- What holds where a command stops holds after it. -/
theorem Response.workspace_andThen {α : Type} {P : Workspace → Prop} {result : Checked α}
    {next : α → Response} (h : P w) (hnext : ∀ a, result = .ok a → P (next a).workspace) :
    P (Response.andThen w result next).workspace := by
  unfold Response.andThen
  split
  next a => exact hnext a rfl
  next => exact h

namespace Projects

/-- Commands that need a home directory make it first, and no project on the way. -/
theorem atHome_pointsAtProject (h : PointsAtProject w) {next : Workspace → Response}
    (hnext : ∀ w, PointsAtProject w → IsReady w → PointsAtProject (next w).workspace) :
    PointsAtProject (atHome w next).workspace := by
  refine Response.workspace_andThen h fun w' hhome => ?_
  obtain ⟨htidy, hready, hprojects⟩ := IsTidy.withHome h hhome
  exact hnext w' (htidy.mono hprojects) hready

/-- A project that is made becomes the active one, and is listed. -/
theorem create_pointsAtProject (h : PointsAtProject w) (hname : IsPlainName name) :
    PointsAtProject (create w name).workspace := by
  refine atHome_pointsAtProject h fun w h _ => ?_
  obtain ⟨htidy, hprojects, hmade⟩ := IsTidy.createProject h hname
  have hkept : PointsAtProject (w.createProject name).1 := htidy.mono hprojects
  refine Response.workspace_andThen hkept fun _ hdone => ?_
  exact Response.workspace_andThen hkept fun w' hactive =>
    hkept.activate (Or.inr ⟨name, hmade hdone, rfl⟩) hactive

/-- Only a listed project is loaded. -/
theorem load_pointsAtProject (h : PointsAtProject w) :
    PointsAtProject (load w name).workspace := by
  refine atHome_pointsAtProject h fun w h _ => ?_
  split
  next hlisted =>
    exact Response.workspace_andThen h fun w' hactive =>
      h.activate (Or.inr ⟨name, by simpa using hlisted, rfl⟩) hactive
  next => exact h

/-- Unloading leaves no project active. -/
theorem unload_pointsAtProject (h : PointsAtProject w) : PointsAtProject (unload w).workspace :=
  atHome_pointsAtProject h fun _ h _ =>
    Response.workspace_andThen h fun _ hactive => h.activate (Or.inl rfl) hactive

/-- Listing changes nothing. -/
theorem list_pointsAtProject (h : PointsAtProject w) : PointsAtProject (list w).workspace := by
  refine atHome_pointsAtProject h fun w h _ => Response.workspace_andThen h fun active _ => ?_
  split <;> exact h

/-- The directory is gone before the file is looked at: in between, the file may name a project that is
not there any more. -/
theorem delete_pointsAtProject (h : PointsAtProject w) (hname : IsPlainName name) :
    PointsAtProject (delete w name).workspace := by
  refine atHome_pointsAtProject h fun w h hready => ?_
  rcases IsTidy.deleteProject_cases h hname with ⟨hsame, hnot⟩ | hdeleted
  · dsimp only
    rw [hsame]
    refine Response.workspace_andThen h fun deleted hresult => ?_
    cases deleted with
    | true => exact absurd hresult hnot
    | false => exact h
  · rw [hdeleted]
    have hleft := IsTidy.remove h (w.projectsPath ++ [name])
    have hopen := hready.remove name
    dsimp only
    -- the project is gone; it is left to see whether it was the active one
    generalize hremoved : ({ w with tree := w.tree.remove (w.projectsPath ++ [name]) } : Workspace) = left
      at hleft hopen
    have hothers : ∀ other ∈ w.projects, other ≠ name → other ∈ left.projects :=
      fun other hother hne => hremoved ▸ projects_remove hne hother
    rcases hleft.activeProject with hread | ⟨active, hactive, hread⟩
    · rw [hread]
      exact hleft.pointing hopen hread (Or.inl rfl)
    · rw [hread]
      show PointsAtProject (Response.andThen left
        (if Json.str active = .str name then left.deactivate else .ok left) _).workspace
      by_cases heq : Json.str active = .str name
      · obtain ⟨unloaded, hunloaded⟩ := hleft.exists_deactivate hopen
        rw [if_pos heq, hunloaded]
        exact hleft.activate (Or.inl rfl) hunloaded
      · have hne : active ≠ name := fun hname => heq (congrArg Json.str hname)
        rw [if_neg heq]
        exact hleft.pointing hopen hread (Or.inr ⟨active, hothers active hactive hne, rfl⟩)

end Projects

/-! ## Any commands -/

/-- A command on projects that makes or deletes one by a plain name, or does neither. -/
def Command.IsPlain : Command → Prop
  | .createProject name | .deleteProject name => IsPlainName name
  | .loadProject _ | .unloadProject | .listProjects => True
  | _ => False

/-- **One command.** Any plain command on projects keeps the active project among them. -/
theorem Command.pointsAtProject_run [IdSource] [Toml.Package] (h : PointsAtProject w) {command : Command}
    (hplain : command.IsPlain) : PointsAtProject (command.run w).workspace := by
  cases command with
  | createProject name => exact Projects.create_pointsAtProject h hplain
  | deleteProject name => exact Projects.delete_pointsAtProject h hplain
  | loadProject name => exact Projects.load_pointsAtProject h
  | unloadProject => exact Projects.unload_pointsAtProject h
  | listProjects => exact Projects.list_pointsAtProject h
  | _ => exact hplain.elim

/-- The workspace after some commands. -/
def after [IdSource] [Toml.Package] (w : Workspace) (commands : List Command) : Workspace :=
  commands.foldl (fun w command => (command.run w).workspace) w

/-- Nothing is found in the home directory. -/
structure HasEmptyHome (w : Workspace) : Prop extends HasHome w where
  empty : ∀ way, way ≠ [] → w.tree.entry? (w.home ++ way) = none

/-- **Some commands.** So does any sequence of them. -/
theorem after_pointsAtProject [IdSource] [Toml.Package] {commands : List Command}
    (hplain : ∀ command ∈ commands, command.IsPlain) :
    ∀ {w : Workspace}, PointsAtProject w → PointsAtProject (after w commands) := by
  induction commands with
  | nil => exact id
  | cons command rest ih =>
    intro w h
    obtain ⟨hcommand, hrest⟩ := List.forall_mem_cons.mp hplain
    exact ih hrest (command.pointsAtProject_run h hcommand)

/-- **The active project is one of the projects.** In an empty home, after any commands on projects
that make and delete by plain names, whatever they load and whether they worked or not, the active
project is null or one of the projects. -/
theorem run_pointsAtProject [IdSource] [Toml.Package] (hempty : HasEmptyHome w) {commands : List Command}
    (hplain : ∀ command ∈ commands, command.IsPlain) :
    (after w commands).activeProject = .ok .null ∨
      ∃ name ∈ (after w commands).projects, (after w commands).activeProject = .ok (.str name) := by
  have hstart : PointsAtProject w := by
    refine ⟨hempty.toHasHome, fun way entry hway hfound => ?_⟩
    rw [hempty.empty way hway] at hfound
    cases hfound
  exact (after_pointsAtProject hplain hstart).activeProject

/-- Nothing but a home directory. -/
def shelf : Workspace := ⟨.empty, ["home", "sg"], ["work"], .start⟩

theorem hasEmptyHome_shelf : HasEmptyHome shelf where
  steps := List.forall_mem_cons.mpr ⟨⟨⟨by decide, by decide⟩, rfl⟩,
    List.forall_mem_singleton.mpr ⟨⟨by decide, by decide⟩, rfl⟩⟩
  path := by decide +kernel
  empty := by
    intro way hway
    rw [FileTree.entry?_of_ne_nil (by simp [hway])]
    rfl

/-- Two projects, one of them deleted while it is active, and one loaded that is not there. -/
def stay : List Command :=
  [.createProject "alpha", .loadProject "./alpha", .createProject "beta", .deleteProject "beta",
    .loadProject "alpha"]

theorem run_pointsAtProject_stay :
    HasEmptyHome shelf ∧ (∀ command ∈ stay, command.IsPlain) ∧
      (after shelf stay).activeProject = .ok (.str "alpha") ∧ (after shelf stay).projects = ["alpha"] ∧
      (after shelf (stay.take 4)).activeProject = .ok .null ∧
      ((after shelf stay).activeProject = .ok .null ∨ ∃ name ∈ (after shelf stay).projects,
        (after shelf stay).activeProject = .ok (.str name)) := by
  have halpha : IsPlainName "alpha" := ⟨by decide, ⟨by decide, by decide⟩, by decide⟩
  have hbeta : IsPlainName "beta" := ⟨by decide, ⟨by decide, by decide⟩, by decide⟩
  have hplain : ∀ command ∈ stay, command.IsPlain :=
    List.forall_mem_cons.mpr ⟨halpha, List.forall_mem_cons.mpr ⟨trivial, List.forall_mem_cons.mpr
      ⟨hbeta, List.forall_mem_cons.mpr ⟨hbeta, List.forall_mem_singleton.mpr trivial⟩⟩⟩⟩
  exact ⟨hasEmptyHome_shelf, hplain, by decide +kernel, by decide +kernel, by decide +kernel,
    run_pointsAtProject hasEmptyHome_shelf hplain⟩

/-- A project that is deleted by another spelling of its name stays the active one, and one that is
made inside another one becomes the active one without being listed. -/
theorem run_pointsNowhere :
    HasEmptyHome shelf ∧
      (after shelf [.createProject "a", .deleteProject "./a"]).projects = [] ∧
      (after shelf [.createProject "a", .deleteProject "./a"]).activeProject = .ok (.str "a") ∧
      (after shelf [.createProject "a/b"]).projects = ["a"] ∧
      (after shelf [.createProject "a/b"]).activeProject = .ok (.str "a/b") :=
  ⟨hasEmptyHome_shelf, by decide +kernel, by decide +kernel, by decide +kernel, by decide +kernel⟩

end ChangeImpact.CommandLine

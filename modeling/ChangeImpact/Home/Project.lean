import ChangeImpact.Home.Workspace
import ChangeImpact.Json.Writer

/-!
# Projects

The home directory keeps one directory per project, with the store of the project's
references, and a file that names the active one.  Nothing ties the two together but the
commands: the file may name a project that is not there.

`createProject`, `activate`, `activeProject`, `deactivate` and `deleteProject` are the operations
`create_or_get_project`, `set_current_project`, `get_current_project`, `unload_project` and
`delete_project`.
-/

namespace ChangeImpact

namespace Workspace

/-- The steps to the directory of all projects. -/
def projectsPath (workspace : Workspace) : List String := workspace.home ++ ["memory"]

/-- The steps to the directory of a project. -/
def projectPath (workspace : Workspace) (name : String) : List String :=
  stepsFrom workspace.projectsPath name

/-- The steps to the file that names the active project. -/
def statePath (workspace : Workspace) : List String := workspace.home ++ ["state.json"]

/-- The workspace with its home directory and the directory of all projects. -/
def withHome (workspace : Workspace) : Checked Workspace :=
  workspace.withDirectory workspace.projectsPath

/-- The names of the projects, in order. -/
def projects (workspace : Workspace) : List String :=
  workspace.tree.directoriesIn workspace.projectsPath

/-- Makes the directory of a project, unless it is there. -/
def createProject (workspace : Workspace) (name : String) : Workspace × Checked Unit :=
  workspace.makeDirectory (workspace.projectPath name)

/-- The text that names the active project. -/
def stateText (active : Json) : String := (Json.obj [("current_project", active)]).indented

/-- Makes a project the active one. -/
def activate (workspace : Workspace) (active : Json) : Checked Workspace := do
  (← workspace.withHome).writeFile workspace.statePath (stateText active)

/-- Leaves no project active. -/
def deactivate (workspace : Workspace) : Checked Workspace := workspace.activate .null

/-- The active project; null if the file is missing or no document. -/
def activeProject (workspace : Workspace) : Checked Json := do
  match ← workspace.tree.find? workspace.statePath with
  | none => return .null
  | some _ =>
    match Json.read (← workspace.readLines workspace.statePath) with
    | .ok state => state.part "current_project" .null
    | .error (.malformed _) => return .null
    | .error unread => throw (.ofUnread unread)

/-- Removes a project with everything in its directory, and says whether it was there. -/
def deleteProject (workspace : Workspace) (name : String) : Workspace × Checked Bool :=
  let path := workspace.projectPath name
  match workspace.tree.find? path with
  | .error fault => (workspace, .error fault)
  | .ok none => (workspace, .ok false)
  | .ok (some _) =>
    let (tree, result) := workspace.tree.removeTree path
    ({ workspace with tree }, result.map fun _ => true)

/-! ## Stores -/

/-- The most bytes of the path of a store below the root. -/
def maxStoreBytes : Nat := 488

/-- The location of a store at the end of some steps.  It is found step by step whether or not the
directories on the way are there, so that a step back undoes the one before it; but nothing lies
below a file. -/
def locateFrom (tree : FileTree) (here : Location) : List String → Option Location
  | [] => some here
  | step :: steps =>
    let next := FileTree.stepFrom here step
    if next.length ≤ here.length then locateFrom tree next steps
    else if maxStoreBytes < FileTree.pathBytes next then none
    else
      match tree.entry? here, FileTree.checkName step with
      | some .directory, .ok () | none, _ => locateFrom tree next steps
      | _, _ => none

/-- The location of the store in a directory and its rows; the store is empty if it is not
there yet, or if its file has no more than one byte. -/
def openTable (tree : FileTree) (directory : List String) : Checked (Location × ReferenceTable) := do
  let path := directory ++ ["references.db"]
  guardThat (path.all fun step => !step.toList.contains '\x00') .nullInName
  match locateFrom tree [] path with
  | none => throw .cannotOpenDatabase
  | some location =>
    guardThat (tree.entry? location.dropLast = some .directory) .cannotOpenDatabase
    match tree.entry? location with
    | none => return (location, .empty)
    | some (.references table) => return (location, table)
    | some (.file text) =>
      -- a file of no bytes or one is taken for a new database
      guardThat (text.utf8ByteSize ≤ 1) .notDatabase
      return (location, .empty)
    | some .directory => throw .cannotOpenDatabase

/-- Opens the store in a directory, uses it and puts it back. -/
def useStore (workspace : Workspace) (directory : List String) (creator : Name)
    (use : Store → Store × Checked α) : Workspace × Checked α :=
  match openTable workspace.tree directory with
  | .error fault => (workspace, .error fault)
  | .ok (location, table) =>
    let (store, result) := use ⟨table, workspace.issuer, creator, true⟩
    ({ workspace with
        tree := workspace.tree.put location (.references store.table)
        issuer := store.issuer }, result)

end Workspace

end ChangeImpact

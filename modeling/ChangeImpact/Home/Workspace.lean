import ChangeImpact.Home.FileTree
import ChangeImpact.Text.Lines

/-!
# Workspaces

A workspace is all that commands can see and change: the files, the home directory with
its configuration and projects, the directory that relative paths start from, and where
references get their ids and times from.
-/

namespace ChangeImpact

/-- All that commands can see and change. -/
structure Workspace where
  tree : FileTree
  home : Location
  current : Location
  issuer : Issuer
deriving DecidableEq

namespace Workspace

/-- The steps of a path that starts from a location, unless it starts from the root. -/
def stepsFrom (start : Location) (path : String) : List String :=
  let steps := (PathName.components path.toList).map String.ofList
  if path.toList.head? = some '/' then steps else start ++ steps

/-- The steps of a path that a user gives. -/
def steps (workspace : Workspace) (path : String) : List String :=
  stepsFrom workspace.current path

/-- The text of the file at a path, with line feeds for its line breaks. -/
def readLines (workspace : Workspace) (steps : List String) : Checked String := do
  return String.ofList (Text.withLineFeeds (← workspace.tree.readFile steps).toList)

/-- Puts a text file at a path. -/
def writeFile (workspace : Workspace) (steps : List String) (text : String) : Checked Workspace := do
  return { workspace with tree := ← workspace.tree.writeFile steps text }

/-- Makes the directory of a path, and those on the way to it as far as that goes. -/
def makeDirectory (workspace : Workspace) (steps : List String) : Workspace × Checked Unit :=
  let (tree, result) := workspace.tree.makeDirectory steps
  ({ workspace with tree }, result)

/-- The workspace with the directory of a path. -/
def withDirectory (workspace : Workspace) (steps : List String) : Checked Workspace :=
  let (workspace, result) := workspace.makeDirectory steps
  result.map fun _ => workspace

/-- Puts a text file at a path whose directories are made first. -/
def provideFile (workspace : Workspace) (steps : List String) (text : String) :
    Checked Workspace := do
  (← workspace.withDirectory steps.dropLast).writeFile steps text

end Workspace

end ChangeImpact

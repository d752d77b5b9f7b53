import ChangeImpact.Home.Project
import ChangeImpact.Reference.Document

/-!
# The memory as a document

Everything below the directory of all projects is kept between runs in one document: for
each location below it a directory, a text or the rows of a store.
-/

namespace ChangeImpact

namespace Entry

/-- An entry as a record. -/
def toJson : Entry → Json
  | .directory => .null
  | .file text => .str text
  | .references table => table.toJson

/-- The entry of a record. -/
def ofJson : Json → Entry
  | .str text => .file text
  | .arr rows => .references (ReferenceTable.ofJson (.arr rows))
  | _ => .directory

end Entry

namespace Workspace

/-- Everything below the directory of all projects, by its way from there. -/
def memory (workspace : Workspace) : Json :=
  .obj (workspace.tree.entries.reverse.filterMap fun (location, entry) =>
    (FileTree.wayBelow? workspace.projectsPath location).map fun way =>
      ("/".intercalate way, entry.toJson))

/-- The workspace with what a document keeps of the directory of all projects. -/
def withMemory (workspace : Workspace) (memory : Json) : Workspace :=
  match memory with
  | .obj fields =>
    let tree := fields.foldl (fun tree (way, entry) =>
      tree.put (stepsFrom workspace.projectsPath way) (Entry.ofJson entry)) workspace.tree
    { workspace with tree }
  | _ => workspace

end Workspace

end ChangeImpact

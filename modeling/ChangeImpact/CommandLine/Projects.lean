import ChangeImpact.CommandLine.Event
import ChangeImpact.Home.Project

/-!
# Commands on projects

Making a project makes it the active one; deleting the active one leaves none active.
-/

namespace ChangeImpact.CommandLine.Projects

/-- Goes on in a workspace with a home directory. -/
def atHome (workspace : Workspace) (next : Workspace → Response) : Response :=
  Response.andThen workspace workspace.withHome next

/-- Makes a project and loads it. -/
def create (workspace : Workspace) (name : String) : Response :=
  atHome workspace fun workspace =>
    let (workspace, made) := workspace.createProject name
    Response.andThen workspace made fun _ =>
      Response.andThen workspace (workspace.activate (.str name)) fun workspace =>
        .say workspace s!"Created and loaded project '{name}'."

/-- The line of a project; the active one is marked. -/
def line (active : Json) (name : String) : Event :=
  .line ((if active = .str name then "* " else "  ") ++ name)

/-- Lists the projects. -/
def list (workspace : Workspace) : Response :=
  atHome workspace fun workspace =>
    Response.andThen workspace workspace.activeProject fun active =>
      if workspace.projects.isEmpty then .say workspace "No projects yet."
      else .done workspace (workspace.projects.map (line active))

/-- The fault of a project that is not there. -/
def notFound (name : String) : Fault := invalid s!"Project '{name}' not found."

/-- Loads a project. -/
def load (workspace : Workspace) (name : String) : Response :=
  atHome workspace fun workspace =>
    if workspace.projects.contains name then
      Response.andThen workspace (workspace.activate (.str name)) fun workspace =>
        .say workspace s!"Loaded project '{name}'."
    else .failed workspace (notFound name)

/-- Leaves no project loaded. -/
def unload (workspace : Workspace) : Response :=
  atHome workspace fun workspace =>
    Response.andThen workspace workspace.deactivate fun workspace =>
      .say workspace "Unloaded active project."

/-- Deletes a project. -/
def delete (workspace : Workspace) (name : String) : Response :=
  atHome workspace fun workspace =>
    let (workspace, deleted) := workspace.deleteProject name
    Response.andThen workspace deleted fun deleted =>
      if !deleted then .failed workspace (notFound name)
      else
        Response.andThen workspace workspace.activeProject fun active =>
          let unloaded := if active = .str name then workspace.deactivate else .ok workspace
          Response.andThen workspace unloaded fun workspace =>
            .say workspace s!"Deleted project '{name}'."

end ChangeImpact.CommandLine.Projects

import ChangeImpact.CommandLine.Analysis
import ChangeImpact.CommandLine.Projects
import ChangeImpact.CommandLine.References
import ChangeImpact.CommandLine.Settings

/-!
# Running a command line

`run` is the whole program: the words of a command line and a workspace go in, what was
written, the changed workspace and an exit code or fault come out.
-/

namespace ChangeImpact.CommandLine

variable [Toml.Package] [Parser] [IdSource]

/-- The version of the program. -/
def version : String := "0.3.0"

namespace Command

/-- Runs a command. -/
def run (workspace : Workspace) : Command → Response
  | .analyze request => request.run workspace
  | .link source target relationship metadata creator =>
    References.link workspace source target relationship metadata creator
  | .unlink source target relationship id =>
    References.unlink workspace source target relationship id
  | .listReferences request => References.list workspace request
  | .related entity depth asJson => References.related workspace entity depth asJson
  | .mentions entity text file creator => References.mentions workspace entity text file creator
  | .createProject name => Projects.create workspace name
  | .listProjects => Projects.list workspace
  | .loadProject name => Projects.load workspace name
  | .unloadProject => Projects.unload workspace
  | .deleteProject name => Projects.delete workspace name
  | .showSettings group => SettingCommands.list workspace group
  | .setSetting key value => SettingCommands.set workspace key value
  | .resetSettings group => SettingCommands.reset workspace group

end Command

/-- Runs the command that some words ask for. -/
def run (workspace : Workspace) (words : List String) : Response :=
  match Command.read workspace words with
  | .error fault => .failed workspace fault
  | .ok .help => .done workspace []
  | .ok .version => .say workspace s!"ScopeGraph v{version}"
  | .ok (.command command) => command.run workspace

end ChangeImpact.CommandLine

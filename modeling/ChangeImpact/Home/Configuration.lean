import ChangeImpact.Home.Workspace
import ChangeImpact.Settings.Section
import ChangeImpact.Toml.Package

/-!
# The configuration file

Settings are stored in a file of the home directory.  A file that cannot be read counts as
empty; every change reads the whole file, changes one section and writes the whole file
again.  The package that reads and writes the file is a parameter.

`settings` and `saveSettings` are the operations `load_full_config` and `_save_full_config`;
`setSetting` and `resetSection` are `set_value` and `reset_section`.
-/

namespace ChangeImpact

namespace Workspace

variable [Toml.Package]

/-- The steps to the configuration file. -/
def configurationPath (workspace : Workspace) : List String := workspace.home ++ ["config.toml"]

/-- The stored settings; none if the file is missing, unreadable or malformed. -/
def settings (workspace : Workspace) : Checked StoredSettings :=
  match workspace.readLines workspace.configurationPath with
  | .error _ => .ok []
  | .ok text =>
    match Toml.Package.read text.toList with
    | .error .malformedSettings => .ok []
    | result => result

/-- Stores settings and says whether that worked; the file is emptied before anything is
written. -/
def saveSettings (workspace : Workspace) (settings : StoredSettings) : Workspace × Checked Bool :=
  match workspace.withDirectory workspace.home with
  | .error fault => (workspace, .error fault)
  | .ok workspace =>
    let written := Toml.Package.write settings
    match workspace.writeFile workspace.configurationPath (written.toOption.getD "") with
    | .error _ => (workspace, .ok false)
    | .ok saved => (saved, written.map fun _ => true)

/-- Changes the stored settings and says whether that worked. -/
def changeSettings (workspace : Workspace) (changed : Checked StoredSettings) :
    Workspace × Checked Bool :=
  match changed with
  | .error fault => (workspace, .error fault)
  | .ok settings => workspace.saveSettings settings

/-- Stores a setting and says whether that worked. -/
def setSetting (workspace : Workspace) (name key : Name) (raw : Json) : Workspace × Checked Bool :=
  workspace.changeSettings do
    let value ← Settings.coerceGiven name key (.ofJson raw)
    Settings.assign (← workspace.settings) name.display key.display value

/-- Drops what is stored of a section, if there is such a name, and says whether that
worked. -/
def resetSection (workspace : Workspace) (name : Name) : Workspace × Checked Bool :=
  workspace.changeSettings do
    let settings ← workspace.settings
    Json.needKeys [name]
    return name.text?.elim settings (Settings.discard settings)

end Workspace

end ChangeImpact

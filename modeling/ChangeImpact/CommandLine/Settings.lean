import ChangeImpact.CommandLine.Event
import ChangeImpact.Home.Configuration

/-!
# Commands on settings

Settings are shown with where they come from, changed one at a time by their full name, and
reset by section.
-/

namespace ChangeImpact.CommandLine.SettingCommands

variable [Toml.Package]

/-- Faults on a section that there is not. -/
def checkSection (name : String) : Checked Unit :=
  guardThat (Settings.sectionNames.contains name)
    (invalid s!"Unknown section '{name}'. Choose from: {Fault.listed Settings.sectionNames}.")

/-- Where a setting comes from. -/
def sourceOf (settings : StoredSettings) (name : String) (key : Name) : String :=
  match Json.lookup name settings, key with
  | some (.table fields), .str key => if (Json.lookup key fields).isSome then "file" else "default"
  | _, _ => "default"

/-- The rows of a section. -/
def rows (settings : StoredSettings) (name : String) : Checked (List (List String)) := do
  return (← Settings.effective settings name).map fun (key, value) =>
    [s!"{name}.{key.display}", value.display, sourceOf settings name key]

/-- The settings in a table, those of one section if one is given. -/
def shown (workspace : Workspace) (group : Option String) : Checked Event := do
  let given := group.getD ""
  let names := if given = "" then Settings.sectionNames else [given]
  names.forM checkSection
  let settings ← workspace.settings
  return .table "Configuration" ["Key", "Value", "Source"] (← names.mapM (rows settings)).flatten

/-- Shows the settings. -/
def list (workspace : Workspace) (group : Option String) : Response :=
  Response.andThen workspace (shown workspace group) fun event => .done workspace [event]

/-- Says whether the settings were stored. -/
def saySaved (workspace : Workspace) (text : String) (saved : Bool) : Response :=
  if saved then .say workspace text else .refuse workspace "Failed to write config file."

/-- The section and the key in the full name of a setting. -/
def splitName (name : String) : Checked (String × String) :=
  match Text.splitFirst '.' name.toList with
  | (group, some (c :: key)) => .ok (String.ofList group, String.ofList (c :: key))
  | _ => .error (invalid "Key must look like SECTION.KEY.")

/-- Changes a setting. -/
def set (workspace : Workspace) (name value : String) : Response :=
  Response.andThen workspace (splitName name) fun (group, key) =>
    let (workspace, saved) := workspace.setSetting group key value
    Response.andThen workspace (saved.mapError (asInvalid ""))
      (saySaved workspace s!"Set {group}.{key} = {value}")

/-- Resets a section. -/
def reset (workspace : Workspace) (name : String) : Response :=
  Response.andThen workspace (checkSection name) fun _ =>
    let (workspace, saved) := workspace.resetSection (.str name)
    Response.andThen workspace saved (saySaved workspace s!"Reset [{name}] to defaults.")

end ChangeImpact.CommandLine.SettingCommands

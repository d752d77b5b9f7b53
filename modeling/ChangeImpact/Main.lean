import ChangeImpact.CommandLine.Run
import ChangeImpact.Home.Memory
import Std.Time.DateTime.Timestamp

/-!
# The program

Reads the files that a command line may need into a workspace, runs it, prints what it
wrote and stores the files that it changed.  The home directory holds the configuration,
the name of the active project, and the memory of all projects as one document.
-/

namespace ChangeImpact.Program

-- powers of whole numbers are the core ones, whatever else is imported
attribute [local instance (high)] instPowNat

/-- The path of a location. -/
def pathOf (location : Location) : String := "/" ++ "/".intercalate location

/-- The text of a file, if it can be read. -/
def readText? (location : Location) : IO (Option String) := do
  try return some (← IO.FS.readFile (pathOf location))
  catch _ => return none

/-- The workspace with the file at a location, if there is one. -/
def load (workspace : Workspace) (location : Location) : IO Workspace := do
  match ← readText? location with
  | none => return workspace
  | some text =>
    match workspace.provideFile location text with
    | .ok workspace => return workspace
    | .error _ => return workspace

/-- The document in which the memory is kept. -/
def memoryPath (home : Location) : Location := home ++ ["memory.json"]

/-- The words of a command line that may be paths, with and without an option in front. -/
def candidates (words : List String) : List String :=
  words.flatMap fun word =>
    let (_, value) := Text.splitFirst '=' word.toList
    [word, String.ofList (word.toList.drop 2)] ++ (value.map String.ofList).toList

/-- The location of the home directory. -/
def findHome (current : Location) : IO Location := do
  let user := (← IO.getEnv "HOME").getD "/"
  let chosen := (← IO.getEnv "SCOPEGRAPH_HOME").getD (user ++ "/.scopegraph")
  let chosen :=
    match chosen.toList with
    | '~' :: rest => user ++ String.ofList rest
    | _ => chosen
  return Workspace.stepsFrom current chosen

/-- The workspace that a command line starts from. -/
def start (words : List String) : IO Workspace := do
  let current := Workspace.stepsFrom [] (toString (← IO.currentDir))
  let home ← findHome current
  let now ← Std.Time.Timestamp.now
  let issuer : Issuer := { Issuer.start with issued := ← IO.rand 0 (10 ^ (15 : Nat)) }
  let mut workspace : Workspace :=
    ⟨.empty, home, current, issuer.atTime now.toMillisecondsSinceUnixEpoch.val⟩
  for location in [home, current] do
    workspace := (workspace.makeDirectory location).1
  let memory := (← readText? (memoryPath home)).getD ""
  if let .ok memory := Json.read memory then
    if let .ok made := workspace.withHome then workspace := made.withMemory memory
  for location in [workspace.configurationPath, workspace.statePath] do
    workspace ← load workspace location
  for path in candidates words do
    workspace ← load workspace (workspace.steps path)
  return workspace

/-- Stores the files that a command changed. -/
def store (before after : Workspace) : IO Unit := do
  if before.tree ≠ after.tree then
    IO.FS.createDirAll (pathOf after.home)
    IO.FS.writeFile (pathOf (memoryPath after.home)) after.memory.indented
    for (location, entry) in after.tree.entries do
      let isMemory := (FileTree.wayBelow? after.projectsPath location).isSome
      if !isMemory && before.tree.entry? location ≠ some entry then
        if let .file text := entry then IO.FS.writeFile (pathOf location) text

/-- Runs a command line. -/
def run (words : List String) : IO UInt32 := do
  let workspace ← start words
  let response := CommandLine.run workspace words
  for event in response.events do
    for line in event.lines do IO.println line
  store workspace response.workspace
  match response.ending with
  | .ok code => return UInt32.ofNat code
  | .error fault =>
    IO.eprintln ("Error: " ++ fault.message?.getD "")
    return 2

end ChangeImpact.Program

/-- Runs the command line that the program was started with. -/
def main (words : List String) : IO UInt32 := ChangeImpact.Program.run words

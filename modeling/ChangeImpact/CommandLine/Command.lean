import ChangeImpact.CommandLine.Parser
import ChangeImpact.Text.Quoted
import ChangeImpact.Text.Word

/-!
# Commands

Every command with what it is given.  `Command.read` finds the command that the words of a
command line call for: options of the program come first, then the name of a command or of
a group of commands with the name of one of them, then what the command is given.
-/

namespace ChangeImpact.CommandLine

/-- How an analysis is asked for. -/
structure AnalysisRequest where
  description : String
  knowledge : Option String
  modules : List String
  files : List String
  spec : Option String
  changeType : Option String
  maxDepth : Option Int
  withIndirect : Bool
  withImports : Bool
  withFlows : Bool
  diagram : String
  output : Option String
  asJson : Bool
deriving DecidableEq

/-- How references are asked for. -/
structure ListRequest where
  entity : Option String
  direction : String
  relationships : List String
  limit : Option Int
  offset : Int
  asJson : Bool
deriving DecidableEq

/-- A command. -/
inductive Command where
  | analyze (request : AnalysisRequest)
  | link (source target relationship : String) (metadata : List String) (creator : Option String)
  | unlink (source target : Option String) (relationship : String) (id : Option String)
  | listReferences (request : ListRequest)
  | related (entity : String) (depth : Int) (asJson : Bool)
  | mentions (entity : String) (text file creator : Option String)
  | createProject (name : String)
  | listProjects
  | loadProject (name : String)
  | unloadProject
  | deleteProject (name : String)
  | showSettings (group : Option String)
  | setSetting (key value : String)
  | resetSettings (group : String)
deriving DecidableEq

/-- What the words of a command line ask for. -/
inductive Call where
  | help
  | version
  | command (command : Command)
deriving DecidableEq

/-- A command before it is given anything. -/
structure CommandSpec where
  name : String
  signature : Signature
  command : Input → Command

namespace CommandSpec

open OptionSpec

/-- An argument that has to be given. -/
def needed (name : String) : ArgumentSpec := ⟨name, true⟩

/-- An argument that may be left out. -/
def optional (name : String) : ArgumentSpec := ⟨name, false⟩

/-- The analysis of a change. -/
def analyze : CommandSpec where
  name := "analyze"
  signature := {
    options := [valued "--knowledge" 'k' .existingFile, valued "--module" 'm' .text,
      valued "--file" 'f' .text, valued "--spec" none .text, valued "--type" 't' .text,
      valued "--max-depth" 'd' (.integerFrom 0), flag "--no-indirect" none,
      flag "--no-imports" none, flag "--no-flows" none, valued "--diagram" none .text,
      valued "--output" 'o' .path, flag "--json" none]
    arguments := [needed "DESCRIPTION"]
    mixed := true }
  command input := .analyze {
    description := input.argument 0
    knowledge := input.value? "--knowledge"
    modules := input.values "--module"
    files := input.values "--file"
    spec := input.value? "--spec"
    changeType := input.value? "--type"
    maxDepth := input.number? "--max-depth"
    withIndirect := !input.has "--no-indirect"
    withImports := !input.has "--no-imports"
    withFlows := !input.has "--no-flows"
    diagram := (input.value? "--diagram").getD "none"
    output := input.value? "--output"
    asJson := input.has "--json" }

/-- The commands on references. -/
def references : List CommandSpec :=
  [{ name := "link"
     signature := ⟨[valued "--rel" 'r' .text, valued "--meta" 'm' .text, valued "--by" none .text],
       [needed "SOURCE", needed "TARGET"], true⟩
     command input := .link (input.argument 0) (input.argument 1)
       ((input.value? "--rel").getD "related_to") (input.values "--meta") (input.value? "--by") },
   { name := "unlink"
     signature := ⟨[valued "--rel" 'r' .text, valued "--id" none .text],
       [optional "SOURCE", optional "TARGET"], true⟩
     command input := .unlink (input.argument? 0) (input.argument? 1)
       ((input.value? "--rel").getD "related_to") (input.value? "--id") },
   { name := "list"
     signature := ⟨[valued "--direction" 'd' .text, valued "--rel" 'r' .text,
       valued "--limit" 'n' .integer, valued "--offset" none .integer, flag "--json" none],
       [optional "ENTITY"], true⟩
     command input := .listReferences {
       entity := input.argument? 0
       direction := (input.value? "--direction").getD "both"
       relationships := input.values "--rel"
       limit := input.number? "--limit"
       offset := (input.number? "--offset").getD 0
       asJson := input.has "--json" } },
   { name := "related"
     signature := ⟨[valued "--depth" 'd' (.integerFrom 1), flag "--json" none], [needed "ENTITY"],
       true⟩
     command input := .related (input.argument 0) ((input.number? "--depth").getD 1)
       (input.has "--json") },
   { name := "mentions"
     signature := ⟨[valued "--file" 'f' .existingFile, valued "--by" none .text],
       [needed "ENTITY", optional "TEXT"], true⟩
     command input := .mentions (input.argument 0) (input.argument? 1) (input.value? "--file")
       (input.value? "--by") }]

/-- The commands on projects. -/
def projects : List CommandSpec :=
  [⟨"create", ⟨[], [needed "PROJECT_NAME"], true⟩, fun input => .createProject (input.argument 0)⟩,
   ⟨"list", ⟨[], [], true⟩, fun _ => .listProjects⟩,
   ⟨"load", ⟨[], [needed "PROJECT_NAME"], true⟩, fun input => .loadProject (input.argument 0)⟩,
   ⟨"unload", ⟨[], [], true⟩, fun _ => .unloadProject⟩,
   ⟨"delete", ⟨[], [needed "PROJECT_NAME"], true⟩, fun input => .deleteProject (input.argument 0)⟩]

/-- The commands on settings. -/
def settings : List CommandSpec :=
  [⟨"show", ⟨[], [optional "SECTION"], true⟩, fun input => .showSettings (input.argument? 0)⟩,
   ⟨"set", ⟨[], [needed "KEY", needed "VALUE"], true⟩,
     fun input => .setSetting (input.argument 0) (input.argument 1)⟩,
   ⟨"reset", ⟨[], [needed "SECTION"], true⟩, fun input => .resetSettings (input.argument 0)⟩]

/-- The groups of commands. -/
def groups : List (String × List CommandSpec) :=
  [("refs", references), ("project", projects), ("config", settings)]

end CommandSpec

/-- The options of the program. -/
def programSignature : Signature :=
  ⟨[.flag "--version" 'V', .flag "--verbose" 'v', .flag "--install-completion" none,
    .flag "--show-completion" none], [], false⟩

/-- A group takes no options of its own. -/
def groupSignature : Signature := ⟨[], [], false⟩

namespace Words

/-- Whether one of the words asks for help. -/
def asksHelp (words : Words) : Bool := words.options.any fun given => given.1 = helpOption

/-- The name that the arguments begin with, and the rest of them. -/
def name (words : Words) : Checked (String × List String) :=
  match words.arguments with
  | [] => .error (.usage "Missing command.")
  | name :: rest => .ok (name, rest)

end Words

namespace Command

variable [Parser]

/-- The fault of a command that does not exist. -/
def unknown (name : String) : Fault := .usage s!"No such command {Text.quoted name}."

/-- The call of a command with what it is given. -/
def readInput (workspace : Workspace) (spec : CommandSpec) (words : List String) : Checked Call := do
  let words ← Parser.scan spec.signature words
  if words.asksHelp then return .help
  return .command (spec.command (← Parser.input workspace spec.signature words))

/-- The call of a command of a group. -/
def readGroup (workspace : Workspace) (specs : List CommandSpec) (words : List String) :
    Checked Call := do
  let words ← Parser.scan groupSignature words
  if words.asksHelp then return .help
  let (name, rest) ← words.name
  match specs.find? fun spec => spec.name = name with
  | some spec => readInput workspace spec rest
  | none => throw (unknown name)

/-- Whether a name begins like one of a command: with a letter or digit, if with anything. -/
def isPlain (name : String) : Bool :=
  match name.toList with
  | c :: _ => Text.isWord c && c != '_'
  | [] => true

/-- What the words of a command line ask for. -/
def read (workspace : Workspace) (words : List String) : Checked Call := do
  if words.isEmpty then return .help
  let words ← Parser.scan programSignature words
  match words.options.find? fun given => given.1.long = "--version" || given.1 = helpOption with
  | some given => return if given.1 = helpOption then .help else .version
  | none =>
    let (name, rest) ← words.name
    if name = CommandSpec.analyze.name then readInput workspace .analyze rest
    else
      match CommandSpec.groups.find? fun group => group.1 = name with
      | some group => readGroup workspace group.2 rest
      | none => if isPlain name then throw (unknown name) else return .help

end Command

end ChangeImpact.CommandLine

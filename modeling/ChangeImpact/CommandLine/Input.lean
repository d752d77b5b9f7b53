import ChangeImpact.CommandLine.Signature
import ChangeImpact.Decimal.Numeral
import ChangeImpact.Home.Workspace

/-!
# The input of a command

Sorted words become the input of a command once their values are checked: options in the
order in which they first occur, then the arguments in the order of the signature, and last
whether there are arguments too many.  Of an option that is given more than once the last
value is checked and counts, unless the command asks for all of them.
-/

namespace ChangeImpact.CommandLine

/-- What a command is given: options by their long names, and arguments. -/
structure Input where
  options : List (String × Option String)
  arguments : List (Option String)
deriving DecidableEq

namespace Input

/-- Whether an option is given. -/
def has (input : Input) (name : String) : Bool := input.options.any fun option => option.1 = name

/-- All values of an option. -/
def values (input : Input) (name : String) : List String :=
  input.options.filterMap fun option => if option.1 = name then option.2 else none

/-- The value of an option that counts. -/
def value? (input : Input) (name : String) : Option String := (input.values name).getLast?

/-- The value of an option as a whole number. -/
def number? (input : Input) (name : String) : Option Int :=
  (input.value? name).bind fun raw =>
    match Numeral.readInt raw with
    | .ok n => some n
    | .error _ => none

/-- An argument; empty if it is not there. -/
def argument (input : Input) (i : Nat) : String := ((input.arguments[i]?).getD none).getD ""

/-- An argument that may be missing. -/
def argument? (input : Input) (i : Nat) : Option String := (input.arguments[i]?).getD none

/-! ## Checks -/

/-- The fault of a value that an option does not accept. -/
def badValue (option : OptionSpec) (reason : String) : Fault :=
  .badArgument s!"Invalid value for {option.hint}: {reason}"

/-- A whole number among the options. -/
def checkInteger (option : OptionSpec) (kind raw : String) : Checked Int :=
  match Numeral.readInt raw with
  | .ok n => .ok n
  | .error _ => .error (badValue option s!"{Text.quoted raw} is not a valid {kind}.")

/-- The steps of a path as it is written, where an empty piece asks for a directory. -/
def rawSteps (start : Location) (path : String) : List String :=
  let pieces := (Text.splitAll '/' path.toList).map fun piece =>
    if piece = [] then "." else String.ofList piece
  if path.toList.head? = some '/' then pieces else start ++ pieces

/-- What is found at a path as it is written. -/
def entryAt? (workspace : Workspace) (path : String) : Checked (Option Entry) :=
  if path = "" then .ok none
  else if path.toList.contains '\x00' then .error .nullInName
  else
    match workspace.tree.walk (rawSteps workspace.current path) with
    | .ok location => .ok (workspace.tree.entry? location)
    | .error _ => .ok none

/-- Faults unless a file is found at a path. -/
def checkFile (workspace : Workspace) (option : OptionSpec) (path : String) : Checked Unit := do
  match ← entryAt? workspace path with
  | none => throw (badValue option s!"File {Text.quoted path} does not exist.")
  | some .directory => throw (badValue option s!"File {Text.quoted path} is a directory.")
  | some _ => return ()

/-- Faults on a value that an option does not accept. -/
def checkValue (workspace : Workspace) (option : OptionSpec) (raw : String) : Checked Unit := do
  match option.kind with
  | none | some .text => return ()
  | some .integer =>
    let _ ← checkInteger option "integer" raw
  | some (.integerFrom least) =>
    let n ← checkInteger option "integer range" raw
    guardThat (least ≤ n) (badValue option s!"{n} is not in the range x>={least}.")
  | some .path => guardThat (!raw.toList.contains '\x00') .nullInName
  | some .existingFile => checkFile workspace option raw

/-- Faults on the value of an option that counts. -/
def checkOption (workspace : Workspace) (words : Words) (option : OptionSpec) : Checked Unit :=
  match (words.options.filterMap fun given =>
      if given.1 = option then given.2 else none).getLast? with
  | some raw => checkValue workspace option raw
  | none => .ok ()

/-- Gives the arguments of a signature their words; faults if one that is needed is
missing. -/
def assign : List ArgumentSpec → List String → Checked (List (Option String))
  | [], _ => .ok []
  | spec :: specs, [] =>
    if spec.needed then .error (.missingArgument s!"Missing argument '{spec.name}'.")
    else (assign specs []).map (none :: ·)
  | _ :: specs, word :: words => (assign specs words).map (some word :: ·)

/-- Faults on arguments that a signature has no place for. -/
def checkExtra (signature : Signature) (words : List String) : Checked Unit :=
  match words.drop signature.arguments.length with
  | [] => .ok ()
  | [word] => .error (.usage s!"Got unexpected extra argument ({word})")
  | words =>
    let listed := " ".intercalate words
    .error (.usage s!"Got unexpected extra arguments ({listed})")

/-- The input that sorted words give. -/
def ofWords (workspace : Workspace) (signature : Signature) (words : Words) : Checked Input := do
  (words.options.map Prod.fst).eraseDups.forM (checkOption workspace words)
  let arguments ← assign signature.arguments words.arguments
  checkExtra signature words.arguments
  return ⟨words.options.map fun option => (option.1.long, option.2), arguments⟩

end Input

end ChangeImpact.CommandLine

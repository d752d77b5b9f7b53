import ChangeImpact.Fault
import ChangeImpact.Text.Search
import ChangeImpact.Text.Similarity

/-!
# Reading the words of a command line

A signature says which options and arguments a command has.  Options begin with a hyphen:
`--name value`, `--name=value`, `-n value` or `-nvalue`, and options of one letter that take
no value may share a hyphen.  Two hyphens alone end the options; whatever else begins with
no hyphen is an argument.

`Signature.scan` sorts the words into options and arguments and faults on the first word
that does not fit, naming options that are spelled nearly the same.
-/

namespace ChangeImpact.CommandLine

/-- What a value on the command line has to be. -/
inductive ValueKind where
  | text
  | integer
  | integerFrom (least : Int)
  | path
  | existingFile
deriving DecidableEq

/-- An option: its long name, its letter, and what its value has to be if it takes one. -/
structure OptionSpec where
  long : String
  letter : Option Char
  kind : Option ValueKind
deriving DecidableEq

namespace OptionSpec

/-- An option that takes a value. -/
def valued (long : String) (letter : Option Char) (kind : ValueKind) : OptionSpec :=
  ⟨long, letter, some kind⟩

/-- An option that takes no value. -/
def flag (long : String) (letter : Option Char) : OptionSpec := ⟨long, letter, none⟩

/-- The name of a letter. -/
def letterName (letter : Char) : String := String.ofList ['-', letter]

/-- The names of the option as messages list them. -/
def hint (option : OptionSpec) : String :=
  match option.letter with
  | some letter => s!"'{option.long}' / '{letterName letter}'"
  | none => s!"'{option.long}'"

end OptionSpec

/-- An argument: its name in messages, and whether it has to be given. -/
structure ArgumentSpec where
  name : String
  needed : Bool
deriving DecidableEq

/-- The options and arguments of a command, and whether options may follow arguments. -/
structure Signature where
  options : List OptionSpec
  arguments : List ArgumentSpec
  mixed : Bool
deriving DecidableEq

/-- The words of a command line, sorted: options with their values, in the order given, and
arguments. -/
structure Words where
  options : List (OptionSpec × Option String)
  arguments : List String
deriving DecidableEq

/-- The option that every command has. -/
def helpOption : OptionSpec := .flag "--help" none

namespace Signature

/-- All options of a command. -/
def allOptions (signature : Signature) : List OptionSpec := signature.options ++ [helpOption]

/-- The option with a long name. -/
def byName? (signature : Signature) (name : String) : Option OptionSpec :=
  signature.allOptions.find? fun option => option.long = name

/-- The option with a letter. -/
def byLetter? (signature : Signature) (letter : Char) : Option OptionSpec :=
  signature.allOptions.find? fun option => option.letter = some letter

/-- The fault of an unknown option, with those that it may be meant for. -/
def unknownOption (name : String) (close : List String) : Fault :=
  let close := close.mergeSort fun a b => decide (a ≤ b)
  .noSuchOption <|
    match close with
    | [] => s!"No such option: {name}"
    | [only] => s!"No such option: {name} Did you mean {only}?"
    | _ => s!"No such option: {name} (Possible options: {Fault.listed close})"

/-- The fault of an option without the value that it takes. -/
def lacksValue (name : String) : Fault := .badOptionUse s!"Option '{name}' requires an argument."

/-- What one word gives: options without values, and perhaps one that takes a value, under
the name that it was given by, with the value if the word holds it. -/
structure Reading where
  flags : List OptionSpec
  valued : Option (OptionSpec × String × Option String)

/-- Reads the letters behind a hyphen. -/
def readLetters (signature : Signature) : List Char → Checked Reading
  | [] => .ok ⟨[], none⟩
  | letter :: rest =>
    match signature.byLetter? letter with
    | none => .error (unknownOption (OptionSpec.letterName letter) [])
    | some option =>
      match option.kind with
      | some _ =>
        let value := if rest.isEmpty then none else some (String.ofList rest)
        .ok ⟨[], some (option, OptionSpec.letterName letter, value)⟩
      | none => do
        let reading ← signature.readLetters rest
        return { reading with flags := option :: reading.flags }

/-- Reads a word that begins with a hyphen. -/
def readOption (signature : Signature) (word : String) : Checked Reading :=
  let (name, value) := Text.splitFirst '=' word.toList
  let name := String.ofList name
  let value := value.map String.ofList
  match signature.byName? name, word.toList with
  | some option, _ =>
    match option.kind, value with
    -- without a value behind the sign the next word is the value
    | some _, value => .ok ⟨[], some (option, name, value)⟩
    | none, none => .ok ⟨[option], none⟩
    | none, some _ => .error (.badOptionUse s!"Option '{name}' does not take a value.")
  | none, '-' :: '-' :: _ =>
    .error (unknownOption name (Text.closest 3 name (signature.allOptions.map OptionSpec.long)))
  | none, '-' :: letters => signature.readLetters letters
  | none, _ => .error (unknownOption name [])

/-- Whether a word is to be read as options. -/
def isOption (word : String) : Bool :=
  match word.toList with
  | '-' :: _ :: _ => true
  | _ => false

/-- The words with further options in front. -/
def addOptions (options : List (OptionSpec × Option String)) (words : Words) : Words :=
  { words with options := options ++ words.options }

/-- Sorts words into options and arguments. -/
def scan (signature : Signature) : List String → Checked Words
  | [] => .ok ⟨[], []⟩
  | word :: rest =>
    if word = "--" then .ok ⟨[], rest⟩
    else if isOption word then
      match signature.readOption word with
      | .error fault => .error fault
      | .ok reading =>
        let flags := reading.flags.map fun option => (option, none)
        match reading.valued with
        | none => (signature.scan rest).map (addOptions flags)
        | some (option, _, some value) =>
          (signature.scan rest).map (addOptions (flags ++ [(option, some value)]))
        | some (option, name, none) =>
          match rest with
          | [] => .error (lacksValue name)
          | value :: rest => (signature.scan rest).map (addOptions (flags ++ [(option, some value)]))
    else if signature.mixed then do
      let words ← signature.scan rest
      return { words with arguments := word :: words.arguments }
    else .ok ⟨[], word :: rest⟩

end Signature

end ChangeImpact.CommandLine

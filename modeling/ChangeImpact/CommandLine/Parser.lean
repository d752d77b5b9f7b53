import ChangeImpact.CommandLine.Input

/-!
# The package for command lines

How the words of a command line are sorted and how their values are checked is up to a package as well:
a command only says which options and arguments it has, and takes what the package finds for them.
-/

namespace ChangeImpact.CommandLine

/-- What sorts the words of a command line and checks their values. -/
class Parser where
  /-- The words, sorted into options and arguments. -/
  scan : Signature → List String → Checked Words
  /-- What a command is given by words that were sorted. -/
  input : Workspace → Signature → Words → Checked Input

/-- The package that the program runs with. -/
instance standardParser : Parser := ⟨Signature.scan, Input.ofWords⟩

end ChangeImpact.CommandLine

import ChangeImpact.Toml.Reader
import ChangeImpact.Toml.Writer

/-!
# The package for configuration files

How configuration files are read and written is up to a package, which the settings take as it is:
whatever they do is defined for any reader and any writer of tables.  The one that the program runs with
is that of the modules before this one.
-/

namespace ChangeImpact.Toml

/-- A reader and a writer of configuration files. A file that is not well formed is the fault
`malformedSettings`; other faults pass through. -/
class Package where
  /-- The tables and values of a file, in order. -/
  read : List Char → Checked (List (String × Value))
  /-- The file that holds some tables and values. -/
  write : List (String × Value) → Checked String

/-- The package that the program runs with. -/
instance standard : Package := ⟨Toml.read, Toml.write⟩

end ChangeImpact.Toml

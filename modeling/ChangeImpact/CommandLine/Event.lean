import ChangeImpact.Home.Workspace
import ChangeImpact.Text.Markup

/-!
# What a command answers

A command writes lines, marked-up lines and tables, one after the other, and ends with an
exit code or a fault; what was written before a fault stays written.
-/

namespace ChangeImpact.CommandLine

/-- Something that a command writes. -/
inductive Event where
  | line (text : String)
  | markup (text : String)
  | table (title : String) (columns : List String) (rows : List (List String))
deriving DecidableEq

/-- A row of cells on one line. -/
def rowText (cells : List String) : String := "  ".intercalate (cells.map Text.withoutMarkup)

/-- The lines that an event is shown as on a plain console. -/
def Event.lines : Event → List String
  | .line text => [text]
  | .markup text => [Text.withoutMarkup text]
  | .table title columns rows => title :: rowText columns :: rows.map rowText

/-- What a command leaves behind: the workspace, what it wrote, and its exit code or the
fault that ended it. -/
structure Response where
  workspace : Workspace
  events : List Event
  ending : Checked Nat

namespace Response

/-- A command that did its work. -/
def done (workspace : Workspace) (events : List Event) : Response := ⟨workspace, events, .ok 0⟩

/-- A command that wrote one line. -/
def say (workspace : Workspace) (text : String) : Response := done workspace [.line text]

/-- A command that wrote one line and ended without success. -/
def refuse (workspace : Workspace) (text : String) : Response := ⟨workspace, [.line text], .ok 1⟩

/-- A command that a fault ended before it wrote anything. -/
def failed (workspace : Workspace) (fault : Fault) : Response := ⟨workspace, [], .error fault⟩

/-- Goes on with a result; a fault ends the command. -/
def andThen (workspace : Workspace) (result : Checked α) (next : α → Response) : Response :=
  match result with
  | .ok a => next a
  | .error fault => failed workspace fault

/-- Writes events up to the first fault. -/
def writeAll : List (Checked Event) → List Event × Checked Unit
  | [] => ([], .ok ())
  | .error fault :: _ => ([], .error fault)
  | .ok event :: rest =>
    let (events, result) := writeAll rest
    (event :: events, result)

end Response

/-- The fault of a value that a command does not accept. -/
def invalid (reason : String) : Fault := .badArgument s!"Invalid value: {reason}"

/-- A fault about a value as the fault of a value that a command does not accept, with some words
before its wording; other faults stay as they are. -/
def asInvalid (introduction : String) (fault : Fault) : Fault :=
  if fault.isAboutValue then invalid (introduction ++ fault.message?.getD "") else fault

end ChangeImpact.CommandLine

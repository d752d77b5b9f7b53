import ChangeImpact.CommandLine.Event
import ChangeImpact.Report
import ChangeImpact.Text.Markup

/-!
# Showing a report

A report on the console: a few lines on the change and its scope, then tables of dependent
modules, affected files, data flows and risks, each left out if it would be empty, then the
checklist and a summary.

Names stand in tables and lists as they are, so that one that is no text ends the report
where it would be written.
-/

namespace ChangeImpact.CommandLine.ReportView

/-- A text in a style. -/
def styled (style text : String) : String := s!"[{style}]{text}[/{style}]"

/-- A heading of a line. -/
def heading (text : String) : String := styled "bold" (text ++ ":")

/-- A line of values, each under its heading. -/
def headedLine (parts : List (String × String)) : Event :=
  .markup ("  ".intercalate (parts.map fun part => heading part.1 ++ " " ++ part.2))

/-- The style of a level. -/
def levelStyle : ImpactLevel → String
  | .direct => "red"
  | .indirect => "yellow"
  | .cascade => "green"

/-- The style of a severity. -/
def severityStyle : Severity → String
  | .critical => "bold red"
  | .high => "red"
  | .medium => "yellow"
  | .low => "green"

/-- A level in its style; other levels have none. -/
def levelCell (level : Tag ImpactLevel) : Checked String :=
  match level with
  | .known level => .ok (styled (levelStyle level) (Vocabulary.name level))
  | .other value => do
    Json.needKeys [value]
    throw .missingKey

/-- Names in a row; all of them have to be texts. -/
def joined (separator : String) (names : List Name) : Checked String := do
  Json.needTexts names .wrongType
  return separator.intercalate (names.map Json.display)

/-- A name in a cell of a table; null leaves the cell empty. -/
def cell (name : Name) : Checked String :=
  match name with
  | .str text => .ok text
  | .null => .ok ""
  | _ => .error .notShowable

/-- Names in a row, or a hyphen if there are none. -/
def listLine (title : String) (names : List Name) : Checked Event := do
  let text ← joined ", " names
  return headedLine [(title, if text = "" then "-" else text)]

/-- A table, unless it would have no rows. -/
def table (title : String) (columns : List String) (row : α → Checked (List String))
    (items : List α) : List (Checked Event) :=
  if items.isEmpty then []
  else [do return .table title columns (← items.mapM row)]

/-- A mark where something holds. -/
def tick (holds : Bool) : String := if holds then "✓" else ""

/-- The row of a dependent module. -/
def moduleRow (found : ScopedModule) : Checked (List String) := do
  let level ← levelCell found.level
  let path ← joined " > " found.path
  return [← cell found.moduleName, level, path, found.reason]

/-- The row of an affected file. -/
def fileRow (found : ScopedFile) : Checked (List String) := do
  let level ← levelCell found.level
  let owner := if found.moduleId.truthy then found.moduleId else .str ""
  return [← cell found.filePath, level, ← cell owner, found.reason]

/-- The row of a data flow. -/
def flowRow (flow : ImpactFlow) : Checked (List String) := do
  let level ← levelCell flow.level
  return [s!"{flow.source.display} → {flow.target.display}", ← joined ", " flow.entities,
    flow.flowType.toJson.display, flow.strength.toJson.display, level,
    tick flow.validationRequired]

/-- The row of a risk. -/
def riskRow (risk : Risk) : Checked (List String) := do
  return [← cell risk.ruleId, ← cell risk.name,
    styled (severityStyle risk.severity) (Vocabulary.name risk.severity), tick risk.blocks,
    ← cell risk.mitigation]

/-- The lines of suggested tests, each test once. -/
def testLines (flows : List ImpactFlow) : List (Checked Event) :=
  let tests := (flows.flatMap ImpactFlow.suggestedTests).eraseDups
  if tests.isEmpty then []
  else
    .ok (.markup (heading "Suggested tests")) ::
      tests.map fun test => .ok (.markup s!"  • {test.display}")

/-- The line of a checklist entry. -/
def itemLine (item : CheckItem) : Event :=
  let marker := if item.blocks then styled "red" "■" else "□"
  let title := Text.escapeMarkup s!"[{Vocabulary.name item.category}] {item.title}"
  let command :=
    match item.verifyCommand with
    | some command => if command = "" then "" else "  " ++ styled "dim" ("$ " ++ command)
    | none => ""
  .markup s!"  {marker} {title}{command}"

/-- The lines of a checklist. -/
def checklistLines (items : List CheckItem) : List (Checked Event) :=
  if items.isEmpty then []
  else
    .ok (.markup (heading "Validation checklist")) :: items.map fun item => .ok (itemLine item)

/-- The line on a change. -/
def changeLine (report : Report) : Event := headedLine
  [("Change type", Vocabulary.name report.parsed.changeType),
    ("Confidence", report.parsed.confidence.fixed 2),
    ("Depth", toString report.scope.expansionDepth)]

/-- The line of numbers at the end. -/
def summaryLine (report : Report) : Event := headedLine
  [("Flows", toString report.flows.length),
    ("Need validation", toString report.validationFlows.length),
    ("Criticality", report.graph.criticality.fixed 2),
    ("Blocking risks", toString report.blockingRisks.length)]

/-- Everything that is written about a report. -/
def events (report : Report) : List (Checked Event) :=
  [.ok (changeLine report), listLine "Primary modules" report.scope.primaryModules,
    listLine "Primary files" report.scope.primaryFiles,
    listLine "Entities" report.scope.affectedEntities] ++
  table "Dependent modules" ["Module", "Level", "Path", "Reason"] moduleRow
    report.scope.dependentModules ++
  table "Affected files" ["File", "Level", "Module", "Reason"] fileRow report.scope.affectedFiles ++
  table "Data flows" ["Flow", "Entities", "Type", "Strength", "Level", "Validate"] flowRow
    report.flows ++
  testLines report.flows ++
  table "Risks" ["Rule", "Risk", "Severity", "Blocking", "Mitigation"] riskRow report.risks ++
  checklistLines report.checklist ++ [.ok (summaryLine report)]

end ChangeImpact.CommandLine.ReportView

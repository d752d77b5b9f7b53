import ChangeImpact.CommandLine.Command
import ChangeImpact.CommandLine.ReportView
import ChangeImpact.Diagram.Dot
import ChangeImpact.Home.Configuration
import ChangeImpact.Json.Writer
import ChangeImpact.Knowledge.Document
import ChangeImpact.Settings.Analysis

/-!
# Analysing a change

The command that analyses a change: it reads the knowledge, takes what is not given from
the settings, shows the report and draws a diagram if one is asked for.
-/

namespace ChangeImpact.CommandLine

namespace AnalysisRequest

variable [Toml.Package]

/-- The diagrams that can be asked for. -/
def diagrams : List String := ["none", "flowchart", "er", "dot"]

/-- Faults on a diagram that there is not, or that cannot be shown. -/
def check (request : AnalysisRequest) : Checked Unit := do
  guardThat (diagrams.contains request.diagram)
    (invalid s!"Diagram must be one of: {Fault.listed diagrams}.")
  guardThat (request.diagram ≠ "dot" || request.output.isSome)
    (invalid "--diagram dot requires --output.")

/-- The record of the change. -/
def change (request : AnalysisRequest) : Checked Json :=
  Change.schema.build (.obj
    [("description", .str request.description),
      ("target_modules", .arr (request.modules.map Json.str)),
      ("target_files", .arr (request.files.map Json.str)),
      ("spec_id", Json.ofOption Json.str request.spec),
      ("change_type", Json.ofOption Json.str request.changeType)])

/-- What is given on top of the settings. -/
def given (request : AnalysisRequest) : List (String × Json) :=
  let flag (wanted : Bool) : Json := if wanted then .null else .bool false
  [("max_depth", Json.ofOption Json.int request.maxDepth),
    ("include_indirect", flag request.withIndirect),
    ("expand_imports", flag request.withImports),
    ("expand_data_flows", flag request.withFlows)]

/-- The knowledge in a file. -/
def readKnowledge (workspace : Workspace) (path : String) : Checked Knowledge := do
  let text ← workspace.readLines (workspace.steps path)
  let shown := String.ofList (PathName.spelled path.toList)
  let loaded ← (Knowledge.ofText text.toList).mapError
    (asInvalid s!"Invalid knowledge file {shown}: ")
  return loaded.knowledge

/-- The report that is asked for. -/
def report (workspace : Workspace) (request : AnalysisRequest) : Checked Report := do
  request.check
  let change ← request.change.mapError (asInvalid "")
  let reach ← Settings.reach (← workspace.settings) request.given
  let knowledge ← request.knowledge.mapM (readKnowledge workspace)
  let checks ← Settings.checks (← workspace.settings) []
  let parsed ← Parsed.ofChangeRecord change
  Report.analyzeChecked ⟨knowledge, knowledge, knowledge, knowledge⟩ knowledge (.ok reach) checks
    change parsed.toJson

/-- How a report is shown. -/
def shown (request : AnalysisRequest) (report : Report) : List (Checked Event) :=
  if request.asJson then [.ok (.line report.toJson.indented)] else ReportView.events report

/-- The diagram of a report: its text, and what it is called where it is written to a
file. -/
def diagramOf (request : AnalysisRequest) (report : Report) : Checked (String × String) := do
  if request.diagram = "dot" then
    report.graph.checkDotTexts
    return (Dot.text report.graph, "DOT graph")
  else if request.diagram = "flowchart" then
    report.graph.checkFlowchartTexts
    let diagram := MermaidDiagram.flowchart report.graph MermaidDiagram.flowchartTitle
    return (diagram.code, "Mermaid " ++ diagram.kind)
  else
    report.graph.checkRelationTexts
    let diagram := MermaidDiagram.entityRelationship report.graph MermaidDiagram.relationshipTitle
    return (diagram.code, "Mermaid " ++ diagram.kind)

/-- Writes the diagram that is asked for. -/
def draw (workspace : Workspace) (request : AnalysisRequest) (report : Report) :
    Checked (Workspace × List Event) := do
  if request.diagram = "none" then return (workspace, [])
  let (text, name) ← request.diagramOf report
  match request.output with
  | none => return (workspace, [.line text])
  | some path =>
    let text := if request.diagram = "dot" then text else text ++ "\n"
    let workspace ← workspace.writeFile (workspace.steps path) text
    let shown := String.ofList (PathName.spelled path.toList)
    return (workspace, [.line s!"{name} written to {shown}"])

/-- Analyses a change. -/
def run (workspace : Workspace) (request : AnalysisRequest) : Response :=
  Response.andThen workspace (request.report workspace) fun report =>
    match Response.writeAll (request.shown report) with
    | (events, .error fault) => ⟨workspace, events, .error fault⟩
    | (events, .ok ()) =>
      match request.draw workspace report with
      | .ok (workspace, drawn) => .done workspace (events ++ drawn)
      | .error fault => ⟨workspace, events, .error fault⟩

end AnalysisRequest

end ChangeImpact.CommandLine

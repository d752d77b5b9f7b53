import ChangeImpact.Change.Parsed
import ChangeImpact.Checklist.Generation
import ChangeImpact.Flow.Graph
import ChangeImpact.Flow.Statistics
import ChangeImpact.Scope.Detection

/-!
# Impact reports

A report is everything that is found out about a change: its scope, the data flows that it
affects with their graph, its risks by the built-in rules and the checklist for it.

The flows are taken from the catalog of all declared flows if there is one, and otherwise
from the flows of the affected entities; flows that agree in every part count once.

`analyze` and `candidateFlows` are the operations `analyze` and `candidate_flows`.
-/

namespace ChangeImpact

/-- Everything found out about a change. -/
structure Report where
  change : Change
  parsed : Parsed
  scope : Scope
  flows : List ImpactFlow
  graph : FlowGraph
  risks : List Risk
  checklist : List CheckItem

namespace Report

/-- The flows to look at: each declared one, or those of the affected entities. -/
def candidateFlows (sources : Sources) (catalog : Option Knowledge) (scope : Scope) :
    List DataFlow :=
  (match catalog, sources.flows with
    | some knowledge, _ => knowledge.flows
    | none, some knowledge => scope.affectedEntities.flatMap knowledge.flowsOf
    | none, none => []).eraseDupsBy DataFlow.agrees

/-- The report on a change whose scope is known. -/
def ofScope (sources : Sources) (catalog : Option Knowledge) (settings : CheckSettings)
    (change : Change) (parsed : Parsed) (scope : Scope) : Report :=
  let flows := ImpactFlow.ofFlows (candidateFlows sources catalog scope) scope
  let risks := BuiltInRule.risks { change, parsed, scope, flows }
  { change, parsed, scope, flows
    graph := FlowGraph.ofFlows flows scope
    risks
    checklist := Checklist.generate settings scope flows risks }

/-- The report on a change. -/
def analyze (sources : Sources) (catalog : Option Knowledge) (reach : Reach)
    (settings : CheckSettings) (change : Change) (parsed : Parsed) : Report :=
  ofScope sources catalog settings change parsed (Scope.detect sources reach change parsed)

/-- The report on the change of a record; faults on whatever cannot take part. -/
def analyzeChecked (sources : Sources) (catalog : Option Knowledge) (reach : Checked Reach)
    (settings : CheckSettings) (change parsed : Json) : Checked Report := do
  let scope ← Scope.detectChecked sources reach change parsed
  let flows := candidateFlows sources catalog scope
  flows.forM fun flow =>
    Json.needKeys ([flow.source, flow.target] ++ flow.entities ++ flow.relationships)
  let impacts ← ImpactFlow.ofFlowsChecked flows scope.toJson
  FlowGraph.check impacts scope
  let records := impacts.map ImpactFlow.toJson
  let _ ← RiskRule.assess BuiltInRule.rules (.ofRecords change parsed scope.toJson records)
  Checklist.check settings scope.toJson records
  return ofScope sources catalog settings (.ofRecord change) (.ofRecord parsed) scope

/-- The ids of the flows that need validation. -/
def validationFlows (report : Report) : List Name :=
  (report.flows.filter ImpactFlow.validationRequired).map ImpactFlow.id

/-- The ids of the risks that block the change. -/
def blockingRisks (report : Report) : List Name :=
  (report.risks.filter Risk.blocks).map Risk.id

/-- The ids of the checklist entries that block the change. -/
def blockingItems (report : Report) : List String :=
  (report.checklist.filter CheckItem.blocks).map CheckItem.id

/-- The report as a record, around the records of the change, of what its text says and of its
scope. -/
def recordWith (report : Report) (change parsed scope : Json) : Json := .obj
  [("change", change), ("parsed", parsed), ("scope", scope),
    ("flows", .arr (report.flows.map ImpactFlow.toJson)), ("graph", report.graph.toJson),
    ("statistics", ImpactFlow.statistics report.flows),
    ("risks", .arr (report.risks.map Risk.toJson)),
    ("validations", .arr (report.checklist.map CheckItem.toJson))]

/-- The report as a record. -/
def toJson (report : Report) : Json :=
  report.recordWith report.change.toJson report.parsed.toJson report.scope.toJson

end Report

end ChangeImpact

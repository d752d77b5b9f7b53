import ChangeImpact.Flow.Graph
import ChangeImpact.Text.Blank
import ChangeImpact.Text.Search

/-!
# Mermaid diagrams

A flow graph drawn as a Mermaid flowchart, with affected nodes coloured by their level, and
as an entity-relationship diagram.  Nodes are declared under their ids with an underscore
for everything but ASCII letters and digits.

`flowchart` and `entityRelationship` are the operations `generate_flowchart_diagram` and
`generate_er_diagram`; `identifier` is `_sanitize_id`, and `label` is `_mermaid_label`.
-/

namespace ChangeImpact

/-- The text of a diagram, with its kind and title. -/
structure MermaidDiagram where
  kind : String
  title : Name
  code : String
deriving DecidableEq

namespace MermaidDiagram

/-- The diagram as a record. -/
def toJson (diagram : MermaidDiagram) : Json := .obj
  [("type", .str diagram.kind), ("title", diagram.title), ("code", .str diagram.code)]

/-- The identifier of a node: its id with underscores for all but ASCII letters and
digits. -/
def identifier (id : Name) : String :=
  String.ofList (id.display.toList.map fun c => if c.isAlphanum then c else '_')

/-- A text inside quotation marks. -/
def label (text : Name) : String :=
  String.ofList (Text.replaceChar '"' "#quot;".toList text.display.toList)

/-- How a node of a level is coloured. -/
def style : ImpactLevel → String
  | .direct => "fill:#ff6b6b,stroke:#c92a2a"
  | .indirect => "fill:#ffd43b,stroke:#f59f00"
  | .cascade => "fill:#69db7c,stroke:#37b24d"

/-- The arrow of a flow; that of a read flow where the type is unknown. -/
def arrow : Tag FlowType → String
  | .known .bidirectional => "<-->"
  | .known .write => "-.->"
  | .known .read | .other _ => "-->"

/-- The cardinality of a flow in an entity-relationship diagram. -/
def cardinality : Tag FlowType → String
  | .known .read => "||--o\x7b"
  | .known .write => "\x7do--||"
  | .known .bidirectional => "\x7do--o\x7b"
  | .other _ => "||--||"

/-- The level that colours a node, if it is affected. -/
def colourLevel? (node : FlowNode) : Option ImpactLevel :=
  if node.isAffected then node.level.bind Tag.member? else none

/-- The line that declares a node. -/
def nodeLine (node : FlowNode) : String :=
  match node.kind with
  | .module => s!"    {identifier node.id}([\"{label node.label}\"])"
  | .entity => s!"    {identifier node.id}((\"{label node.label}\"))"

/-- The line that draws an edge. -/
def edgeLine (edge : FlowEdge) : String :=
  let text := if edge.label.truthy then s!"|\"{label edge.label}\"|" else ""
  s!"    {identifier edge.source} {arrow edge.flowType}{text} {identifier edge.target}"

/-- The line that colours a node, if it is to be coloured. -/
def styleLine? (node : FlowNode) : Option String :=
  (colourLevel? node).map fun level => s!"    style {identifier node.id} {style level}"

/-- The relationship that an edge's label begins with. -/
def firstRelationship (edge : FlowEdge) : String :=
  let first := Text.trimChars (edge.label.display.toList.takeWhile (· != ','))
  if first.isEmpty then "relates" else String.ofList first

/-- The line of an edge in an entity-relationship diagram. -/
def relationLine (edge : FlowEdge) : String :=
  s!"    {identifier edge.source} {cardinality edge.flowType} {identifier edge.target} : \"{label (.str (firstRelationship edge))}\""

/-- Lines joined by line breaks. -/
def joinLines (lines : List String) : String := "\n".intercalate lines

/-- The graph as a flowchart. -/
def flowchart (graph : FlowGraph) (title : Name) : MermaidDiagram where
  kind := "flowchart"
  title := title
  code := joinLines (["flowchart TD", s!"    %% {title.display}"] ++ graph.nodes.map nodeLine ++
    graph.edges.map edgeLine ++ graph.nodes.filterMap styleLine?)

/-- The graph as an entity-relationship diagram. -/
def entityRelationship (graph : FlowGraph) (title : Name) : MermaidDiagram where
  kind := "erDiagram"
  title := title
  code := joinLines (["erDiagram", s!"    %% {title.display}"] ++ graph.edges.map relationLine)

/-- The title of a flowchart that has no other. -/
def flowchartTitle : Name := .str "Data Flow Impact"

/-- The title of an entity-relationship diagram that has no other. -/
def relationshipTitle : Name := .str "Entity Relationships"

end MermaidDiagram

namespace FlowGraph

/-- Faults on a graph that cannot be drawn as a flowchart, since ids or labels are no
texts. -/
def checkFlowchartTexts (graph : FlowGraph) : Checked Unit := do
  graph.nodes.forM fun node => do
    Json.needTexts [node.id] .wrongType
    Json.needTexts [node.label] .noSuchPart
  graph.edges.forM fun edge => do
    Json.needKeys [edge.flowType.toJson]
    if edge.label.truthy then Json.needTexts [edge.label] .noSuchPart
    Json.needTexts [edge.source, edge.target] .wrongType
  graph.nodes.forM fun node =>
    guardThat (!node.isAffected || (Json.ofOption Tag.toJson node.level).isKey) .wrongType

/-- Faults on a graph that cannot be drawn as an entity-relationship diagram. -/
def checkRelationTexts (graph : FlowGraph) : Checked Unit :=
  graph.edges.forM fun edge => do
    Json.needKeys [edge.flowType.toJson]
    Json.needTexts [edge.label] .noSuchPart
    Json.needTexts [edge.source, edge.target] .wrongType

end FlowGraph

end ChangeImpact

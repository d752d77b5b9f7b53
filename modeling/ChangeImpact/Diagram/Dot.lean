import ChangeImpact.Diagram.Mermaid

/-!
# DOT graphs

A flow graph in the DOT language: modules are boxes and entities ellipses, affected nodes
are filled, and an edge shows the type and strength of its flow.

`text` is the operation `export_dot`, and `quotedText` is `_esc`.
-/

namespace ChangeImpact.Dot

/-- A text inside quotation marks. -/
def quotedText (text : Name) : String :=
  String.ofList (Text.replaceChar '"' ['\\', '"'] text.display.toList)

/-- The colour that fills a node of a level. -/
def fill : ImpactLevel → String
  | .direct => "#ff6b6b"
  | .indirect => "#ffd43b"
  | .cascade => "#69db7c"

/-- The attributes of a node. -/
def nodeAttributes (node : FlowNode) : List String :=
  [s!"label=\"{quotedText node.label}\"",
    if node.kind = .module then "shape=box" else "shape=ellipse"] ++
  match MermaidDiagram.colourLevel? node with
  | some level => [s!"style=filled, fillcolor=\"{fill level}\""]
  | none => []

/-- The attributes of an edge. -/
def edgeAttributes (edge : FlowEdge) : List String :=
  [s!"label=\"{quotedText edge.label}\""] ++
  (if edge.flowType = .known .write then ["style=dashed"]
    else if edge.flowType = .known .bidirectional then ["dir=both"]
    else []) ++
  if edge.strength = .known .critical then ["penwidth=2"] else []

/-- The line of a node. -/
def nodeLine (node : FlowNode) : String :=
  s!"  \"{quotedText node.id}\" [{Fault.listed (nodeAttributes node)}];"

/-- The line of an edge. -/
def edgeLine (edge : FlowEdge) : String :=
  s!"  \"{quotedText edge.source}\" -> \"{quotedText edge.target}\" [{Fault.listed (edgeAttributes edge)}];"

/-- The graph in the DOT language. -/
def text (graph : FlowGraph) : String :=
  MermaidDiagram.joinLines (["digraph DataFlowImpact \x7b", "  rankdir=LR;"] ++
    graph.nodes.map nodeLine ++ graph.edges.map edgeLine ++ ["\x7d"])

end ChangeImpact.Dot

namespace ChangeImpact.FlowGraph

/-- Faults on a graph that cannot be written in the DOT language. -/
def checkDotTexts (graph : FlowGraph) : Checked Unit := do
  graph.nodes.forM fun node => do
    Json.needTexts [node.label] .noSuchPart
    guardThat (!node.isAffected || (Json.ofOption Tag.toJson node.level).isKey) .wrongType
    Json.needTexts [node.id] .noSuchPart
  graph.edges.forM fun edge => Json.needTexts [edge.label, edge.source, edge.target] .noSuchPart

/-- Faults on a graph that cannot be drawn in all three ways. -/
def checkTexts (graph : FlowGraph) : Checked Unit := do
  graph.checkFlowchartTexts
  graph.checkRelationTexts
  graph.checkDotTexts

end ChangeImpact.FlowGraph

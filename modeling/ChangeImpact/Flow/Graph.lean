import ChangeImpact.Flow.Criticality

/-!
# The graph of some flows

The nodes are the modules and entities that the flows join, in the order in which they are
first met, and there is one edge per flow.  A node is affected if the scope of the change
knows it, an edge if one of its ends is.

`ofFlows` is the operation `build_flow_graph`; `ofRecords` is the same of records.
-/

namespace ChangeImpact

/-- What a node stands for. -/
inductive NodeKind where
  | module | entity
deriving DecidableEq

instance : Vocabulary NodeKind where
  all := [.module, .entity]
  name
    | .module => "module"
    | .entity => "entity"

/-- A node of a flow graph. -/
structure FlowNode where
  id : Name
  label : Name
  kind : NodeKind
  isAffected : Bool
  level : Option (Tag ImpactLevel)
deriving DecidableEq

/-- An edge of a flow graph. -/
structure FlowEdge where
  id : Name
  source : Name
  target : Name
  label : Name
  flowType : Tag FlowType
  strength : Tag Strength
  isAffected : Bool
  level : Option (Tag ImpactLevel)
deriving DecidableEq

/-- A flow graph. -/
structure FlowGraph where
  nodes : List FlowNode
  edges : List FlowEdge
  criticality : Binary64
deriving DecidableEq

namespace Tag

/-- The value as a tag, or nothing if it is null. -/
def ofOptional {α : Type} [Vocabulary α] (value : Json) : Option (Tag α) :=
  if value = .null then none else some (.ofJson value)

/-- The tag, unless it stands for null. -/
def given? {α : Type} [DecidableEq α] (tag : Tag α) : Option (Tag α) :=
  if tag = .other .null then none else some tag

end Tag

namespace FlowNode

/-- The shape of a node record. -/
def schema : Schema where
  fields := [.required "id", .required "label", .required "type",
    .optional "is_affected" (.bool false), .optional "impact_level" .null]
  choices := []

/-- The node that a record describes; whatever is no module is an entity. -/
def ofRecord (record : Json) : FlowNode where
  id := record.get "id"
  label := record.get "label"
  kind := (Vocabulary.ofJson? (record.get "type")).getD .entity
  isAffected := (record.get "is_affected").truthy
  level := Tag.ofOptional (record.get "impact_level")

/-- The node as a record. -/
def toJson (node : FlowNode) : Json := .obj
  [("id", node.id), ("label", node.label), ("type", Vocabulary.toJson node.kind),
    ("is_affected", .bool node.isAffected), ("impact_level", Json.ofOption Tag.toJson node.level)]

end FlowNode

namespace FlowEdge

/-- The shape of an edge record. -/
def schema : Schema where
  fields := [.required "id", .required "source", .required "target", .required "label",
    .required "flow_type", .required "strength", .optional "is_affected" (.bool false),
    .optional "impact_level" .null]
  choices := []

/-- The edge that a record describes. -/
def ofRecord (record : Json) : FlowEdge where
  id := record.get "id"
  source := record.get "source"
  target := record.get "target"
  label := record.get "label"
  flowType := .ofJson (record.get "flow_type")
  strength := .ofJson (record.get "strength")
  isAffected := (record.get "is_affected").truthy
  level := Tag.ofOptional (record.get "impact_level")

/-- The edge as a record. -/
def toJson (edge : FlowEdge) : Json := .obj
  [("id", edge.id), ("source", edge.source), ("target", edge.target), ("label", edge.label),
    ("flow_type", edge.flowType.toJson), ("strength", edge.strength.toJson),
    ("is_affected", .bool edge.isAffected), ("impact_level", Json.ofOption Tag.toJson edge.level)]

end FlowEdge

namespace FlowGraph

/-- The level at which a scope has a dependent module; of several entries the last one
counts. -/
def dependentLevel? (scope : Scope) (id : Name) : Option (Tag ImpactLevel) :=
  (scope.dependentModules.reverse.find? fun m => m.moduleId == id).map ScopedModule.level

/-- The level of a module that a flow joins: as a module of the change, as a dependent one
or as an entity. -/
def moduleLevel? (scope : Scope) (flow : ImpactFlow) (id : Name) : Option (Tag ImpactLevel) :=
  if scope.primaryModules.contains id then some (.known .direct)
  else
    match dependentLevel? scope id with
    | some level => level.given?
    | none => if scope.affectedEntities.contains id then flow.level.given? else none

/-- The level of an entity of a flow: as an entity first, then as a module. -/
def entityLevel? (scope : Scope) (flow : ImpactFlow) (id : Name) : Option (Tag ImpactLevel) :=
  if scope.affectedEntities.contains id then flow.level.given?
  else if scope.primaryModules.contains id then some (.known .direct)
  else (dependentLevel? scope id).bind Tag.given?

/-- The nodes that a flow brings: its ends and its entities. -/
def nodesOf (scope : Scope) (flow : ImpactFlow) : List FlowNode :=
  let node (kind : NodeKind) (id : Name) (level : Option (Tag ImpactLevel)) : FlowNode :=
    ⟨id, id, kind, level.isSome, level⟩
  [flow.source, flow.target].map (fun id => node .module id (moduleLevel? scope flow id)) ++
    flow.entities.map fun id => node .entity id (entityLevel? scope flow id)

/-- Adds the nodes whose ids are new. -/
def addNodes (nodes : List FlowNode) : List FlowNode → List FlowNode
  | [] => nodes
  | node :: rest =>
    if nodes.any fun other => other.id == node.id then addNodes nodes rest
    else addNodes (nodes ++ [node]) rest

/-- Whether the node with an id is affected. -/
def isAffectedIn (nodes : List FlowNode) (id : Name) : Bool :=
  nodes.any fun node => node.id == id && node.isAffected

/-- The edge of a flow. -/
def edgeOf (nodes : List FlowNode) (flow : ImpactFlow) : FlowEdge where
  id := flow.id
  source := flow.source
  target := flow.target
  label := .str (", ".intercalate (flow.relationships.map Json.display))
  flowType := flow.flowType
  strength := flow.strength
  isAffected := isAffectedIn nodes flow.source || isAffectedIn nodes flow.target
  level := flow.level.given?

/-- The graph of some flows. -/
def ofFlows (flows : List ImpactFlow) (scope : Scope) : FlowGraph :=
  let nodes := addNodes [] (flows.flatMap (nodesOf scope))
  let edges := flows.map (edgeOf nodes)
  ⟨nodes, edges, ImpactFlow.criticalityScore flows (edges.countP FlowEdge.isAffected)⟩

/-- Faults on flows and scopes whose parts cannot be compared or joined. -/
def check (flows : List ImpactFlow) (scope : Scope) : Checked Unit := do
  Json.needKeys scope.primaryModules
  Json.needKeys (scope.dependentModules.map ScopedModule.moduleId)
  Json.needKeys scope.affectedEntities
  flows.forM fun flow => do
    Json.needKeys [flow.source, flow.target, flow.strength.toJson, flow.level.toJson]
    Json.needKeys flow.entities
    Json.needTexts flow.relationships .wrongType

/-- Faults on records of flows and of a scope whose lists are none. -/
def checkLists (flows : List Json) (scope : Json) : Checked Unit := do
  for part in ["primary_modules", "dependent_modules", "affected_entities"] do
    let _ ← scope.needItems part
  for flow in flows do
    let _ ← flow.needItems "entities"
    let _ ← flow.needItems "relationships"

/-- The graph of the flows and the scope of some records; faults on those that cannot be nodes
or labels. -/
def ofRecords (flows : List Json) (scope : Json) : Checked FlowGraph := do
  checkLists flows scope
  let impacts := flows.map ImpactFlow.ofRecord
  check impacts (.ofRecord scope)
  return ofFlows impacts (.ofRecord scope)

/-- The node with an id. -/
def node? (graph : FlowGraph) (id : Name) : Option FlowNode :=
  graph.nodes.find? fun node => node.id.equals id

/-- The counts that go with a graph. -/
def metadata (graph : FlowGraph) : Json := .obj
  [("total_nodes", .int graph.nodes.length), ("total_edges", .int graph.edges.length),
    ("affected_nodes", .int (graph.nodes.countP FlowNode.isAffected)),
    ("affected_edges", .int (graph.edges.countP FlowEdge.isAffected)),
    ("criticality_score", .float graph.criticality)]

/-- The graph as a record. -/
def toJson (graph : FlowGraph) : Json := .obj
  [("nodes", .arr (graph.nodes.map FlowNode.toJson)),
    ("edges", .arr (graph.edges.map FlowEdge.toJson)), ("metadata", graph.metadata)]

end FlowGraph

end ChangeImpact

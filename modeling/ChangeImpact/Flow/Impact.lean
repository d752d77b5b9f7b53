import ChangeImpact.Flow.Basic
import ChangeImpact.Scope.Basic
import ChangeImpact.Text.Folded

/-!
# Data flows and a change

How a change affects a data flow: the level of the impact, the database operations that
the flow implies, whether it has to be validated and which tests suggest themselves.

A flow is affected directly if it shares an entity with the change and touches one of its
modules, indirectly if it shares an entity or touches a dependent module, and by cascade
otherwise.

`ImpactFlow.ofFlows` is the operation `analyze_for_impact`.  Its parts are `levelIn`
(`classify_impact_level`), `suggestedTests` (`generate_suggested_tests`), `impliedOperations`
(`detect_affected_operations`) and `needsValidation` (`requires_validation`).
-/

namespace ChangeImpact

/-- A data flow together with what a change does to it.  The words of a flow that a
request gives are taken as they are. -/
structure ImpactFlow where
  id : Name
  source : Name
  target : Name
  entities : List Name
  flowType : Tag FlowType
  strength : Tag Strength
  relationships : List Name
  level : Tag ImpactLevel
  operations : List Name
  validationRequired : Bool
  suggestedTests : List Name
deriving DecidableEq

namespace ImpactFlow

/-- The shape of a record of a flow's impact. -/
def schema : Schema where
  fields := [.required "id", .required "source", .required "target", .required "entities",
    .required "flow_type", .required "strength", .required "relationships",
    .required "impact_level", .optional "affected_operations" (.arr []),
    .optional "validation_required" (.bool false), .optional "suggested_tests" (.arr [])]
  choices := []

/-- The impact that a record describes. -/
def ofRecord (record : Json) : ImpactFlow where
  id := record.get "id"
  source := record.get "source"
  target := record.get "target"
  entities := record.itemsAt "entities"
  flowType := .ofJson (record.get "flow_type")
  strength := .ofJson (record.get "strength")
  relationships := record.itemsAt "relationships"
  level := .ofJson (record.get "impact_level")
  operations := record.itemsAt "affected_operations"
  validationRequired := (record.get "validation_required").truthy
  suggestedTests := record.itemsAt "suggested_tests"

/-- The impact as a record. -/
def toJson (flow : ImpactFlow) : Json := .obj
  [("id", flow.id), ("source", flow.source), ("target", flow.target),
    ("entities", .arr flow.entities), ("flow_type", flow.flowType.toJson),
    ("strength", flow.strength.toJson), ("relationships", .arr flow.relationships),
    ("impact_level", flow.level.toJson), ("affected_operations", .arr flow.operations),
    ("validation_required", .bool flow.validationRequired),
    ("suggested_tests", .arr flow.suggestedTests)]

end ImpactFlow

namespace DataFlow

/-- A relationship between two entities that a test can exercise. -/
structure TestPattern where
  /-- The words one of which the relationship has to contain, in any letter case. -/
  words : List String
  /-- The test, from the names of the two entities. -/
  test : String → String → String

/-- The tests that relationships suggest. -/
def testPatterns : List TestPattern :=
  [⟨["create", "generate"], fun source target =>
      s!"Test that {source} correctly creates {target} with valid data"⟩,
    ⟨["own", "contain"], fun source target =>
      s!"Verify {source} ownership of {target} persists after change"⟩,
    ⟨["update", "modifie"], fun source target =>
      s!"Verify {source} updates to {target} propagate correctly"⟩,
    ⟨["delete", "remove"], fun source target =>
      s!"Test cascade delete behavior from {source} to {target}"⟩,
    ⟨["reference"], fun source target => s!"Test {target} reference integrity from {source}"⟩]

/-- The operations that relationships imply. -/
def operationPatterns : List (List String × List String) :=
  [(["create", "generate"], ["INSERT", "CREATE"]), (["update", "modifie"], ["UPDATE", "PATCH"]),
    (["delete", "remove"], ["DELETE"])]

/-- The operations that a flow's type implies. -/
def typeOperations : FlowType → List String
  | .read => ["SELECT", "READ"]
  | .write => ["INSERT", "UPDATE"]
  | .bidirectional => ["SELECT", "READ", "INSERT", "UPDATE"]

/-- Whether a relationship contains one of some words. -/
def mentions (words : List String) (relationship : Name) : Bool :=
  Text.containsAnyWord words relationship.display.toList

/-- Whether the flow shares an entity with a scope. -/
def sharesEntity (flow : DataFlow) (scope : Scope) : Bool :=
  flow.entities.any scope.affectedEntities.contains

/-- Whether the flow starts or ends at a module of the change. -/
def touchesPrimary (flow : DataFlow) (scope : Scope) : Bool :=
  scope.primaryModules.contains flow.source || scope.primaryModules.contains flow.target

/-- Whether the flow starts or ends at a dependent module. -/
def touchesDependent (flow : DataFlow) (scope : Scope) : Bool :=
  scope.dependentModules.any fun m => m.moduleId == flow.source || m.moduleId == flow.target

/-- How closely a change affects a flow that shares an entity with it, or touches its modules
or dependent ones. -/
def levelFor (shares primary dependent : Bool) : ImpactLevel :=
  if primary && shares then .direct else if dependent || shares then .indirect else .cascade

/-- How closely a change affects the flow. -/
def levelIn (flow : DataFlow) (scope : Scope) : ImpactLevel :=
  levelFor (flow.sharesEntity scope) (flow.touchesPrimary scope) (flow.touchesDependent scope)

/-- Whether the flow has to be validated when a change affects it that closely. -/
def needsValidation (flow : DataFlow) (level : ImpactLevel) : Bool :=
  flow.strength = .critical || level = .direct ||
    (level = .indirect && flow.strength = .important)

/-- What tests call the flow's source: its first entity, or the module. -/
def testSource (flow : DataFlow) : Name := flow.entities.headD flow.source

/-- What tests call the flow's target: its second entity, or the module. -/
def testTarget (flow : DataFlow) : Name := (flow.entities.drop 1).headD flow.target

/-- The tests that the flow suggests, each once. -/
def suggestedTests (flow : DataFlow) : List String :=
  let ofRelationships := flow.relationships.flatMap fun relationship =>
    (testPatterns.filter fun pattern => mentions pattern.words relationship).map fun pattern =>
      pattern.test flow.testSource.display flow.testTarget.display
  let ofType :=
    if flow.flowType = .bidirectional then
      [s!"Test bidirectional sync between {flow.source.display} and {flow.target.display}"]
    else []
  let ofStrength :=
    if flow.strength = .critical then
      let entities := " -> ".intercalate (flow.entities.map Json.display)
      [s!"Verify critical data integrity for {entities} flow"]
    else []
  (ofRelationships ++ ofType ++ ofStrength).eraseDups

/-- The database operations that the flow implies, each once. -/
def impliedOperations (flow : DataFlow) : List String :=
  let ofRelationships := flow.relationships.flatMap fun relationship =>
    (operationPatterns.filter fun pattern => mentions pattern.1 relationship).flatMap Prod.snd
  (ofRelationships ++ typeOperations flow.flowType).eraseDups

/-- The flow as a change affects it that closely, under the given id. -/
def impactAt (flow : DataFlow) (level : ImpactLevel) (id : String) : ImpactFlow :=
  { id := .str id
    source := flow.source
    target := flow.target
    entities := flow.entities
    flowType := .known flow.flowType
    strength := .known flow.strength
    relationships := flow.relationships
    level := .known level
    operations := flow.impliedOperations.map Json.str
    validationRequired := flow.needsValidation level
    suggestedTests := flow.suggestedTests.map Json.str }

/-- The flow with what a change does to it, under the given id. -/
def impactIn (flow : DataFlow) (scope : Scope) (id : String) : ImpactFlow :=
  flow.impactAt (flow.levelIn scope) id

/-- How closely a change affects the flow by the record of its scope, in which a text stands for
every name that is a piece of it. -/
def levelChecked (flow : DataFlow) (scope : Json) : Checked ImpactLevel := do
  let shares ← flow.entities.anyM (scope.get "affected_entities").holds
  let primary ← [flow.source, flow.target].anyM (scope.get "primary_modules").holds
  return levelFor shares primary (flow.touchesDependent (.ofRecord scope))

/-- Faults on a flow whose relationships, or whose entities where a test names them, are
no texts. -/
def checkTexts (flow : DataFlow) : Checked Unit := do
  Json.needTexts flow.relationships .wrongType
  if flow.strength = .critical then Json.needTexts flow.entities .wrongType

end DataFlow

namespace ImpactFlow

/-- The flows with what a change does to each, numbered from zero. -/
def ofFlows (flows : List DataFlow) (scope : Scope) : List ImpactFlow :=
  flows.zipIdx.map fun (flow, i) => flow.impactIn scope s!"flow-{i}"

/-- The flows with what a change does to each, by the record of its scope; faults on those that
cannot be compared or worded. -/
def ofFlowsChecked (flows : List DataFlow) (scope : Json) : Checked (List ImpactFlow) :=
  flows.zipIdx.mapM fun (flow, i) => do
    let level ← flow.levelChecked scope
    flow.checkTexts
    return flow.impactAt level s!"flow-{i}"

end ImpactFlow

end ChangeImpact

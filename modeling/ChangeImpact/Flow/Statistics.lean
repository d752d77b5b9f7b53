import ChangeImpact.Flow.Impact

/-!
# Counting flows

How many flows there are, broken down by strength, level and type, how many of them need
validation and how many tests they suggest.

`statistics` is the operation `get_flow_statistics`.
-/

namespace ChangeImpact

/-- How often each member of an enumeration occurs among some tags, as a record. -/
def Tag.tally {α : Type} [Vocabulary α] [DecidableEq α] (tags : List (Tag α)) : Json :=
  .obj ((Vocabulary.all (α := α)).map fun a =>
    (Vocabulary.name a, .int (tags.count (.known a))))

/-- Faults on a tag that is no member of its enumeration. -/
def Tag.needKnown {α : Type} [Vocabulary α] : Tag α → Checked Unit
  | .known _ => .ok ()
  | .other value => .error (if value.isKey then .missingKey else .wrongType)

namespace ImpactFlow

-- sums are the core ones, whatever else is imported
attribute [local instance (high)] Zero.ofOfNat0

/-- The counts over some flows, as a record. -/
def statistics (flows : List ImpactFlow) : Json := .obj
  [("total", .int flows.length), ("by_strength", Tag.tally (flows.map ImpactFlow.strength)),
    ("by_impact_level", Tag.tally (flows.map ImpactFlow.level)),
    ("by_flow_type", Tag.tally (flows.map ImpactFlow.flowType)),
    ("requires_validation", .int (flows.countP ImpactFlow.validationRequired)),
    ("total_suggested_tests", .int (flows.map fun flow => flow.suggestedTests.length).sum)]

/-- The counts over the flows of some records; faults on words and tests that are not
counted. -/
def statisticsOfRecords (flows : List Json) : Checked Json := do
  flows.forM fun record => do
    let flow := ofRecord record
    flow.strength.needKnown
    flow.level.needKnown
    flow.flowType.needKnown
    let _ ← record.needItems "suggested_tests"
  return statistics (flows.map ofRecord)

end ImpactFlow

end ChangeImpact

import ChangeImpact.Flow.Impact

/-!
# Criticality

The criticality of some flows grows with their strength, with how closely they are
affected and with the share of affected edges: the average weight of a flow, one to five,
times one plus that share, over ten.  `criticality` is this number and `criticalityScore`
the same in binary64 arithmetic, rounded at every step.

Both are what the operation `_criticality_score` computes.
-/

namespace ChangeImpact.ImpactFlow

-- sums and the smaller of two numbers are the core ones, whatever else is imported
attribute [local instance (high)] Zero.ofOfNat0 Rat.instMin

/-- The weight of a flow's strength; an unknown one counts as the weakest. -/
def strengthWeight : Tag Strength → Nat
  | .known .critical => 3
  | .known .important => 2
  | .known .optional | .other _ => 1

/-- The weight of a flow's level; an unknown one counts as the most remote. -/
def levelWeight : Tag ImpactLevel → Nat
  | .known .direct => 2
  | .known .indirect => 1
  | .known .cascade | .other _ => 0

/-- The weight of a flow. -/
def weight (flow : ImpactFlow) : Nat := strengthWeight flow.strength + levelWeight flow.level

/-- The weight of some flows together. -/
def totalWeight (flows : List ImpactFlow) : Nat := (flows.map weight).sum

/-- How critical some flows are, of whose edges the given number is affected. -/
def criticality (flows : List ImpactFlow) (affectedEdges : Nat) : Rat :=
  if flows.isEmpty then 0
  else
    let count : Rat := flows.length
    min 1 (totalWeight flows * (1 + affectedEdges / count) / (10 * count))

/-- How critical some flows are, computed in binary64. -/
def criticalityScore (flows : List ImpactFlow) (affectedEdges : Nat) : Binary64 :=
  if flows.isEmpty then .nought
  else
    let one := Binary64.ofNat 1
    let share := one.add ((Binary64.ofNat affectedEdges).div (.ofNat flows.length))
    let score := ((Binary64.ofNat (totalWeight flows)).mul share).div (.ofNat (10 * flows.length))
    if score.lt one then score else one

end ChangeImpact.ImpactFlow

import Mathlib.Algebra.Order.Field.Basic
import Mathlib.Data.Rat.Cast.Order
import Mathlib.Tactic.Linarith
import Mathlib.Tactic.Ring
import ChangeImpact.Proofs.Flow.Graph

/-!
# What makes flows critical

The weight of a flow is one to five, and at most all edges are affected. So the score of some flows, the
average weight times one plus the share of affected edges, over ten, is between a tenth and one before
it is cut at one: the cut never takes anything away.

> `exactScore_isFair`: the bounds of the score, when it is one, and that flows of more strength or a
> closer level, and further affected flows of at least average weight, never lower it.

Which edges are affected is for the scope to say (`countP_edges`), whatever the levels and strengths of
the flows are, and whatever other flows there are. So raising a flow only adds to the weight, and adding
one adds to the weight, to the flows and to the affected edges.
-/

namespace ChangeImpact

namespace ImpactFlow

-- sums and the smaller of two numbers are the core ones, whatever else is imported
attribute [local instance (high)] Zero.ofOfNat0 Rat.instMin

variable {flow raised added : ImpactFlow} {flows : List ImpactFlow}

/-! ## Weights -/

/-- The strength of the flow and its level exist. -/
structure IsWeighed (flow : ImpactFlow) : Prop where
  strength : ∃ strength, flow.strength = .known strength
  level : flow.HasLevel

/-- The flow is another one with more strength or a closer level, or both. Strengths are declared from the
weakest to the strongest one, levels from the closest to the farthest. -/
def Raises (raised flow : ImpactFlow) : Prop :=
  ∃ strength level stronger closer, flow.strength = .known strength ∧ flow.level = .known level ∧
    raised = { flow with strength := .known stronger, level := .known closer } ∧
    Strength.ctorIdx strength ≤ Strength.ctorIdx stronger ∧
    ImpactLevel.ctorIdx closer ≤ ImpactLevel.ctorIdx level

/-- The flow is critical and affected directly. -/
def IsExtreme (flow : ImpactFlow) : Prop :=
  flow.strength = .known .critical ∧ flow.level = .known .direct

/-- A flow weighs between one and five. -/
theorem IsWeighed.weight_bounds (h : flow.IsWeighed) : 1 ≤ flow.weight ∧ flow.weight ≤ 5 := by
  obtain ⟨⟨strength, hstrength⟩, level, hlevel⟩ := h
  unfold weight
  rw [hstrength, hlevel]
  cases strength <;> cases level <;> decide

/-- Only the most critical flows have the greatest weight. -/
theorem IsWeighed.weight_eq_five (h : flow.IsWeighed) : flow.weight = 5 ↔ flow.IsExtreme := by
  obtain ⟨⟨strength, hstrength⟩, level, hlevel⟩ := h
  unfold weight IsExtreme
  rw [hstrength, hlevel]
  cases strength <;> cases level <;> decide

/-- More strength or a closer level never weighs less. -/
theorem Raises.weight_le (h : raised.Raises flow) : flow.weight ≤ raised.weight := by
  obtain ⟨strength, level, stronger, closer, hstrength, hlevel, rfl, hup, hdown⟩ := h
  have hstronger : strengthWeight (.known strength) ≤ strengthWeight (.known stronger) := by
    cases strength <;> cases stronger <;> first | decide | exact absurd hup (by decide)
  have hcloser : levelWeight (.known level) ≤ levelWeight (.known closer) := by
    cases level <;> cases closer <;> first | decide | exact absurd hdown (by decide)
  unfold weight
  rw [hstrength, hlevel]
  exact Nat.add_le_add hstronger hcloser

/-- A raised flow has a strength and a level that exist. -/
theorem Raises.isWeighed (h : raised.Raises flow) : raised.IsWeighed := by
  obtain ⟨-, -, stronger, closer, -, -, rfl, -, -⟩ := h
  exact ⟨⟨stronger, rfl⟩, closer, rfl⟩

/-- A raised flow joins the same modules. -/
theorem Raises.ends (h : raised.Raises flow) :
    raised.source = flow.source ∧ raised.target = flow.target := by
  obtain ⟨-, -, -, -, -, -, rfl, -, -⟩ := h
  exact ⟨rfl, rfl⟩

theorem totalWeight_cons (flow : ImpactFlow) (flows : List ImpactFlow) :
    totalWeight (flow :: flows) = weight flow + totalWeight flows := rfl

theorem totalWeight_append (flows others : List ImpactFlow) :
    totalWeight (flows ++ others) = totalWeight flows + totalWeight others := by
  unfold totalWeight
  rw [List.map_append, List.sum_append_nat]

/-- Some flows weigh between one and five each. -/
theorem totalWeight_bounds (h : ∀ flow ∈ flows, flow.IsWeighed) :
    flows.length ≤ totalWeight flows ∧ totalWeight flows ≤ 5 * flows.length := by
  induction flows with
  | nil => exact ⟨Nat.le_refl _, Nat.le_refl _⟩
  | cons flow flows ih =>
    obtain ⟨hflow, hflows⟩ := List.forall_mem_cons.mp h
    have hweight := hflow.weight_bounds
    have hrest := ih hflows
    rw [totalWeight_cons, List.length_cons]
    omega

/-- The greatest total weight is that of the most critical flows. -/
theorem totalWeight_eq_five_mul (h : ∀ flow ∈ flows, flow.IsWeighed) :
    totalWeight flows = 5 * flows.length ↔ ∀ flow ∈ flows, flow.IsExtreme := by
  induction flows with
  | nil => simp [totalWeight]
  | cons flow flows ih =>
    obtain ⟨hflow, hflows⟩ := List.forall_mem_cons.mp h
    have hweight := hflow.weight_bounds
    have hrest := totalWeight_bounds hflows
    rw [totalWeight_cons, List.length_cons, List.forall_mem_cons, ← ih hflows, ← hflow.weight_eq_five]
    omega

/-- The average weight of some flows. -/
def averageWeight (flows : List ImpactFlow) : Rat := totalWeight flows / flows.length

/-! ## Scores -/

/-- How critical some flows are, before the cut at one. -/
def uncut (flows : List ImpactFlow) (affectedEdges : Nat) : Rat :=
  totalWeight flows * (1 + affectedEdges / flows.length) / (10 * flows.length)

/-- Criticality is the uncut score, cut at one. -/
theorem criticality_eq (h : flows ≠ []) (affectedEdges : Nat) :
    criticality flows affectedEdges = min 1 (uncut flows affectedEdges) := by
  unfold criticality
  rw [if_neg (by simpa using h)]
  rfl

/-- The score as a fraction. -/
theorem uncut_eq (h : flows ≠ []) (affectedEdges : Nat) : uncut flows affectedEdges =
    ((totalWeight flows * (flows.length + affectedEdges) : Nat) : Rat) /
      ((10 * (flows.length * flows.length) : Nat) : Rat) := by
  have hcount : (flows.length : Rat) ≠ 0 := Nat.cast_ne_zero.mpr (by simpa using h)
  unfold uncut
  rw [one_add_div hcount, mul_div_assoc', div_div]
  push_cast
  congr 1
  ring

theorem square_pos (h : flows ≠ []) : 0 < ((10 * (flows.length * flows.length) : Nat) : Rat) := by
  have hcount : 0 < flows.length := List.length_pos_iff.mpr h
  exact Nat.cast_pos.mpr (Nat.mul_pos (by decide) (Nat.mul_pos hcount hcount))

section Bounds

variable {affectedEdges : Nat} (hne : flows ≠ []) (hflows : ∀ flow ∈ flows, flow.IsWeighed)
  (hedges : affectedEdges ≤ flows.length)

include hne hflows

/-- The uncut score is at least a tenth. -/
theorem tenth_le_uncut (affectedEdges : Nat) : 1 / 10 ≤ uncut flows affectedEdges := by
  have hweight := (totalWeight_bounds hflows).1
  have hproduct : flows.length * flows.length ≤ totalWeight flows * (flows.length + affectedEdges) :=
    Nat.mul_le_mul hweight (Nat.le_add_right ..)
  rw [uncut_eq hne, div_le_div_iff₀ (by norm_num) (square_pos hne)]
  norm_cast
  omega

include hedges

/-- The score that is not cut is at most one. -/
theorem uncut_le_one : uncut flows affectedEdges ≤ 1 := by
  have hweight := (totalWeight_bounds hflows).2
  have hproduct : totalWeight flows * (flows.length + affectedEdges) ≤
      5 * flows.length * (flows.length + flows.length) :=
    Nat.mul_le_mul hweight (Nat.add_le_add_left hedges _)
  rw [uncut_eq hne, div_le_one (square_pos hne)]
  norm_cast
  linarith

/-- The score is one if nothing could add to it. -/
theorem uncut_eq_one : uncut flows affectedEdges = 1 ↔
    (∀ flow ∈ flows, flow.IsExtreme) ∧ affectedEdges = flows.length := by
  have hweight := (totalWeight_bounds hflows).2
  have hcount : 0 < flows.length := List.length_pos_iff.mpr hne
  rw [← totalWeight_eq_five_mul hflows, uncut_eq hne, div_eq_one_iff_eq (square_pos hne).ne']
  norm_cast
  constructor
  · -- if one of the factors were less than it can be, the product would be
    intro heq
    constructor
    · by_contra hother
      have hless : totalWeight flows * (flows.length + affectedEdges) <
          5 * flows.length * (flows.length + flows.length) :=
        Nat.mul_lt_mul_of_lt_of_le (by omega) (by omega) (by omega)
      linarith
    · by_contra hother
      have hless : totalWeight flows * (flows.length + affectedEdges) <
          5 * flows.length * (flows.length + flows.length) :=
        Nat.mul_lt_mul_of_le_of_lt hweight (by omega) (by omega)
      linarith
  · intro hgiven
    obtain ⟨htotal, rfl⟩ := hgiven
    rw [htotal]
    ring

end Bounds

/-! ## Growth -/

/-- More weight of as many flows never scores less. -/
theorem uncut_mono {others : List ImpactFlow} (hne : flows ≠ []) (hlength : others.length = flows.length)
    (hweight : totalWeight flows ≤ totalWeight others) (affectedEdges : Nat) :
    uncut flows affectedEdges ≤ uncut others affectedEdges := by
  have hothers : others ≠ [] := by
    rw [← List.length_pos_iff] at hne ⊢
    omega
  rw [uncut_eq hne, uncut_eq hothers, hlength, div_le_div_iff_of_pos_right (square_pos hne)]
  exact Nat.cast_le.mpr (Nat.mul_le_mul_right _ hweight)

/-- An affected flow that weighs no less than the others do on average adds at least as much to their
weight as to their number, and to the affected edges at least as much as to all. -/
theorem uncut_add {before after : List ImpactFlow} {affectedEdges : Nat} (hne : before ++ after ≠ [])
    (hedges : affectedEdges ≤ (before ++ after).length)
    (hweight : averageWeight (before ++ after) ≤ added.weight) :
    uncut (before ++ after) affectedEdges ≤ uncut (before ++ added :: after) (affectedEdges + 1) := by
  have hmore : before ++ added :: after ≠ [] := by simp
  have hcount : 0 < ((before ++ after).length : Rat) := Nat.cast_pos.mpr (List.length_pos_iff.mpr hne)
  have hlength : (before ++ added :: after).length = (before ++ after).length + 1 := by simp; omega
  have htotal : totalWeight (before ++ added :: after) = totalWeight (before ++ after) + added.weight := by
    rw [totalWeight_append, totalWeight_append, totalWeight_cons]
    omega
  rw [averageWeight, div_le_iff₀ hcount] at hweight
  rw [uncut_eq hne, uncut_eq hmore, div_le_div_iff₀ (square_pos hne) (square_pos hmore), htotal, hlength]
  generalize (before ++ after).length = n at *
  generalize totalWeight (before ++ after) = total at *
  norm_cast at hweight ⊢
  -- what is to be shown is the product of two comparisons, of the weights and of the shares
  have hgrown : total * (n + 1) ≤ (total + added.weight) * n := by linarith
  have hshare : (n + affectedEdges) * (n + 1) ≤ (n + 1 + (affectedEdges + 1)) * n := by linarith
  calc total * (n + affectedEdges) * (10 * ((n + 1) * (n + 1)))
      = 10 * (total * (n + 1) * ((n + affectedEdges) * (n + 1))) := by ring
    _ ≤ 10 * ((total + added.weight) * n * ((n + 1 + (affectedEdges + 1)) * n)) :=
        Nat.mul_le_mul_left _ (Nat.mul_le_mul hgrown hshare)
    _ = (total + added.weight) * (n + 1 + (affectedEdges + 1)) * (10 * (n * n)) := by ring

end ImpactFlow

namespace FlowGraph

open ImpactFlow

variable {scope : Scope} {flows : List ImpactFlow}

/-- How critical the graph of some flows is, before the cut at one. -/
def uncutScore (flows : List ImpactFlow) (scope : Scope) : Rat :=
  uncut flows ((ofFlows flows scope).edges.countP FlowEdge.isAffected)

/-- How critical the graph of some flows is, without rounding. -/
def exactScore (flows : List ImpactFlow) (scope : Scope) : Rat :=
  ImpactFlow.criticality flows ((ofFlows flows scope).edges.countP FlowEdge.isAffected)

theorem exactScore_nil (scope : Scope) : exactScore [] scope = 0 := rfl

/-- The score of some flows is between a tenth and one before the cut, which leaves it as it is, and it is
one exactly if all of them are critical and direct and all edges are affected. -/
structure IsBounded (flows : List ImpactFlow) (scope : Scope) : Prop where
  lower : 1 / 10 ≤ uncutScore flows scope
  upper : uncutScore flows scope ≤ 1
  uncut : exactScore flows scope = uncutScore flows scope
  full : exactScore flows scope = 1 ↔ (∀ flow ∈ flows, flow.IsExtreme) ∧
    ∀ edge ∈ (ofFlows flows scope).edges, edge.isAffected = true

/-- No more edges are affected than there are flows. -/
theorem countP_edges_le (flows : List ImpactFlow) (scope : Scope) :
    (ofFlows flows scope).edges.countP FlowEdge.isAffected ≤ flows.length := by
  refine List.countP_le_length.trans (Nat.le_of_eq ?_)
  rw [edges_eq, List.length_map]

/-- The score of some flows is bounded whatever the scope is. -/
theorem isBounded (hne : flows ≠ []) (hflows : ∀ flow ∈ flows, flow.IsWeighed) (scope : Scope) :
    IsBounded flows scope := by
  have hedges := countP_edges_le flows scope
  have hupper : uncutScore flows scope ≤ 1 := uncut_le_one hne hflows hedges
  have hexact : exactScore flows scope = uncutScore flows scope :=
    (criticality_eq hne _).trans (min_eq_right hupper)
  refine ⟨tenth_le_uncut hne hflows _, hupper, hexact, ?_⟩
  have hlength : (ofFlows flows scope).edges.length = flows.length := by rw [edges_eq, List.length_map]
  rw [hexact, uncutScore, uncut_eq_one hne hflows hedges, ← List.countP_eq_length, hlength]

/-- The affected edges are the flows of which the scope knows an end. -/
theorem countP_isAffected (hscope : scope.HasLevels) (hflows : ∀ flow ∈ flows, flow.IsWeighed) :
    (ofFlows flows scope).edges.countP FlowEdge.isAffected =
      flows.countP fun flow => scope.knows flow.source || scope.knows flow.target :=
  countP_edges hscope fun flow hflow => (hflows flow hflow).level

/-- A raised flow does not lower the score: the same edges are affected. -/
theorem exactScore_le_of_raises {before after : List ImpactFlow} {flow raised : ImpactFlow}
    (hscope : scope.HasLevels) (hflows : ∀ other ∈ before ++ flow :: after, other.IsWeighed)
    (hraised : raised.Raises flow) :
    exactScore (before ++ flow :: after) scope ≤ exactScore (before ++ raised :: after) scope := by
  have hothers : ∀ other ∈ before ++ raised :: after, other.IsWeighed := by
    simp only [List.forall_mem_append, List.forall_mem_cons] at hflows ⊢
    exact ⟨hflows.1, hraised.isWeighed, hflows.2.2⟩
  have hne : before ++ flow :: after ≠ [] := by simp
  have hweight : totalWeight (before ++ flow :: after) ≤ totalWeight (before ++ raised :: after) := by
    rw [totalWeight_append, totalWeight_append, totalWeight_cons, totalWeight_cons]
    have hmore := hraised.weight_le
    omega
  rw [(isBounded hne hflows scope).uncut, (isBounded (by simp) hothers scope).uncut, uncutScore, uncutScore,
    countP_isAffected hscope hflows, countP_isAffected hscope hothers]
  simp only [List.countP_append, List.countP_cons, hraised.ends.1, hraised.ends.2]
  exact uncut_mono hne (by simp) hweight _

/-- An affected flow of at least average weight does not lower the score. -/
theorem exactScore_le_of_added {before after : List ImpactFlow} {added : ImpactFlow}
    (hscope : scope.HasLevels) (hflows : ∀ flow ∈ before ++ after, flow.IsWeighed)
    (hadded : added.IsWeighed)
    (haffected : (edgeOf (ofFlows (before ++ added :: after) scope).nodes added).isAffected = true)
    (hweight : averageWeight (before ++ after) ≤ added.weight) :
    exactScore (before ++ after) scope ≤ exactScore (before ++ added :: after) scope := by
  have hothers : ∀ flow ∈ before ++ added :: after, flow.IsWeighed := by
    simp only [List.forall_mem_append, List.forall_mem_cons] at hflows ⊢
    exact ⟨hflows.1, hadded, hflows.2⟩
  have hbounded : IsBounded (before ++ added :: after) scope := isBounded (by simp) hothers scope
  have hedges := countP_edges_le (before ++ after) scope
  by_cases hne : before ++ after = []
  · -- nothing can be less than the score of no flows
    rw [hne, exactScore_nil, hbounded.uncut]
    exact le_trans (by norm_num) hbounded.lower
  rw [edgeOf_isAffected hscope (fun flow hflow => (hothers flow hflow).level) (by simp)] at haffected
  rw [countP_isAffected hscope hflows] at hedges
  rw [(isBounded hne hflows scope).uncut, hbounded.uncut, uncutScore, uncutScore,
    countP_isAffected hscope hflows, countP_isAffected hscope hothers]
  have hcount : (before ++ added :: after).countP (fun flow =>
        scope.knows flow.source || scope.knows flow.target) =
      ((before ++ after).countP fun flow => scope.knows flow.source || scope.knows flow.target) + 1 := by
    rw [List.countP_append, List.countP_append, List.countP_cons, if_pos haffected, Nat.add_assoc]
  rw [hcount]
  exact uncut_add hne hedges hweight

/-- **The score of flows.** Without flows it is zero. Of flows whose strengths and levels exist, in a scope
whose levels do, it is bounded as described; a flow that is raised does not lower it, nor does a further
flow, wherever it is put, whose edge is affected and whose weight is at least the average. -/
theorem exactScore_isFair (scope : Scope) (hscope : scope.HasLevels) (flows : List ImpactFlow)
    (hflows : ∀ flow ∈ flows, flow.IsWeighed) :
    exactScore [] scope = 0 ∧ (flows ≠ [] → IsBounded flows scope) ∧
      (∀ before flow after raised, flows = before ++ flow :: after → raised.Raises flow →
        exactScore flows scope ≤ exactScore (before ++ raised :: after) scope) ∧
      ∀ before after added, flows = before ++ after → added.IsWeighed →
        (edgeOf (ofFlows (before ++ added :: after) scope).nodes added).isAffected = true →
        averageWeight flows ≤ added.weight →
        exactScore flows scope ≤ exactScore (before ++ added :: after) scope := by
  refine ⟨exactScore_nil scope, fun hne => isBounded hne hflows scope, ?_, ?_⟩
  · rintro before flow after raised rfl hraised
    exact exactScore_le_of_raises hscope hflows hraised
  · rintro before after added rfl hadded haffected hweight
    exact exactScore_le_of_added hscope hflows hadded haffected hweight

/-- A change of the module `a` and the entity `X`. -/
def checkout : Scope := ⟨[.str "a"], [], [⟨.str "b", .str "b", .known .indirect, [], ""⟩], [], [.str "X"], 1⟩

/-- A flow between two modules. -/
def flowBetween (source target : String) (strength : Strength) (level : ImpactLevel) : ImpactFlow :=
  ⟨.str "flow", .str source, .str target, [], .known .read, .known strength, [], .known level, [], false, []⟩

/-- Two affected flows and one that is not. -/
def threeFlows : List ImpactFlow :=
  [flowBetween "a" "c" .important .direct, flowBetween "b" "d" .important .indirect,
    flowBetween "c" "d" .optional .cascade]

/-- The second flow is raised, and an important one from `X` is added. -/
theorem exactScore_isFair_threeFlows :
    checkout.HasLevels ∧ (∀ flow ∈ threeFlows, flow.IsWeighed) ∧ exactScore threeFlows checkout = 4 / 9 ∧
      IsBounded threeFlows checkout ∧
      4 / 9 ≤ exactScore [flowBetween "a" "c" .important .direct, flowBetween "b" "d" .critical .direct,
        flowBetween "c" "d" .optional .cascade] checkout ∧
      4 / 9 ≤ exactScore (flowBetween "X" "e" .important .indirect :: threeFlows) checkout := by
  have hscope : checkout.HasLevels := List.forall_mem_singleton.mpr ⟨.indirect, rfl⟩
  have hbetween : ∀ source target strength level, (flowBetween source target strength level).IsWeighed :=
    fun _ _ strength level => ⟨⟨strength, rfl⟩, level, rfl⟩
  have hflows : ∀ flow ∈ threeFlows, flow.IsWeighed := by
    simp only [threeFlows, List.forall_mem_cons, hbetween, List.not_mem_nil, false_implies, implies_true,
      and_self]
  have hscore : exactScore threeFlows checkout = 4 / 9 := by decide +kernel
  obtain ⟨-, hbounded, hraises, hadds⟩ := exactScore_isFair checkout hscope threeFlows hflows
  rw [hscore] at hraises hadds
  refine ⟨hscope, hflows, hscore, hbounded (List.cons_ne_nil _ _), ?_, ?_⟩
  · exact hraises [flowBetween "a" "c" .important .direct] (flowBetween "b" "d" .important .indirect)
      [flowBetween "c" "d" .optional .cascade] _ rfl
      ⟨.important, .indirect, .critical, .direct, rfl, rfl, rfl, by decide, by decide⟩
  · exact hadds [] threeFlows (flowBetween "X" "e" .important .indirect) rfl (hbetween ..)
      (by decide +kernel) (by decide +kernel)

end FlowGraph

end ChangeImpact

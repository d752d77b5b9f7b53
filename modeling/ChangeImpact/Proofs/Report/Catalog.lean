import ChangeImpact.Proofs.Distinct
import ChangeImpact.Proofs.Json.Names
import ChangeImpact.Proofs.Knowledge.Growth
import ChangeImpact.Proofs.Report.Widening

/-!
# Reports without a catalog

Where all flows of a project are listed, a report looks at each of them; where they are not, at the
flows of the affected entities, which are looked up one after the other and found again and again. What
is left out in this way is only what shares no entity with the scope:

> `analyze_selects`: the flows of a report without a catalog are, numbers and order aside, those of the
> report with one that share an entity with the scope; so both have the same direct flows, and find that
> a flow is disrupted in the same cases.

Flows that agree share the same entities. So whether a flow is the first of those that agree with it
does not depend on how the flows were collected (`find?_flatMap_flowsOf`).
-/

namespace ChangeImpact

/-! ## Flows -/

namespace DataFlow

/-- What flows are compared by: all their parts, names in canonical form. -/
def key (flow : DataFlow) : Json × Json × List Json × FlowType × Strength × List Json :=
  (flow.source.canonical, flow.target.canonical, flow.entities.map Json.canonical, flow.flowType,
    flow.strength, flow.relationships.map Json.canonical)

theorem agrees_iff (a b : DataFlow) : a.agrees b = true ↔ a.key = b.key := by
  unfold agrees key
  simp only [Bool.and_eq_true, decide_eq_true_iff, Json.beq_iff, Json.list_beq_iff, Prod.mk.injEq,
    and_assoc]

/-- Flows that agree have the same entities. -/
theorem contains_of_agrees {a b : DataFlow} (h : a.agrees b = true) (entity : Name) :
    a.entities.contains entity = b.entities.contains entity := by
  have hentities : a.entities.map Json.canonical = b.entities.map Json.canonical :=
    congrArg (fun parts => parts.2.2.1) ((agrees_iff a b).mp h)
  rw [Bool.eq_iff_iff, Json.contains_iff_canonical, Json.contains_iff_canonical, hentities]

/-- A flow that is affected directly shares an entity with the scope. -/
theorem sharesEntity_of_direct {flow : DataFlow} {scope : Scope} (h : flow.levelIn scope = .direct) :
    flow.sharesEntity scope = true := by
  unfold levelIn levelFor at h
  cases hshares : flow.sharesEntity scope with
  | true => rfl
  | false =>
    rw [hshares, Bool.and_false, if_neg Bool.false_ne_true] at h
    split at h <;> cases h

end DataFlow

/-- The first value over a list, if all entries that give one give the same. -/
theorem findSome?_same {α β : Type} (p : α → Bool) (found : Option β) (as : List α) :
    as.findSome? (fun a => if p a then found else none) = if as.any p then found else none := by
  induction as with
  | nil => rfl
  | cons a as ih =>
    rw [List.findSome?_cons, ih, List.any_cons]
    cases p a <;> cases found <;> simp

namespace Knowledge

variable (k : Knowledge)

/-- Among the flows of an entity, a flow finds the one that agrees with it as among all flows, provided
that it is a flow of the entity. -/
theorem find?_flowsOf (entity : Name) (flow : DataFlow) :
    (k.flowsOf entity).find? flow.agrees =
      if flow.entities.contains entity then k.flows.find? flow.agrees else none := by
  unfold flowsOf
  rw [List.find?_filter]
  split
  next hof =>
    congr 1
    funext other
    cases hagrees : flow.agrees other with
    | false => simp
    | true => simp [← DataFlow.contains_of_agrees hagrees entity, hof]
  next hnot =>
    refine List.find?_eq_none.mpr fun other _ => ?_
    cases hagrees : flow.agrees other with
    | false => simp
    | true => simp [← DataFlow.contains_of_agrees hagrees entity, hnot]

/-- Among the flows of some entities, with all repetitions, a flow finds the one that agrees with it as
among all flows, provided that it has one of the entities. -/
theorem find?_flatMap_flowsOf (entities : List Name) (flow : DataFlow) :
    (entities.flatMap k.flowsOf).find? flow.agrees =
      if entities.any flow.entities.contains then k.flows.find? flow.agrees else none := by
  rw [List.find?_flatMap]
  simp only [find?_flowsOf]
  exact findSome?_same _ _ _

end Knowledge

namespace ImpactFlow

/-- The impact under no id. -/
def unnumbered (flow : ImpactFlow) : ImpactFlow := { flow with id := .null }

/-- Whether the flow shares an entity with a scope. -/
def sharesEntity (flow : ImpactFlow) (scope : Scope) : Bool :=
  flow.entities.any scope.affectedEntities.contains

/-- Numbers aside, what is picked of the impacts on some flows are the impacts on those flows that are
picked. -/
theorem ofFlows_filter {scope : Scope} {p : ImpactFlow → Bool} {q : DataFlow → Bool}
    (h : ∀ flow id, p (flow.impactIn scope id) = q flow) (flows : List DataFlow) :
    ((ofFlows flows scope).filter p).map unnumbered =
      (flows.filter q).map fun flow => (flow.impactIn scope "").unnumbered := by
  have hpicked : (flows.zipIdx.filter (q ∘ Prod.fst)).map Prod.fst = flows.filter q := by
    rw [← List.filter_map, List.zipIdx_map_fst]
  unfold ofFlows
  rw [List.filter_map, List.map_map, ← hpicked, List.map_map]
  congr 1
  exact List.filter_congr fun entry _ => h entry.1 _

section

variable {part full : List DataFlow} {scope : Scope}
  (hpart : part.Perm (full.filter fun flow => flow.sharesEntity scope))

include hpart

/-- Numbers and order aside, the impacts on the flows that share an entity with the scope are the
impacts that do. -/
theorem ofFlows_perm : ((ofFlows part scope).map unnumbered).Perm
    (((ofFlows full scope).filter fun flow => flow.sharesEntity scope).map unnumbered) := by
  have hall := @ofFlows_filter scope (fun _ => true) (fun _ => true) (fun _ _ => rfl) part
  rw [List.filter_true, List.filter_true] at hall
  have hshares := @ofFlows_filter scope (fun flow => flow.sharesEntity scope)
    (fun flow => flow.sharesEntity scope) (fun _ _ => rfl) full
  rw [hall, hshares]
  exact hpart.map _

/-- Among the flows that share an entity with the scope are all that are affected directly. -/
theorem ofFlows_direct_perm :
    (((ofFlows part scope).filter fun flow => flow.level.is .direct).map unnumbered).Perm
      (((ofFlows full scope).filter fun flow => flow.level.is .direct).map unnumbered) := by
  have hlevel : ∀ (flow : DataFlow) (id : String),
      (flow.impactIn scope id).level.is .direct = decide (flow.levelIn scope = .direct) :=
    fun flow _ => decide_eq_decide.mpr (Tag.known.injEq ..).to_iff
  have hfull : full.filter (fun flow => flow.levelIn scope = .direct) =
      (full.filter fun flow => flow.sharesEntity scope).filter
        fun flow => flow.levelIn scope = .direct := by
    rw [List.filter_filter]
    refine List.filter_congr fun flow _ => ?_
    cases hdirect : decide (flow.levelIn scope = .direct) with
    | false => rfl
    | true => exact (DataFlow.sharesEntity_of_direct (of_decide_eq_true hdirect)).symm
  rw [ofFlows_filter hlevel, ofFlows_filter hlevel, hfull]
  exact (hpart.filter _).map _

end

end ImpactFlow

/-! ## Rules -/

namespace BuiltInRule

theorem id_injective {r s : BuiltInRule} (h : r.id = s.id) : r = s := by
  revert h
  cases r <;> cases s <;> decide

/-- The id of a rule is among those of the risks if the rule finds something. -/
theorem mem_ruleIds {ctx : RiskContext} {r : BuiltInRule} :
    .str r.id ∈ (risks ctx).map Risk.ruleId ↔ r.applies ctx = true := by
  constructor
  · intro h
    obtain ⟨risk, hrisk, hid⟩ := List.mem_map.mp h
    obtain ⟨s, happ, rfl⟩ := mem_risks.mp hrisk
    have hsame : s = r := id_injective (Json.str.inj hid)
    exact hsame ▸ happ
  · intro happ
    exact List.mem_map.mpr ⟨r.risk ctx, mem_risks.mpr ⟨r, happ, rfl⟩, rfl⟩

/-- Whether a flow is disrupted shows in the flows that are affected directly. -/
theorem disruption_iff {ctx : RiskContext} :
    .str "R005" ∈ (risks ctx).map Risk.ruleId ↔
      ((ctx.flows.filter fun flow => flow.level.is .direct).map ImpactFlow.unnumbered).any
        (fun flow => flow.strength.is .critical) = true := by
  rw [show Json.str "R005" = .str (id .flowDisruption) from rfl, mem_ruleIds]
  show (ctx.flows.any fun flow => flow.strength.is .critical && flow.level.is .direct) = true ↔ _
  rw [List.any_map, List.any_filter]
  simp only [Bool.and_comm]
  rfl

end BuiltInRule

/-! ## Reports -/

namespace Report

/-- The flows of the affected entities are those of the catalog that share an entity with the scope. -/
theorem candidateFlows_perm (modules specs imports : Option Knowledge) (k : Knowledge) (scope : Scope) :
    (candidateFlows ⟨modules, specs, imports, some k⟩ none scope).Perm
      ((candidateFlows ⟨modules, specs, imports, some k⟩ (some k) scope).filter fun flow =>
        flow.sharesEntity scope) := by
  show ((scope.affectedEntities.flatMap k.flowsOf).eraseDupsBy DataFlow.agrees).Perm
    ((k.flows.eraseDupsBy DataFlow.agrees).filter fun flow => flow.sharesEntity scope)
  have hnodup := eraseDupsBy_nodup DataFlow.agrees_self
  refine (List.perm_ext_iff_of_nodup (hnodup _) ((hnodup _).filter _)).mpr fun flow => ?_
  rw [List.mem_filter, mem_eraseDupsBy_iff DataFlow.agrees_iff, mem_eraseDupsBy_iff DataFlow.agrees_iff,
    Knowledge.find?_flatMap_flowsOf, ← Json.any_contains_comm]
  show (if flow.sharesEntity scope = true then _ else _) = _ ↔ _
  split
  next hshares => simp [hshares]
  next hnot => simp [hnot]

/-- The other report is on the same scope and has, numbers and order aside, the flows that share an
entity with it; the direct ones are the same, and so is whether they are found to be disrupted. -/
structure Selects (full part : Report) : Prop where
  scope : part.scope = full.scope
  flows : (part.flows.map ImpactFlow.unnumbered).Perm
    ((full.flows.filter fun flow => flow.sharesEntity full.scope).map ImpactFlow.unnumbered)
  direct : ((part.flows.filter fun flow => flow.level.is .direct).map ImpactFlow.unnumbered).Perm
    ((full.flows.filter fun flow => flow.level.is .direct).map ImpactFlow.unnumbered)
  disruption : .str "R005" ∈ part.risks.map Risk.ruleId ↔ .str "R005" ∈ full.risks.map Risk.ruleId

/-- **A catalog adds no flow of an affected entity.** -/
theorem analyze_selects (modules specs imports : Option Knowledge) (k : Knowledge) (reach : Reach)
    (settings : CheckSettings) (change : Change) (parsed : Parsed) :
    (analyze ⟨modules, specs, imports, some k⟩ (some k) reach settings change parsed).Selects
      (analyze ⟨modules, specs, imports, some k⟩ none reach settings change parsed) := by
  have hperm := candidateFlows_perm modules specs imports k
    (Scope.detect ⟨modules, specs, imports, some k⟩ reach change parsed)
  have hdirect := ImpactFlow.ofFlows_direct_perm hperm
  refine ⟨rfl, ImpactFlow.ofFlows_perm hperm, hdirect, ?_⟩
  refine BuiltInRule.disruption_iff.trans (Iff.trans ?_ BuiltInRule.disruption_iff.symm)
  exact Bool.eq_iff_iff.mp hdirect.any_eq

end Report

end ChangeImpact

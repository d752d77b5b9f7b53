import Mathlib.Data.List.Nodup
import Mathlib.Data.List.Perm.Basic
import ChangeImpact.Flow.Graph
import ChangeImpact.Flow.Statistics
import ChangeImpact.Proofs.Json.Names

/-!
# The graph of some flows

The nodes of a graph are made as the flows bring them, and the first flow that brings a node decides
what it stands for and at which level. So the graph depends on the order of the flows. What does not
is which nodes there are and which of them are affected: a scope knows an id or does not
(`Scope.knows`), whatever flow brings it and as what.

> `nodesOf_isAffected`: a node is affected exactly if the scope knows its id.

From this it follows what the graph of any flows looks like (`ofFlows_describes`), and that its counts
stay the same when the flows are put in another order (`marks_perm`, `ofFlows_metadata`).
-/

namespace ChangeImpact

/-! ## What a scope knows -/

namespace Scope

/-- The levels of the dependent modules exist. -/
def HasLevels (scope : Scope) : Prop := ∀ m ∈ scope.dependentModules, ∃ level, m.level = .known level

/-- The levels of the dependent modules exist, and their ids are texts. -/
def IsProper (scope : Scope) : Prop :=
  ∀ m ∈ scope.dependentModules, m.moduleId.IsText ∧ ∃ level, m.level = .known level

theorem IsProper.hasLevels {scope : Scope} (h : scope.IsProper) : scope.HasLevels := fun m hm => (h m hm).2

/-- Whether an id is that of a module of the change, of a dependent one or of an entity concerned. -/
def knows (scope : Scope) (id : Name) : Bool :=
  scope.primaryModules.contains id || (scope.dependentModules.any fun m => m.moduleId == id) ||
    scope.affectedEntities.contains id

/-- What compares equal is known alike. -/
theorem knows_congr (scope : Scope) {a b : Name} (h : (a == b) = true) : scope.knows a = scope.knows b := by
  unfold knows
  simp only [List.contains_eq_any_beq, BEq.congr_left h, BEq.congr_right h]

/-- A proper scope knows its primary modules, its dependent ones and its entities. -/
theorem knows_iff {scope : Scope} (hscope : scope.IsProper) {id : Name} (hid : id.IsText) :
    scope.knows id = true ↔ id ∈ scope.primaryModules ∨
      (∃ m ∈ scope.dependentModules, m.moduleId = id) ∨ id ∈ scope.affectedEntities := by
  have hdependent : (scope.dependentModules.any fun m => m.moduleId == id) = true ↔
      ∃ m ∈ scope.dependentModules, m.moduleId = id := by
    rw [List.any_eq_true]
    exact exists_congr fun m => and_congr_right fun hm => (hscope m hm).1.beq_iff
  unfold knows
  rw [Bool.or_eq_true, Bool.or_eq_true, hid.contains_iff, hid.contains_iff, hdependent, or_assoc]

end Scope

namespace ImpactFlow

/-- The level of the flow exists. -/
def HasLevel (flow : ImpactFlow) : Prop := ∃ level, flow.level = .known level

/-- The ends and entities of the flow are texts, and its level exists. -/
structure IsProper (flow : ImpactFlow) : Prop where
  source : flow.source.IsText
  target : flow.target.IsText
  entities : ∀ id ∈ flow.entities, id.IsText
  level : ∃ level, flow.level = .known level

/-- The flow starts or ends at the id, or has it among its entities. -/
def Joins (flow : ImpactFlow) (id : Name) : Prop :=
  id = flow.source ∨ id = flow.target ∨ id ∈ flow.entities

/-- The flow joins texts only. -/
def JoinsTexts (flow : ImpactFlow) : Prop := ∀ id, flow.Joins id → id.IsText

/-- A proper flow joins texts. -/
theorem IsProper.joinsTexts {flow : ImpactFlow} (h : flow.IsProper) : flow.JoinsTexts := by
  intro id hid
  rcases hid with rfl | rfl | hid
  · exact h.source
  · exact h.target
  · exact h.entities id hid

theorem joinsTexts {flows : List ImpactFlow} (h : ∀ flow ∈ flows, flow.IsProper) :
    ∀ flow ∈ flows, flow.JoinsTexts := fun flow hflow => (h flow hflow).joinsTexts

end ImpactFlow

/-! ## Counts of flows -/

namespace ImpactFlow

-- sums are the core ones, whatever else is imported
attribute [local instance (high)] Zero.ofOfNat0

variable {flows others : List ImpactFlow}

/-- In exact terms the order of flows does not matter, and so it does not for the rounded score. -/
theorem criticalityScore_perm (h : flows.Perm others) (affectedEdges : Nat) :
    criticalityScore others affectedEdges = criticalityScore flows affectedEdges := by
  have hweight : totalWeight others = totalWeight flows := (h.map weight).sum_nat.symm
  unfold criticalityScore
  rw [hweight, h.length_eq, List.Perm.isEmpty_eq h]

/-- Counts do not depend on the order. -/
theorem tally_perm {α : Type} [Vocabulary α] [DecidableEq α] {tags others : List (Tag α)}
    (h : tags.Perm others) : Tag.tally others = Tag.tally tags := by
  unfold Tag.tally
  simp only [h.count_eq]

/-- Nor do statistics. -/
theorem statistics_perm (h : flows.Perm others) : statistics others = statistics flows := by
  have hsum : (others.map fun flow => (flow.suggestedTests.length : Int)).sum =
      (flows.map fun flow => (flow.suggestedTests.length : Int)).sum :=
    (h.map _).foldr_op_eq.symm
  unfold statistics
  rw [tally_perm (h.map strength), tally_perm (h.map level), tally_perm (h.map flowType),
    h.length_eq, h.countP_eq, hsum]

end ImpactFlow

namespace FlowGraph

variable {scope : Scope} {flow : ImpactFlow} {flows : List ImpactFlow}

/-! ## The nodes that a flow brings -/

/-- A level that exists is always given. -/
theorem given_known {α : Type} [DecidableEq α] (a : α) : (Tag.known a).given? = some (.known a) :=
  if_neg nofun

/-- There is a level for a dependent module exactly if the id is that of one. -/
theorem dependentLevel_isSome (hscope : scope.HasLevels) (id : Name) :
    ((dependentLevel? scope id).bind Tag.given?).isSome =
      scope.dependentModules.any fun m => m.moduleId == id := by
  unfold dependentLevel?
  cases hfound : scope.dependentModules.reverse.find? fun m => m.moduleId == id with
  | none =>
    refine (List.any_eq_false.mpr fun m hm => ?_).symm
    exact List.find?_eq_none.mp hfound m (List.mem_reverse.mpr hm)
  | some m =>
    have hm := List.mem_reverse.mp (List.mem_of_find?_eq_some hfound)
    obtain ⟨level, hlevel⟩ := hscope m hm
    rw [List.any_eq_true.mpr ⟨m, hm,
      List.find?_some (p := fun m : ScopedModule => m.moduleId == id) hfound⟩]
    rw [Option.map_some, hlevel, Option.bind_some, given_known]
    rfl

/-- A module gets a level from a flow if and only if the scope knows it. -/
theorem moduleLevel_isSome (hscope : scope.HasLevels) (hflow : flow.HasLevel) (id : Name) :
    (moduleLevel? scope flow id).isSome = scope.knows id := by
  obtain ⟨level, hlevel⟩ := hflow
  have hdependent := dependentLevel_isSome hscope id
  unfold moduleLevel? Scope.knows
  rw [← hdependent, hlevel, given_known]
  cases scope.primaryModules.contains id with
  | true => rfl
  | false =>
    cases hfound : dependentLevel? scope id with
    | none => cases scope.affectedEntities.contains id <;> rfl
    | some other =>
      -- the level of a dependent module exists, so that the entities are not looked at
      obtain ⟨m, hm, rfl⟩ := Option.map_eq_some_iff.mp hfound
      obtain ⟨level, hlevel⟩ := hscope m (List.mem_reverse.mp (List.mem_of_find?_eq_some hm))
      rw [hlevel, Option.bind_some, given_known]
      rfl

/-- So does an entity. -/
theorem entityLevel_isSome (hscope : scope.HasLevels) (hflow : flow.HasLevel) (id : Name) :
    (entityLevel? scope flow id).isSome = scope.knows id := by
  obtain ⟨level, hlevel⟩ := hflow
  have hdependent := dependentLevel_isSome hscope id
  unfold entityLevel? Scope.knows
  rw [hlevel, given_known, ← hdependent]
  cases scope.affectedEntities.contains id <;> cases scope.primaryModules.contains id <;> simp

/-- **Known ids are affected**, whatever flow brings them and as what. -/
theorem nodesOf_isAffected (hscope : scope.HasLevels) (hflow : flow.HasLevel) {node : FlowNode}
    (h : node ∈ nodesOf scope flow) : node.isAffected = scope.knows node.id := by
  rcases List.mem_append.mp h with h | h
  · obtain ⟨id, -, rfl⟩ := List.mem_map.mp h
    exact moduleLevel_isSome hscope hflow id
  · obtain ⟨id, -, rfl⟩ := List.mem_map.mp h
    exact entityLevel_isSome hscope hflow id

/-- A flow brings a node for each of its ends and entities. -/
theorem exists_mem_nodesOf {id : Name} :
    (∃ node ∈ nodesOf scope flow, node.id = id) ↔ flow.Joins id := by
  unfold nodesOf ImpactFlow.Joins
  simp only [List.mem_append, List.mem_map, List.mem_cons, List.not_mem_nil, or_false]
  constructor
  · rintro ⟨node, ⟨other, rfl | rfl, rfl⟩ | ⟨other, hother, rfl⟩, rfl⟩
    · exact Or.inl rfl
    · exact Or.inr (Or.inl rfl)
    · exact Or.inr (Or.inr hother)
  · rintro (rfl | rfl | hid)
    · exact ⟨_, Or.inl ⟨_, Or.inl rfl, rfl⟩, rfl⟩
    · exact ⟨_, Or.inl ⟨_, Or.inr rfl, rfl⟩, rfl⟩
    · exact ⟨_, Or.inr ⟨id, hid, rfl⟩, rfl⟩

/-! ## Adding nodes -/

/-- What is added was brought. -/
theorem mem_addNodes {nodes more : List FlowNode} {node : FlowNode} (h : node ∈ addNodes nodes more) :
    node ∈ nodes ∨ node ∈ more := by
  induction more generalizing nodes with
  | nil => exact Or.inl h
  | cons first more ih =>
    unfold addNodes at h
    split at h
    · exact (ih h).imp id (List.mem_cons_of_mem _)
    · rcases ih h with hleft | hmore
      · rcases List.mem_append.mp hleft with hnode | hfirst
        · exact Or.inl hnode
        · exact Or.inr (List.mem_singleton.mp hfirst ▸ List.mem_cons_self ..)
      · exact Or.inr (List.mem_cons_of_mem _ hmore)

/-- Of everything brought there is a node. -/
theorem exists_mem_addNodes {nodes more : List FlowNode} {node : FlowNode}
    (h : node ∈ nodes ∨ node ∈ more) : ∃ kept ∈ addNodes nodes more, (kept.id == node.id) = true := by
  induction more generalizing nodes node with
  | nil =>
    rcases h with h | h
    · exact ⟨node, h, BEq.rfl⟩
    · cases h
  | cons first more ih =>
    unfold addNodes
    split
    next hmet =>
      rcases h with h | h
      · exact ih (Or.inl h)
      · rcases List.mem_cons.mp h with rfl | h
        · -- the node that was met before stands for this one
          obtain ⟨other, hother, hsame⟩ := List.any_eq_true.mp hmet
          obtain ⟨kept, hkept, heq⟩ := ih (Or.inl hother)
          exact ⟨kept, hkept, PartialEquivBEq.trans heq hsame⟩
        · exact ih (Or.inr h)
    next =>
      rcases h with h | h
      · exact ih (Or.inl (List.mem_append_left _ h))
      · rcases List.mem_cons.mp h with rfl | h
        · exact ih (Or.inl (List.mem_append_right _ (List.mem_singleton_self _)))
        · exact ih (Or.inr h)

/-- No two nodes have one id. -/
theorem addNodes_pairwise {nodes : List FlowNode}
    (h : nodes.Pairwise fun a b => (a.id == b.id) = false) (more : List FlowNode) :
    (addNodes nodes more).Pairwise fun a b => (a.id == b.id) = false := by
  induction more generalizing nodes with
  | nil => exact h
  | cons first more ih =>
    unfold addNodes
    split
    next => exact ih h
    next hnew =>
      refine ih (List.pairwise_append.mpr ⟨h, List.pairwise_singleton _ _, ?_⟩)
      intro a ha b hb
      rw [List.mem_singleton.mp hb, Bool.eq_false_iff]
      exact fun hsame => hnew (List.any_eq_true.mpr ⟨a, ha, hsame⟩)

/-! ## The graph -/

/-- The ids of the graph are distinct texts, and its edges join nodes of it. -/
structure IsJoined (graph : FlowGraph) : Prop where
  texts : ∀ node ∈ graph.nodes, node.id.IsText
  distinct : (graph.nodes.map FlowNode.id).Nodup
  ends : ∀ edge ∈ graph.edges, edge.source ∈ graph.nodes.map FlowNode.id ∧
    edge.target ∈ graph.nodes.map FlowNode.id

/-- The nodes and edges of the graph are those of the flows, and they are affected as the scope says. -/
structure Describes (graph : FlowGraph) (flows : List ImpactFlow) (scope : Scope) : Prop where
  distinct : (graph.nodes.map FlowNode.id).Nodup
  nodes : ∀ id, id ∈ graph.nodes.map FlowNode.id ↔ ∃ flow ∈ flows, flow.Joins id
  /-- There is an edge for each flow. -/
  edges : List.Forall₂ (fun edge flow => edge.id = flow.id ∧ edge.source = flow.source ∧
    edge.target = flow.target) graph.edges flows
  ends : ∀ edge ∈ graph.edges, edge.source ∈ graph.nodes.map FlowNode.id ∧
    edge.target ∈ graph.nodes.map FlowNode.id
  affected_nodes : ∀ node ∈ graph.nodes, node.isAffected = true ↔
    node.id ∈ scope.primaryModules ∨ (∃ m ∈ scope.dependentModules, m.moduleId = node.id) ∨
      node.id ∈ scope.affectedEntities
  affected_edges : ∀ edge ∈ graph.edges, edge.isAffected = true ↔
    ∃ node ∈ graph.nodes, (node.id = edge.source ∨ node.id = edge.target) ∧ node.isAffected = true

theorem edges_eq (flows : List ImpactFlow) (scope : Scope) :
    (ofFlows flows scope).edges = flows.map (edgeOf (ofFlows flows scope).nodes) := rfl

/-- No two nodes have one id. -/
theorem nodup_nodes (flows : List ImpactFlow) (scope : Scope) :
    ((ofFlows flows scope).nodes.map FlowNode.id).Nodup := by
  have hpairwise := addNodes_pairwise List.Pairwise.nil (flows.flatMap (nodesOf scope))
  refine List.pairwise_map.mpr (hpairwise.imp fun hne heq => ?_)
  rw [heq, BEq.rfl] at hne
  cases hne

/-- Every node was brought by a flow. -/
theorem exists_flow_of_mem_nodes {node : FlowNode} (h : node ∈ (ofFlows flows scope).nodes) :
    ∃ flow ∈ flows, node ∈ nodesOf scope flow := by
  rcases mem_addNodes h with h | h
  · cases h
  · exact List.mem_flatMap.mp h

section Joined

variable (hflows : ∀ flow ∈ flows, flow.JoinsTexts)

include hflows

/-- The ids of nodes are texts if flows join texts. -/
theorem isText_of_mem_nodes {node : FlowNode} (h : node ∈ (ofFlows flows scope).nodes) :
    node.id.IsText := by
  obtain ⟨flow, hflow, hnode⟩ := exists_flow_of_mem_nodes h
  exact hflows flow hflow node.id (exists_mem_nodesOf.mp ⟨node, hnode, rfl⟩)

/-- The nodes are what the flows join. -/
theorem mem_nodes_iff (scope : Scope) (id : Name) :
    id ∈ (ofFlows flows scope).nodes.map FlowNode.id ↔ ∃ flow ∈ flows, flow.Joins id := by
  constructor
  · intro h
    obtain ⟨node, hnode, rfl⟩ := List.mem_map.mp h
    obtain ⟨flow, hflow, hbrought⟩ := exists_flow_of_mem_nodes hnode
    exact ⟨flow, hflow, exists_mem_nodesOf.mp ⟨node, hbrought, rfl⟩⟩
  · intro hgiven
    obtain ⟨flow, hflow, hjoins⟩ := hgiven
    obtain ⟨node, hnode, rfl⟩ := exists_mem_nodesOf.mpr hjoins
    obtain ⟨kept, hkept, hsame⟩ : ∃ kept ∈ (ofFlows flows scope).nodes,
        (kept.id == node.id) = true :=
      exists_mem_addNodes (Or.inr (List.mem_flatMap.mpr ⟨flow, hflow, hnode⟩))
    rw [← (isText_of_mem_nodes hflows hkept).eq_of_beq hsame]
    exact List.mem_map_of_mem hkept

/-- **The graph of some flows is joined.** -/
theorem ofFlows_isJoined (scope : Scope) : (ofFlows flows scope).IsJoined := by
  refine ⟨fun node hnode => isText_of_mem_nodes hflows hnode, nodup_nodes flows scope, ?_⟩
  intro edge hedge
  rw [edges_eq] at hedge
  obtain ⟨flow, hflow, rfl⟩ := List.mem_map.mp hedge
  have hmem := mem_nodes_iff hflows scope
  exact ⟨(hmem _).mpr ⟨flow, hflow, Or.inl rfl⟩, (hmem _).mpr ⟨flow, hflow, Or.inr (Or.inl rfl)⟩⟩

end Joined

section Levels

variable (hscope : scope.HasLevels) (hflows : ∀ flow ∈ flows, flow.HasLevel)

include hscope hflows

/-- A node is affected if and only if the scope knows it. -/
theorem isAffected_of_mem_nodes {node : FlowNode} (h : node ∈ (ofFlows flows scope).nodes) :
    node.isAffected = scope.knows node.id := by
  obtain ⟨flow, hflow, hnode⟩ := exists_flow_of_mem_nodes h
  exact nodesOf_isAffected hscope (hflows flow hflow) hnode

/-- An end of a flow is affected exactly if the scope knows it. -/
theorem isAffectedIn_eq {id : Name} (h : ∃ flow ∈ flows, flow.Joins id) :
    isAffectedIn (ofFlows flows scope).nodes id = scope.knows id := by
  obtain ⟨flow, hflow, hjoins⟩ := h
  obtain ⟨node, hnode, rfl⟩ := exists_mem_nodesOf.mpr hjoins
  unfold isAffectedIn
  rw [Bool.eq_iff_iff, List.any_eq_true]
  constructor
  · intro hgiven
    obtain ⟨other, hother, hboth⟩ := hgiven
    obtain ⟨hsame, hmarked⟩ := Bool.and_eq_true_iff.mp hboth
    rwa [isAffected_of_mem_nodes hscope hflows hother, scope.knows_congr hsame] at hmarked
  · intro hknows
    obtain ⟨kept, hkept, hsame⟩ : ∃ kept ∈ (ofFlows flows scope).nodes, (kept.id == node.id) = true :=
      exists_mem_addNodes (Or.inr (List.mem_flatMap.mpr ⟨flow, hflow, hnode⟩))
    refine ⟨kept, hkept, Bool.and_eq_true_iff.mpr ⟨hsame, ?_⟩⟩
    rw [isAffected_of_mem_nodes hscope hflows hkept, scope.knows_congr hsame, hknows]

/-- An edge is affected if and only if the scope knows one of its ends. -/
theorem edgeOf_isAffected {flow : ImpactFlow} (h : flow ∈ flows) :
    (edgeOf (ofFlows flows scope).nodes flow).isAffected =
      (scope.knows flow.source || scope.knows flow.target) := by
  show (isAffectedIn _ flow.source || isAffectedIn _ flow.target) = _
  rw [isAffectedIn_eq hscope hflows ⟨flow, h, Or.inl rfl⟩,
    isAffectedIn_eq hscope hflows ⟨flow, h, Or.inr (Or.inl rfl)⟩]

/-- The number of affected edges is that of the flows with an end that the scope knows. -/
theorem countP_edges : (ofFlows flows scope).edges.countP FlowEdge.isAffected =
    flows.countP fun flow => scope.knows flow.source || scope.knows flow.target := by
  rw [edges_eq, List.countP_map]
  refine List.countP_congr fun flow hflow => ?_
  show (edgeOf _ flow).isAffected = true ↔ _
  rw [edgeOf_isAffected hscope hflows hflow]

end Levels

section Proper

variable (hscope : scope.IsProper) (hflows : ∀ flow ∈ flows, flow.IsProper)

include hscope hflows

/-- **The graph of some flows.** -/
theorem ofFlows_describes : (ofFlows flows scope).Describes flows scope := by
  have htexts := ImpactFlow.joinsTexts hflows
  have hlevels : ∀ flow ∈ flows, flow.HasLevel := fun flow hflow => (hflows flow hflow).level
  have hjoined := ofFlows_isJoined htexts scope
  have hmem := mem_nodes_iff htexts scope
  refine ⟨hjoined.distinct, hmem, ?_, hjoined.ends, ?_, ?_⟩
  · rw [edges_eq, List.forall₂_map_left_iff]
    exact List.forall₂_same.mpr fun flow _ => ⟨rfl, rfl, rfl⟩
  · intro node hnode
    rw [isAffected_of_mem_nodes hscope.hasLevels hlevels hnode,
      Scope.knows_iff hscope (hjoined.texts node hnode)]
  · intro edge hedge
    rw [edges_eq] at hedge
    obtain ⟨flow, hflow, rfl⟩ := List.mem_map.mp hedge
    -- an edge is affected through its ends, which are nodes
    have hends : ∀ id, (∃ flow ∈ flows, flow.Joins id) → (scope.knows id = true ↔
        ∃ node ∈ (ofFlows flows scope).nodes, node.id = id ∧ node.isAffected = true) := by
      intro id hid
      obtain ⟨node, hnode, rfl⟩ := List.mem_map.mp ((hmem id).mpr hid)
      constructor
      · exact fun h => ⟨node, hnode, rfl, (isAffected_of_mem_nodes hscope.hasLevels hlevels hnode).trans h⟩
      · intro hgiven
        obtain ⟨other, hother, hsame, hmarked⟩ := hgiven
        rwa [isAffected_of_mem_nodes hscope.hasLevels hlevels hother, hsame] at hmarked
    rw [edgeOf_isAffected hscope.hasLevels hlevels hflow, Bool.or_eq_true,
      hends _ ⟨flow, hflow, Or.inl rfl⟩, hends _ ⟨flow, hflow, Or.inr (Or.inl rfl)⟩]
    rw [← exists_or]
    refine exists_congr fun node => ?_
    rw [← and_or_left, ← or_and_right]
    exact Iff.rfl

/-! ## Other orders -/

/-- In another order the flows bring the same nodes, affected as before. -/
theorem marks_perm {others : List ImpactFlow} (hperm : flows.Perm others) :
    ((ofFlows others scope).nodes.map fun node => (node.id, node.isAffected)).Perm
      ((ofFlows flows scope).nodes.map fun node => (node.id, node.isAffected)) := by
  have hmarks : ∀ {flows : List ImpactFlow}, (∀ flow ∈ flows, flow.IsProper) →
      (ofFlows flows scope).nodes.map (fun node => (node.id, node.isAffected)) =
        ((ofFlows flows scope).nodes.map FlowNode.id).map fun id => (id, scope.knows id) := by
    intro flows hflows
    rw [List.map_map]
    exact List.map_congr_left fun node hnode =>
      congrArg (Prod.mk node.id) (isAffected_of_mem_nodes hscope.hasLevels
        (fun flow hflow => (hflows flow hflow).level) hnode)
  have hothers : ∀ flow ∈ others, flow.IsProper := fun flow hflow =>
    hflows flow (hperm.mem_iff.mpr hflow)
  rw [hmarks hothers, hmarks hflows]
  refine List.Perm.map _ ((List.perm_ext_iff_of_nodup (nodup_nodes _ _) (nodup_nodes _ _)).mpr ?_)
  intro id
  rw [mem_nodes_iff (ImpactFlow.joinsTexts hothers),
    mem_nodes_iff (ImpactFlow.joinsTexts hflows)]
  exact exists_congr fun flow => and_congr_left fun _ => hperm.mem_iff.symm

/-- The counts of the graph do not depend on the order of the flows. -/
theorem ofFlows_metadata {others : List ImpactFlow} (hperm : flows.Perm others) :
    (ofFlows others scope).metadata = (ofFlows flows scope).metadata := by
  have hothers : ∀ flow ∈ others, flow.IsProper := fun flow hflow =>
    hflows flow (hperm.mem_iff.mpr hflow)
  -- the nodes are the same with the same marks, only their order is another
  have hmarks := marks_perm hscope hflows hperm
  have hnodes : (ofFlows others scope).nodes.length = (ofFlows flows scope).nodes.length := by
    have hlength := hmarks.length_eq
    rwa [List.length_map, List.length_map] at hlength
  have haffected : (ofFlows others scope).nodes.countP FlowNode.isAffected =
      (ofFlows flows scope).nodes.countP FlowNode.isAffected := by
    have hcount := hmarks.countP_eq Prod.snd
    rwa [List.countP_map, List.countP_map] at hcount
  have hedges : (ofFlows others scope).edges.length = (ofFlows flows scope).edges.length := by
    rw [edges_eq, edges_eq, List.length_map, List.length_map, hperm.length_eq]
  have hcut : (ofFlows others scope).edges.countP FlowEdge.isAffected =
      (ofFlows flows scope).edges.countP FlowEdge.isAffected := by
    rw [countP_edges hscope.hasLevels fun flow hflow => (hothers flow hflow).level,
      countP_edges hscope.hasLevels fun flow hflow => (hflows flow hflow).level, hperm.countP_eq]
  -- the score depends on the flows as a multiset and on how many edges are cut
  have hscore : (ofFlows others scope).criticality = (ofFlows flows scope).criticality := by
    show ImpactFlow.criticalityScore others ((ofFlows others scope).edges.countP _) =
      ImpactFlow.criticalityScore flows ((ofFlows flows scope).edges.countP _)
    rw [hcut]
    exact ImpactFlow.criticalityScore_perm hperm _
  unfold metadata
  rw [hnodes, haffected, hedges, hcut, hscore]

end Proper

end FlowGraph

end ChangeImpact

import Mathlib.Algebra.Ring.Nat
import Mathlib.Data.List.Count
import ChangeImpact.Proofs.Checklist.Groups
import ChangeImpact.Proofs.Report.Catalog
import ChangeImpact.Proofs.Report.Growth
import ChangeImpact.Proofs.Report.Knowledge

/-!
# Reports are consistent

The parts of a report are made one after the other and refer to each other by number or by id: edges
and checklist entries to flows, entries also to risks and modules. Merging entries may replace one by
another after that. None of these references goes astray:

> `analyzeChecked_consistent`: the flows are numbered from zero and stand in the graph one edge each;
> every breakdown accounts for all of them; every entry of the checklist refers to a risk, to a flow
> that needs validation and to a module that the report has; the flows come from the project, no two
> agree; and nothing that the change is about depends on it.

An entry of a section refers to what it was made from, and what merging keeps is an entry of a section
(`exists_isLongest_of_mem_generate`). The rest is about flows alone.
-/

namespace ChangeImpact

/-! ## Flows and their graph -/

namespace ImpactFlow

variable {flows : List DataFlow} {scope : Scope}

/-- Whether two impacts are on flows that agree in every part. -/
def sameFlow (a b : ImpactFlow) : Bool :=
  a.source == b.source && a.target == b.target && a.entities == b.entities &&
    a.flowType = b.flowType && a.strength = b.strength && a.relationships == b.relationships

/-- The impact is on the flow. -/
def IsOn (impact : ImpactFlow) (flow : DataFlow) : Prop :=
  impact.flowOf = (flow.source, flow.target, flow.entities, .known flow.flowType,
    .known flow.strength, flow.relationships)

/-- The ids count the flows from zero. -/
theorem ids_ofFlows (flows : List DataFlow) (scope : Scope) :
    (ofFlows flows scope).map id = (List.range flows.length).map fun i => .str s!"flow-{i}" := by
  have hnumbers : flows.zipIdx.map Prod.snd = List.range flows.length := by
    rw [List.zipIdx_map_snd, List.range_eq_range']
  unfold ofFlows
  rw [List.map_map, ← hnumbers, List.map_map]
  rfl

/-- A part of the impacts that does not depend on their numbers is found flow by flow. -/
theorem map_ofFlows {β : Type} {part : ImpactFlow → β} {f : DataFlow → β}
    (h : ∀ flow id, part (flow.impactIn scope id) = f flow) (flows : List DataFlow) :
    (ofFlows flows scope).map part = flows.map f := by
  unfold ofFlows
  rw [List.map_map, ← List.zipIdx_map_fst 0 flows, List.map_map, List.zipIdx_map_fst]
  exact List.map_congr_left fun entry _ => h entry.1 _

theorem exists_isOn_of_mem_ofFlows {impact : ImpactFlow} (h : impact ∈ ofFlows flows scope) :
    ∃ flow ∈ flows, impact.IsOn flow := by
  obtain ⟨⟨flow, i⟩, hentry, rfl⟩ := List.mem_map.mp h
  exact ⟨flow, List.fst_mem_of_mem_zipIdx hentry, rfl⟩

/-- Impacts are on the same flow if their flows agree. -/
theorem sameFlow_impactIn (a b : DataFlow) (i j : String) :
    (a.impactIn scope i).sameFlow (b.impactIn scope j) = a.agrees b := by
  unfold sameFlow DataFlow.agrees DataFlow.impactIn DataFlow.impactAt
  simp only [Tag.known.injEq]

/-- No two impacts are on the same flow if no two flows agree. -/
theorem ofFlows_pairwise (h : flows.Pairwise fun a b => a.agrees b = false) :
    (ofFlows flows scope).Pairwise fun a b => a.sameFlow b = false := by
  have hnumbered : flows.zipIdx.Pairwise fun a b => a.1.agrees b.1 = false := by
    rw [← List.zipIdx_map_fst 0 flows] at h
    exact List.pairwise_map.mp h
  refine List.pairwise_map.mpr (hnumbered.imp ?_)
  intro a b hne
  rw [sameFlow_impactIn]
  exact hne

end ImpactFlow

/-- The edge shows the flow. -/
structure FlowEdge.Shows (edge : FlowEdge) (flow : ImpactFlow) : Prop where
  id : edge.id = flow.id
  source : edge.source = flow.source
  target : edge.target = flow.target
  flowType : edge.flowType = flow.flowType
  strength : edge.strength = flow.strength
  level : edge.level = some flow.level

/-- The graph of some flows has one edge for each of them, in their order. -/
theorem FlowGraph.ofFlows_edges (flows : List DataFlow) (scope : Scope) :
    List.Forall₂ FlowEdge.Shows
      (FlowGraph.ofFlows (ImpactFlow.ofFlows flows scope) scope).edges
      (ImpactFlow.ofFlows flows scope) := by
  unfold FlowGraph.ofFlows
  dsimp only
  rw [List.forall₂_map_left_iff]
  refine List.forall₂_same.mpr fun impact himpact => ?_
  obtain ⟨⟨flow, i⟩, -, rfl⟩ := List.mem_map.mp himpact
  -- the level of a flow of a project is always a member of its enumeration
  exact ⟨rfl, rfl, rfl, rfl, rfl, rfl⟩

/-! ## Counting -/

/-- The record counts something under names, and all counts together are `n`. -/
def AddsUpTo (n : Nat) (counts : Json) : Prop :=
  ∃ parts : List (String × Nat),
    counts = .obj (parts.map fun part => (part.1, .int part.2)) ∧ (parts.map Prod.snd).sum = n

/-- If every member is listed once, the numbers of occurrences of the members add up. -/
theorem sum_count {α : Type} [DecidableEq α] {members : List α} (h : ∀ a, members.count a = 1)
    (as : List α) : (members.map as.count).sum = as.length := by
  induction as with
  | nil => simp
  | cons a as ih =>
    have hcount : ∀ members : List α, (members.map (a :: as).count).sum =
        (members.map as.count).sum + members.count a := by
      intro members
      induction members with
      | nil => rfl
      | cons b members ih =>
        rw [List.map_cons, List.sum_cons, ih, List.map_cons, List.sum_cons, List.count_cons,
          List.count_cons, BEq.comm (a := b)]
        omega
    rw [hcount, ih, h, List.length_cons]

theorem Tag.tally_addsUpTo {α : Type} [Vocabulary α] [DecidableEq α]
    (h : ∀ a : α, (Vocabulary.all (α := α)).count a = 1) (as : List α) :
    AddsUpTo as.length (Tag.tally (as.map Tag.known)) := by
  refine ⟨Vocabulary.all.map fun a => (Vocabulary.name a, as.count a), ?_, ?_⟩
  · unfold Tag.tally
    rw [List.map_map]
    refine congrArg Json.obj (List.map_congr_left fun a _ => ?_)
    rw [List.count_map_of_injective as Tag.known fun _ _ => Tag.known.inj]
    rfl
  · rw [List.map_map]
    exact sum_count h as

namespace ImpactFlow

/-- Every breakdown of the counts accounts for every flow. -/
theorem statistics_addsUp (flows : List DataFlow) (scope : Scope) {group : String}
    (h : group ∈ ["by_strength", "by_impact_level", "by_flow_type"]) :
    AddsUpTo flows.length ((statistics (ofFlows flows scope)).get group) := by
  -- every flow of the graph has a word for each group, that of the flow it is made from
  have hstrength : (ofFlows flows scope).map strength =
      (flows.map DataFlow.strength).map Tag.known := by
    rw [List.map_map]
    exact map_ofFlows (fun _ _ => rfl) flows
  have hlevel : (ofFlows flows scope).map level =
      (flows.map fun flow => flow.levelIn scope).map Tag.known := by
    rw [List.map_map]
    exact map_ofFlows (fun _ _ => rfl) flows
  have htype : (ofFlows flows scope).map flowType = (flows.map DataFlow.flowType).map Tag.known := by
    rw [List.map_map]
    exact map_ofFlows (fun _ _ => rfl) flows
  simp only [List.mem_cons, List.not_mem_nil, or_false] at h
  rcases h with rfl | rfl | rfl
  · show AddsUpTo flows.length (Tag.tally ((ofFlows flows scope).map strength))
    rw [hstrength, ← List.length_map DataFlow.strength]
    exact Tag.tally_addsUpTo (fun a => by cases a <;> decide) _
  · show AddsUpTo flows.length (Tag.tally ((ofFlows flows scope).map level))
    rw [hlevel, ← List.length_map fun flow => flow.levelIn scope]
    exact Tag.tally_addsUpTo (fun a => by cases a <;> decide) _
  · show AddsUpTo flows.length (Tag.tally ((ofFlows flows scope).map flowType))
    rw [htype, ← List.length_map DataFlow.flowType]
    exact Tag.tally_addsUpTo (fun a => by cases a <;> decide) _

end ImpactFlow

/-! ## Checklists -/

/-- What an entry refers to is there: its risk, its flow, which needs validation, and its module, which
is one of the change or depends directly on one. -/
structure CheckItem.Refers (item : CheckItem) (scope : Scope) (flows : List ImpactFlow)
    (risks : List Risk) : Prop where
  risk : item.riskId ≠ .null → ∃ risk ∈ risks, risk.id = item.riskId
  flow : item.flowId ≠ .null →
    ∃ flow ∈ flows, flow.validationRequired = true ∧ flow.id = item.flowId
  module : item.moduleId ≠ .null → item.moduleId ∈ scope.primaryModules ∨
    ∃ m ∈ scope.dependentModules, m.level = .known .direct ∧ m.moduleId = item.moduleId

namespace Checklist

variable {settings : CheckSettings} {scope : Scope} {flows : List ImpactFlow} {risks : List Risk}
  {item : CheckItem}

/-- The entry for a risk refers to the risk alone. -/
theorem riskItem_ids (settings : CheckSettings) (risk : Risk) :
    (riskItem settings risk).riskId = risk.id ∧ (riskItem settings risk).flowId = .null ∧
      (riskItem settings risk).moduleId = .null := by
  have hcheck : (riskCheck risk).flowId = .null ∧ (riskCheck risk).moduleId = .null := by
    unfold riskCheck
    cases risk.category <;> exact ⟨rfl, rfl⟩
  unfold riskItem
  dsimp only
  split
  · exact ⟨rfl, hcheck⟩
  · exact ⟨rfl, hcheck⟩

theorem refers_riskItems (h : item ∈ riskItems settings risks) : item.Refers scope flows risks := by
  obtain ⟨risk, hrisk, rfl⟩ := List.mem_map.mp h
  obtain ⟨hid, hflow, hmodule⟩ := riskItem_ids settings risk
  exact ⟨fun _ => ⟨risk, hrisk, hid.symm⟩, fun hne => absurd hflow hne,
    fun hne => absurd hmodule hne⟩

theorem refers_moduleItems (h : item ∈ moduleItems settings scope) :
    item.Refers scope flows risks := by
  unfold moduleItems at h
  rcases List.mem_append.mp h with hprimary | hdependent
  · obtain ⟨id, hid, rfl⟩ := List.mem_map.mp hprimary
    exact ⟨fun hne => absurd rfl hne, fun hne => absurd rfl hne,
      fun _ => Or.inl ((eraseDupsBy_sublist _ _).subset hid)⟩
  · obtain ⟨m, hm, rfl⟩ := List.mem_map.mp hdependent
    obtain ⟨hmem, hdirect⟩ := List.mem_filter.mp (of_mem_untested hm).1
    exact ⟨fun hne => absurd rfl hne, fun hne => absurd rfl hne,
      fun _ => Or.inr ⟨m, hmem, of_decide_eq_true hdirect, rfl⟩⟩

theorem refers_flowItems (h : item ∈ flowItems flows) : item.Refers scope flows risks := by
  obtain ⟨flow, hflow, rfl⟩ := List.mem_map.mp h
  obtain ⟨hmem, hneeds⟩ := List.mem_filter.mp hflow
  exact ⟨fun hne => absurd rfl hne, fun _ => ⟨flow, hmem, hneeds, rfl⟩, fun hne => absurd rfl hne⟩

/-- The entries for API files refer to nothing. -/
theorem refers_apiItems (h : item ∈ apiItems settings scope) : item.Refers scope flows risks := by
  have hnone : item.riskId = .null ∧ item.flowId = .null ∧ item.moduleId = .null := by
    unfold apiItems at h
    split at h
    next => cases h
    next =>
      rcases List.mem_cons.mp h with rfl | h
      · exact ⟨rfl, rfl, rfl⟩
      · obtain rfl := List.mem_singleton.mp h
        exact ⟨rfl, rfl, rfl⟩
  exact ⟨fun hne => absurd hnone.1 hne, fun hne => absurd hnone.2.1 hne,
    fun hne => absurd hnone.2.2 hne⟩

theorem refers_sections (h : item ∈ sections settings scope flows risks) :
    item.Refers scope flows risks := by
  unfold sections at h
  rcases List.mem_append.mp h with h | hapi
  · rcases List.mem_append.mp h with h | hflow
    · rcases List.mem_append.mp h with hrisk | hmodule
      · exact refers_riskItems hrisk
      · split at hmodule
        · exact refers_moduleItems hmodule
        · cases hmodule
    · split at hflow
      · exact refers_flowItems hflow
      · cases hflow
  · split at hapi
    · exact refers_apiItems hapi
    · cases hapi

/-- Merging leads no reference astray. -/
theorem refers_generate (h : item ∈ generate settings scope flows risks) :
    item.Refers scope flows risks := by
  obtain ⟨chosen, hlongest, hitem⟩ := exists_isLongest_of_mem_generate h
  have hrefers : chosen.Refers scope flows risks := refers_sections hlongest.mem
  rw [hitem]
  exact ⟨hrefers.risk, hrefers.flow, hrefers.module⟩

end Checklist

/-! ## Reports -/

namespace Report

theorem candidateFlows_pairwise (sources : Sources) (catalog : Option Knowledge) (scope : Scope) :
    (candidateFlows sources catalog scope).Pairwise fun a b => a.agrees b = false := by
  refine (eraseDupsBy_pairwise DataFlow.agrees _).imp ?_
  intro a b hne
  rw [Bool.eq_false_iff] at hne ⊢
  exact fun h => hne ((DataFlow.agrees_iff b a).mpr ((DataFlow.agrees_iff a b).mp h).symm)

/-- The flows to look at are flows of the catalog, or of the project without one. -/
theorem known_of_mem_candidateFlows {sources : Sources} {catalog : Option Knowledge} {scope : Scope}
    {flow : DataFlow} (h : flow ∈ candidateFlows sources catalog scope) :
    ∃ k, catalog.or sources.flows = some k ∧ flow ∈ k.flows := by
  have hmem := (eraseDupsBy_sublist _ _).subset h
  split at hmem
  next k => exact ⟨k, rfl, hmem⟩
  next k hflows =>
    obtain ⟨entity, -, hflow⟩ := List.mem_flatMap.mp hmem
    exact ⟨k, hflows, (List.mem_filter.mp hflow).1⟩
  next => cases hmem

/-- The parts of the report fit together, and its flows are those of the project. -/
structure Consistent (report : Report) (known : Option Knowledge) : Prop where
  numbered : report.flows.map ImpactFlow.id =
    (List.range report.flows.length).map fun i => .str s!"flow-{i}"
  edges : List.Forall₂ FlowEdge.Shows report.graph.edges report.flows
  breakdowns : ∀ group ∈ ["by_strength", "by_impact_level", "by_flow_type"],
    AddsUpTo report.flows.length ((ImpactFlow.statistics report.flows).get group)
  validations : (ImpactFlow.statistics report.flows).get "requires_validation" =
    .int report.validationFlows.length
  checklist : ∀ item ∈ report.checklist, item.Refers report.scope report.flows report.risks
  from_project : ∀ impact ∈ report.flows, ∃ k, known = some k ∧ ∃ flow ∈ k.flows, impact.IsOn flow
  different : report.flows.Pairwise fun a b => a.sameFlow b = false
  modules_apart : ∀ m ∈ report.scope.dependentModules,
    report.scope.primaryModules.contains m.moduleId = false
  files_apart : ∀ f ∈ report.scope.affectedFiles,
    report.scope.primaryFiles.contains f.filePath = false

theorem analyze_consistent (sources : Sources) (catalog : Option Knowledge) (reach : Reach)
    (settings : CheckSettings) (change : Change) (parsed : Parsed) :
    (analyze sources catalog reach settings change parsed).Consistent
      (catalog.or sources.flows) := by
  generalize hscope : Scope.detect sources reach change parsed = scope
  have hflows : (analyze sources catalog reach settings change parsed).flows =
      ImpactFlow.ofFlows (candidateFlows sources catalog scope) scope := by
    rw [← hscope]
    rfl
  have hlength : (ImpactFlow.ofFlows (candidateFlows sources catalog scope) scope).length =
      (candidateFlows sources catalog scope).length := by
    unfold ImpactFlow.ofFlows
    rw [List.length_map, List.length_zipIdx]
  -- one part after the other, in the order of the fields of `Consistent`
  refine ⟨?_, ?_, ?_, ?_, ?_, ?_, ?_, ?_, ?_⟩
  · rw [hflows, hlength]
    exact ImpactFlow.ids_ofFlows _ scope
  · exact FlowGraph.ofFlows_edges _ _
  · intro group hgroup
    rw [hflows, hlength]
    exact ImpactFlow.statistics_addsUp _ scope hgroup
  · unfold validationFlows
    rw [List.length_map, ← List.countP_eq_length_filter]
    rfl
  · exact fun item hitem => Checklist.refers_generate hitem
  · intro impact himpact
    rw [hflows] at himpact
    obtain ⟨flow, hflow, hon⟩ := ImpactFlow.exists_isOn_of_mem_ofFlows himpact
    obtain ⟨k, hknown, hmem⟩ := known_of_mem_candidateFlows hflow
    exact ⟨k, hknown, flow, hmem, hon⟩
  · rw [hflows]
    exact ImpactFlow.ofFlows_pairwise (candidateFlows_pairwise sources catalog scope)
  · exact fun m hm => Expansion.not_primary_of_mem_dependentModules hm
  · exact fun f hf => Expansion.not_primary_of_mem_affectedFiles hf

/-- **Reports are consistent.** Whatever the request, the project and the settings are, the parts of a
report that is given fit together. -/
theorem analyzeChecked_consistent {sources : Sources} {catalog : Option Knowledge}
    {reach : Checked Reach} {settings : CheckSettings} {change parsed : Json} {report : Report}
    (h : analyzeChecked sources catalog reach settings change parsed = .ok report) :
    report.Consistent (catalog.or sources.flows) := by
  obtain ⟨r, -, rfl⟩ := eq_analyze_of_analyzeChecked h
  exact analyze_consistent sources catalog r settings (.ofRecord change) (.ofRecord parsed)

/-- A project with a flow that is listed twice and one that no change of its orders touches. -/
def mill : Knowledge where
  modules := [⟨"orders", "Orders", .arr []⟩, ⟨"billing", "Billing", .arr []⟩,
    ⟨"audit", "Audit", .arr []⟩]
  links := [⟨"billing", "orders", "uses"⟩, ⟨"audit", "billing", "calls"⟩]
  specs := []
  specDependencies := []
  imports := [("orders.py", ["tables.py"])]
  flows := [⟨"orders", "audit", ["Order"], .write, .critical, ["creates"]⟩,
    ⟨"orders", "audit", ["Order"], .write, .critical, ["creates"]⟩,
    ⟨"mail", "archive", [], .read, .optional, []⟩]

/-- A request to change the orders of the mill. -/
def millChange : Json := .obj
  [("description", "split the orders"), ("target_modules", .arr ["orders"]),
    ("target_files", .arr ["orders.py"]), ("spec_id", .null), ("change_type", .null)]

/-- What its text says. -/
def millParsed : Json := .obj
  [("entities", .arr ["Order"]), ("operations", .arr []), ("keywords", .arr []),
    ("change_type", "refactor"), ("confidence", .float .nought)]

theorem analyzeChecked_consistent_mill : ∃ report,
    analyzeChecked (.all mill) (some mill) (.ok .standard) .standard millChange millParsed =
      .ok report ∧
    report.flows.map ImpactFlow.id = [.str "flow-0", .str "flow-1"] ∧
    report.validationFlows = [.str "flow-0"] ∧
    report.Consistent (some mill) := by
  have hfacts : (analyzeChecked (.all mill) (some mill) (.ok .standard) .standard millChange
      millParsed).toOption.map (fun report => (report.flows.map ImpactFlow.id,
        report.validationFlows)) = some ([.str "flow-0", .str "flow-1"], [.str "flow-0"]) := by
    decide +kernel
  cases hreport : analyzeChecked (.all mill) (some mill) (.ok .standard) .standard millChange
      millParsed with
  | error fault =>
    rw [hreport] at hfacts
    cases hfacts
  | ok report =>
    rw [hreport] at hfacts
    obtain ⟨hids, hneeded⟩ := Prod.mk.inj (Option.some.inj hfacts)
    exact ⟨report, rfl, hids, hneeded, analyzeChecked_consistent hreport⟩

end Report

end ChangeImpact

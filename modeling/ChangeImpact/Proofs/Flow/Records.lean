import ChangeImpact.Proofs.Flow.Graph
import ChangeImpact.Proofs.Record

/-!
# Graphs and counts from records

Flows and scopes that come as records are drawn and counted if their parts are what they should be:
ids, entities and relationships texts, and words members of their enumerations. Nothing else is asked
of the records, and the order of the flows matters neither to the counts nor to which nodes there are
and are affected.

> `ofRecords_describes`: such records are drawn and counted, the graph is that of its flows, and the
> records in any other order have a graph with the same ids, the same of them affected, the same
> counts and the same statistics.
-/

namespace ChangeImpact

/-! ## Records whose parts are what they should be -/

/-- The value names a member of an enumeration. -/
def Vocabulary.IsWord (α : Type) [Vocabulary α] (value : Json) : Prop :=
  ∃ a : α, Vocabulary.ofJson? value = some a

/-- The record is one of a flow with its impact. -/
structure ImpactFlow.IsRegular (record : Json) : Prop where
  source : (record.get "source").IsText
  target : (record.get "target").IsText
  entities : (record.get "entities").IsTexts
  relationships : (record.get "relationships").IsTexts
  flowType : Vocabulary.IsWord FlowType (record.get "flow_type")
  strength : Vocabulary.IsWord Strength (record.get "strength")
  level : Vocabulary.IsWord ImpactLevel (record.get "impact_level")
  tests : ∃ tests, record.get "suggested_tests" = .arr tests

/-- The record is one of a dependent module. -/
structure ScopedModule.IsRegular (record : Json) : Prop where
  id : (record.get "module_id").IsText
  level : Vocabulary.IsWord ImpactLevel (record.get "impact_level")

/-- The record is one of a scope, as far as flows are concerned. -/
structure Scope.IsRegular (record : Json) : Prop where
  primary : (record.get "primary_modules").IsTexts
  dependent : ∃ parts, record.get "dependent_modules" = .arr parts ∧
    ∀ part ∈ parts, ScopedModule.IsRegular part
  entities : (record.get "affected_entities").IsTexts

/-- A word of a vocabulary is read as its member. -/
theorem Tag.ofJson_known {α : Type} [Vocabulary α] {value : Json} (h : Vocabulary.IsWord α value) :
    ∃ a : α, Tag.ofJson value = .known a := by
  obtain ⟨a, ha⟩ := h
  refine ⟨a, ?_⟩
  unfold Tag.ofJson
  rw [ha]

/-- What is read from a word is written as a text. -/
theorem Tag.toJson_isText {α : Type} [Vocabulary α] {value : Json} (h : Vocabulary.IsWord α value) :
    (Tag.ofJson value : Tag α).toJson.IsText := by
  obtain ⟨a, ha⟩ := Tag.ofJson_known h
  rw [ha]
  exact ⟨Vocabulary.name a, rfl⟩

namespace ImpactFlow

variable {record : Json}

/-- The flow of a regular record is proper. -/
theorem IsRegular.isProper (h : IsRegular record) : (ofRecord record).IsProper where
  source := h.source
  target := h.target
  entities := h.entities.itemsAt
  level := Tag.ofJson_known h.level

/-- The words of a regular record are counted. -/
theorem IsRegular.needKnown (h : IsRegular record) : (ofRecord record).strength.needKnown = .ok () ∧
    (ofRecord record).level.needKnown = .ok () ∧ (ofRecord record).flowType.needKnown = .ok () := by
  obtain ⟨strength, hstrength⟩ := Tag.ofJson_known h.strength
  obtain ⟨level, hlevel⟩ := Tag.ofJson_known h.level
  obtain ⟨flowType, htype⟩ := Tag.ofJson_known h.flowType
  have heqs : (ofRecord record).strength = .known strength ∧ (ofRecord record).level = .known level ∧
      (ofRecord record).flowType = .known flowType := ⟨hstrength, hlevel, htype⟩
  rw [heqs.1, heqs.2.1, heqs.2.2]
  exact ⟨rfl, rfl, rfl⟩

/-- Of regular records the statistics are those of their flows. -/
theorem statisticsOfRecords_eq {flows : List Json} (h : ∀ record ∈ flows, IsRegular record) :
    statisticsOfRecords flows = .ok (statistics (flows.map ofRecord)) := by
  refine Checked.bind_eq_ok.mpr ⟨(), Checked.forM_eq_ok.mpr fun record hrecord => ?_, rfl⟩
  obtain ⟨hstrength, hlevel, htype⟩ := (h record hrecord).needKnown
  obtain ⟨tests, htests⟩ := (h record hrecord).tests
  dsimp only
  rw [hstrength, hlevel, htype, Json.needItems_arr htests]
  rfl

end ImpactFlow

/-- The scope of a regular record is proper. -/
theorem Scope.IsRegular.isProper {record : Json} (h : Scope.IsRegular record) :
    (Scope.ofRecord record).IsProper := by
  obtain ⟨parts, hparts, hregular⟩ := h.dependent
  intro m hm
  obtain ⟨part, hpart, rfl⟩ := List.mem_map.mp hm
  rw [Json.itemsAt_arr hparts] at hpart
  exact ⟨(hregular part hpart).id, Tag.ofJson_known (hregular part hpart).level⟩

/-! ## Drawing records -/

namespace FlowGraph

variable {flows : List Json} {scope : Json}

/-- The lists of regular records can be read. -/
theorem checkLists_ok (hflows : ∀ record ∈ flows, ImpactFlow.IsRegular record)
    (hscope : Scope.IsRegular scope) : checkLists flows scope = .ok () := by
  obtain ⟨primary, hprimary⟩ := hscope.primary.needItems
  obtain ⟨parts, hparts, -⟩ := hscope.dependent
  obtain ⟨entities, hentities⟩ := hscope.entities.needItems
  have hscopes : ∀ name ∈ ["primary_modules", "dependent_modules", "affected_entities"],
      ∃ items, scope.needItems name = .ok items :=
    List.forall_mem_cons.mpr ⟨⟨_, hprimary⟩, List.forall_mem_cons.mpr
      ⟨⟨_, Json.needItems_arr hparts⟩, List.forall_mem_singleton.mpr ⟨_, hentities⟩⟩⟩
  refine Checked.bind_eq_ok.mpr ⟨⟨⟩, Checked.forIn_eq_ok fun name hname => ?_, ?_⟩
  · obtain ⟨items, hitems⟩ := hscopes name hname
    rw [hitems]
    rfl
  · refine Checked.bind_eq_ok.mpr ⟨⟨⟩, Checked.forIn_eq_ok fun record hrecord => ?_, rfl⟩
    obtain ⟨entities, hentities⟩ := (hflows record hrecord).entities.needItems
    obtain ⟨relationships, hrelationships⟩ := (hflows record hrecord).relationships.needItems
    rw [hentities, hrelationships]
    rfl

/-- Nothing in regular records stands in the way of a graph. -/
theorem check_ok (hflows : ∀ record ∈ flows, ImpactFlow.IsRegular record)
    (hscope : Scope.IsRegular scope) :
    check (flows.map ImpactFlow.ofRecord) (.ofRecord scope) = .ok () := by
  have hdependent : ∀ id ∈ (Scope.ofRecord scope).dependentModules.map ScopedModule.moduleId,
      id.IsText := by
    intro id hid
    obtain ⟨m, hm, rfl⟩ := List.mem_map.mp hid
    exact (hscope.isProper m hm).1
  refine Checked.bind_eq_ok.mpr ⟨(), Json.needKeys_texts hscope.primary.itemsAt, ?_⟩
  refine Checked.bind_eq_ok.mpr ⟨(), Json.needKeys_texts hdependent, ?_⟩
  refine Checked.bind_eq_ok.mpr ⟨(), Json.needKeys_texts hscope.entities.itemsAt, ?_⟩
  refine Checked.forM_eq_ok.mpr fun flow hflow => ?_
  obtain ⟨record, hrecord, rfl⟩ := List.mem_map.mp hflow
  have hregular := hflows record hrecord
  have hends : ∀ id ∈ [(ImpactFlow.ofRecord record).source, (ImpactFlow.ofRecord record).target,
      (ImpactFlow.ofRecord record).strength.toJson, (ImpactFlow.ofRecord record).level.toJson],
      id.IsText :=
    List.forall_mem_cons.mpr ⟨hregular.source, List.forall_mem_cons.mpr ⟨hregular.target,
      List.forall_mem_cons.mpr ⟨Tag.toJson_isText hregular.strength,
        List.forall_mem_singleton.mpr (Tag.toJson_isText hregular.level)⟩⟩⟩
  refine Checked.bind_eq_ok.mpr ⟨(), Json.needKeys_texts hends, ?_⟩
  refine Checked.bind_eq_ok.mpr ⟨(), Json.needKeys_texts hregular.entities.itemsAt, ?_⟩
  exact Json.needTexts_texts hregular.relationships.itemsAt _

/-- The graph of regular records is that of their flows in their scope. -/
theorem ofRecords_eq (hflows : ∀ record ∈ flows, ImpactFlow.IsRegular record)
    (hscope : Scope.IsRegular scope) :
    ofRecords flows scope = .ok (ofFlows (flows.map ImpactFlow.ofRecord) (.ofRecord scope)) := by
  unfold ofRecords
  rw [checkLists_ok hflows hscope, Checked.ok_bind]
  dsimp only
  rw [check_ok hflows hscope]
  rfl

/-- Two graphs have the same ids, of which the same are affected, and the same counts. -/
structure Agrees (graph other : FlowGraph) : Prop where
  marks : (other.nodes.map fun node => (node.id, node.isAffected)).Perm
    (graph.nodes.map fun node => (node.id, node.isAffected))
  metadata : other.metadata = graph.metadata

/-- **Graphs and counts do not depend on the order of the flows.** Regular records of flows and of a
scope are drawn and counted; the graph is that of its flows; and the records in any other order have a
graph that agrees with it, and the same statistics. -/
theorem ofRecords_describes (hflows : ∀ record ∈ flows, ImpactFlow.IsRegular record)
    (hscope : Scope.IsRegular scope) :
    ∃ graph statistics, ofRecords flows scope = .ok graph ∧
      ImpactFlow.statisticsOfRecords flows = .ok statistics ∧
      graph.Describes (flows.map ImpactFlow.ofRecord) (.ofRecord scope) ∧
      ∀ others, flows.Perm others → ∃ other, ofRecords others scope = .ok other ∧
        graph.Agrees other ∧ ImpactFlow.statisticsOfRecords others = .ok statistics := by
  have hproper : ∀ flow ∈ flows.map ImpactFlow.ofRecord, flow.IsProper := by
    intro flow hflow
    obtain ⟨record, hrecord, rfl⟩ := List.mem_map.mp hflow
    exact (hflows record hrecord).isProper
  refine ⟨_, _, ofRecords_eq hflows hscope, ImpactFlow.statisticsOfRecords_eq hflows,
    ofFlows_describes hscope.isProper hproper, fun others hperm => ?_⟩
  have hothers : ∀ record ∈ others, ImpactFlow.IsRegular record := fun record hrecord =>
    hflows record (hperm.mem_iff.mpr hrecord)
  have hmapped := hperm.map ImpactFlow.ofRecord
  refine ⟨_, ofRecords_eq hothers hscope, ⟨marks_perm hscope.isProper hproper hmapped,
    ofFlows_metadata hscope.isProper hproper hmapped⟩, ?_⟩
  rw [ImpactFlow.statisticsOfRecords_eq hothers, ImpactFlow.statistics_perm hmapped]

/-- The record of a flow that creates something. -/
def creation (source target : String) (entities : List Json) (level : ImpactLevel) : Json := .obj
  [("id", "flow"), ("source", source), ("target", target), ("entities", .arr entities),
    ("flow_type", "write"), ("strength", "critical"), ("relationships", .arr ["creates"]),
    ("impact_level", Vocabulary.toJson level), ("affected_operations", .arr []),
    ("validation_required", .bool true), ("suggested_tests", .arr ["count them"])]

/-- The flows of the example below are regular. -/
theorem creation_isRegular (source target : String) {entities : List Json}
    (h : ∀ id ∈ entities, id.IsText) (level : ImpactLevel) :
    ImpactFlow.IsRegular (creation source target entities level) where
  source := ⟨source, rfl⟩
  target := ⟨target, rfl⟩
  entities := ⟨entities, rfl, h⟩
  relationships := ⟨["creates"], rfl, List.forall_mem_singleton.mpr ⟨"creates", rfl⟩⟩
  flowType := ⟨.write, show Vocabulary.ofJson? (.str "write") = some FlowType.write by decide⟩
  strength := ⟨.critical,
    show Vocabulary.ofJson? (.str "critical") = some Strength.critical by decide⟩
  level := ⟨level,
    show Vocabulary.ofJson? (Vocabulary.toJson level) = some level by cases level <;> decide⟩
  tests := ⟨["count them"], rfl⟩

/-- A module of the change, one that depends on it, and an entity with the name of a module. -/
def workshop : Json := .obj
  [("primary_modules", .arr ["orders"]), ("primary_files", .arr []),
    ("dependent_modules", .arr [.obj [("module_id", "billing"), ("module_name", "Billing"),
      ("impact_level", "indirect"), ("dependency_path", .arr ["orders"]), ("reason", "")]]),
    ("affected_files", .arr []), ("affected_entities", .arr ["Order", "audit"]),
    ("expansion_depth", .int 1)]

/-- Ids that are modules of one flow and entities of another. -/
def handover : List Json :=
  [creation "audit" "stock" ["Item", "orders"] .cascade,
    creation "orders" "billing" ["Order", "stock"] .direct]

theorem ofRecords_describes_handover :
    (∀ record ∈ handover, ImpactFlow.IsRegular record) ∧ Scope.IsRegular workshop ∧
      handover.Perm handover.reverse ∧
      ((ofRecords handover workshop).toOption.map fun graph =>
        graph.nodes.map fun node => (node.id, node.kind, node.isAffected)) =
        some [(.str "audit", .module, true), (.str "stock", .module, false),
          (.str "Item", .entity, false), (.str "orders", .entity, true),
          (.str "billing", .module, true), (.str "Order", .entity, true)] ∧
      ((ofRecords handover.reverse workshop).toOption.map fun graph =>
        graph.nodes.map fun node => (node.id, node.kind, node.isAffected)) =
        some [(.str "orders", .module, true), (.str "billing", .module, true),
          (.str "Order", .entity, true), (.str "stock", .entity, false),
          (.str "audit", .module, true), (.str "Item", .entity, false)] ∧
      ∃ graph statistics, ofRecords handover workshop = .ok graph ∧
        ImpactFlow.statisticsOfRecords handover = .ok statistics ∧
        graph.Describes (handover.map ImpactFlow.ofRecord) (.ofRecord workshop) ∧
        ∃ other, ofRecords handover.reverse workshop = .ok other ∧ graph.Agrees other ∧
          ImpactFlow.statisticsOfRecords handover.reverse = .ok statistics := by
  have htexts : ∀ s t : String, ∀ id ∈ ([s, t] : List Json), id.IsText := fun s t =>
    List.forall_mem_cons.mpr ⟨⟨s, rfl⟩, List.forall_mem_singleton.mpr ⟨t, rfl⟩⟩
  have hflows : ∀ record ∈ handover, ImpactFlow.IsRegular record :=
    List.forall_mem_cons.mpr ⟨creation_isRegular _ _ (htexts _ _) _,
      List.forall_mem_singleton.mpr (creation_isRegular _ _ (htexts _ _) _)⟩
  have hscope : Scope.IsRegular workshop :=
    ⟨⟨_, rfl, List.forall_mem_singleton.mpr ⟨_, rfl⟩⟩,
      ⟨_, rfl, List.forall_mem_singleton.mpr ⟨⟨_, rfl⟩, .indirect, by decide⟩⟩,
      ⟨_, rfl, htexts "Order" "audit"⟩⟩
  obtain ⟨graph, statistics, hgraph, hstatistics, hdescribes, hothers⟩ :=
    ofRecords_describes hflows hscope
  have hperm : handover.Perm handover.reverse := (List.reverse_perm _).symm
  exact ⟨hflows, hscope, hperm, by decide +kernel, by decide +kernel, graph, statistics, hgraph,
    hstatistics, hdescribes, hothers _ hperm⟩

end FlowGraph

end ChangeImpact

import ChangeImpact.Flow.Criticality
import ChangeImpact.Proofs.Checklist.Merging
import ChangeImpact.Report

/-!
# Reports on wider scopes

A report is made in five stages, each of which looks at some of what the stages before have found.
`Scope.Widens` says what they look at in a scope, and

> `ofScope_grows`: a report on a wider scope, and on more flows, finds all that the other one finds.

Flows only come closer, because sharing an entity and touching a dependent module are the only parts
of their level that depend on how wide a scope is. Rules look at flows and at how much is in the
scope, and the one that looks for something missing looks at keywords. What an entry of the checklist
says depends on the rule, module or flow alone; merging entries is `Covers`.
-/

namespace ChangeImpact

/-- All that is looked at in the scope is found in the other one: it has the same primary modules and
files, and of everything else at least as much. -/
structure Scope.Widens (scope wider : Scope) : Prop where
  primaryModules : scope.primaryModules = wider.primaryModules
  primaryFiles : scope.primaryFiles = wider.primaryFiles
  modules : ∀ m ∈ scope.dependentModules,
    ∃ other ∈ wider.dependentModules, other.moduleId = m.moduleId
  moreModules : scope.dependentModules.length ≤ wider.dependentModules.length
  moreFiles : scope.affectedFiles.length ≤ wider.affectedFiles.length
  tested : ∀ m ∈ Checklist.directDependents scope,
    ∃ other ∈ Checklist.directDependents wider, other.moduleName = m.moduleName
  close : Checklist.closeFiles scope ⊆ Checklist.closeFiles wider
  entities : ∀ entity ∈ scope.affectedEntities, wider.affectedEntities.contains entity = true

/-! ## Flows -/

namespace DataFlow

variable {scope wider : Scope}

theorem sharesEntity_of_widens (h : scope.Widens wider) {flow : DataFlow}
    (hshares : flow.sharesEntity scope = true) : flow.sharesEntity wider = true := by
  unfold sharesEntity at hshares ⊢
  obtain ⟨entity, hentity, hscope⟩ := List.any_eq_true.mp hshares
  obtain ⟨other, hother, heq⟩ := List.contains_iff_exists_mem_beq.mp hscope
  obtain ⟨third, hthird, heq'⟩ := List.contains_iff_exists_mem_beq.mp (h.entities other hother)
  exact List.any_eq_true.mpr ⟨entity, hentity, List.contains_iff_exists_mem_beq.mpr
    ⟨third, hthird, BEq.trans heq heq'⟩⟩

theorem touchesPrimary_of_widens (h : scope.Widens wider) (flow : DataFlow) :
    flow.touchesPrimary scope = flow.touchesPrimary wider := by
  unfold touchesPrimary
  rw [h.primaryModules]

theorem touchesDependent_of_widens (h : scope.Widens wider) {flow : DataFlow}
    (htouches : flow.touchesDependent scope = true) : flow.touchesDependent wider = true := by
  unfold touchesDependent at htouches ⊢
  obtain ⟨m, hm, hends⟩ := List.any_eq_true.mp htouches
  obtain ⟨other, hother, hid⟩ := h.modules m hm
  exact List.any_eq_true.mpr ⟨other, hother, hid ▸ hends⟩

/-- Sharing an entity or touching a module only brings a flow closer. -/
theorem levelFor_mono {shares shares' dependent dependent' : Bool} (primary : Bool)
    (hshares : shares = true → shares' = true) (hdependent : dependent = true → dependent' = true) :
    ImpactFlow.levelWeight (.known (levelFor shares primary dependent)) ≤
      ImpactFlow.levelWeight (.known (levelFor shares' primary dependent')) := by
  revert hshares hdependent
  cases shares <;> cases shares' <;> cases primary <;> cases dependent <;> cases dependent' <;> decide

/-- A flow that is affected more closely needs validation as soon as one that is not. -/
theorem needsValidation_mono {flow : DataFlow} {level closer : ImpactLevel}
    (hlevel : ImpactFlow.levelWeight (.known level) ≤ ImpactFlow.levelWeight (.known closer))
    (hneeds : flow.needsValidation level = true) : flow.needsValidation closer = true := by
  unfold needsValidation at hneeds ⊢
  cases level <;> cases closer <;> simp_all [ImpactFlow.levelWeight]

end DataFlow

namespace ImpactFlow

/-- What is at least as close as something that is affected directly is affected directly. -/
theorem is_direct_of_le {level closer : Tag ImpactLevel} (h : levelWeight level ≤ levelWeight closer)
    (hdirect : level.is .direct = true) : closer.is .direct = true := by
  rw [of_decide_eq_true hdirect] at h
  cases closer with
  | known level =>
    revert h
    cases level <;> decide
  | other value => exact absurd h (by simp [levelWeight])

/-- The flow that an impact is on, in all its parts. -/
def flowOf (flow : ImpactFlow) :
    Name × Name × List Name × Tag FlowType × Tag Strength × List Name :=
  (flow.source, flow.target, flow.entities, flow.flowType, flow.strength, flow.relationships)

/-- The other impact is on the same flow, at least as close, and needs validation if this one
does. -/
structure Grows (flow more : ImpactFlow) : Prop where
  same : more.flowOf = flow.flowOf
  level : levelWeight flow.level ≤ levelWeight more.level
  validation : flow.validationRequired = true → more.validationRequired = true

variable {scope wider : Scope}

theorem impactIn_of_widens (h : scope.Widens wider) (flow : DataFlow) (id id' : String) :
    (flow.impactIn scope id).Grows (flow.impactIn wider id') := by
  have hlevel : levelWeight (.known (flow.levelIn scope)) ≤
      levelWeight (.known (flow.levelIn wider)) := by
    unfold DataFlow.levelIn
    rw [DataFlow.touchesPrimary_of_widens h]
    exact DataFlow.levelFor_mono _ (DataFlow.sharesEntity_of_widens h)
      (DataFlow.touchesDependent_of_widens h)
  exact ⟨rfl, hlevel, DataFlow.needsValidation_mono hlevel⟩

/-- Every flow of a scope is one of a wider scope, affected at least as closely. -/
theorem ofFlows_of_widens (h : scope.Widens wider) {flows more : List DataFlow}
    (hflows : flows ⊆ more) :
    ∀ flow ∈ ofFlows flows scope, ∃ grown ∈ ofFlows more wider, flow.Grows grown := by
  intro flow hflow
  obtain ⟨⟨dataFlow, i⟩, hmem, rfl⟩ := List.mem_map.mp hflow
  have hfound := hflows (List.mem_of_getElem? (List.mem_zipIdx_iff_getElem?.mp hmem))
  -- the flow may have another number among more flows
  obtain ⟨j, hj⟩ := List.mem_iff_getElem?.mp hfound
  have hnumbered : (dataFlow, j) ∈ more.zipIdx := List.mem_zipIdx_iff_getElem?.mpr hj
  exact ⟨_, List.mem_map_of_mem hnumbered, impactIn_of_widens h dataFlow _ _⟩

end ImpactFlow

/-! ## Risks -/

namespace RiskContext

/-- The other context is about the same change, in a wider scope, and every flow is at least as
affected there. -/
structure Widens (ctx more : RiskContext) : Prop where
  change : ctx.change = more.change
  parsed : ctx.parsed = more.parsed
  scope : ctx.scope.Widens more.scope
  flows : ∀ flow ∈ ctx.flows, ∃ grown ∈ more.flows, flow.Grows grown

variable {ctx more : RiskContext}

theorem Widens.changeType (h : ctx.Widens more) : ctx.changeType = more.changeType := by
  unfold RiskContext.changeType
  rw [h.change, h.parsed]

theorem Widens.hasOperation (h : ctx.Widens more) : ctx.hasOperation = more.hasOperation := by
  unfold RiskContext.hasOperation
  rw [h.parsed]

theorem Widens.hasKeyword (h : ctx.Widens more) : ctx.hasKeyword = more.hasKeyword := by
  unfold RiskContext.hasKeyword
  rw [h.parsed]

/-- A flow that is looked for and found stays, if what is looked for is kept by growing. -/
theorem Widens.any_flow (h : ctx.Widens more) {p : ImpactFlow → Bool}
    (hp : ∀ flow grown : ImpactFlow, flow.Grows grown → p flow = true → p grown = true)
    (hany : ctx.flows.any p = true) : more.flows.any p = true := by
  obtain ⟨flow, hflow, hfound⟩ := List.any_eq_true.mp hany
  obtain ⟨grown, hgrown, hgrows⟩ := h.flows flow hflow
  exact List.any_eq_true.mpr ⟨grown, hgrown, hp flow grown hgrows hfound⟩

end RiskContext

namespace BuiltInRule

variable {ctx more : RiskContext}

theorem is_critical_of_grows {flow grown : ImpactFlow} (h : flow.Grows grown)
    (hcritical : flow.strength.is .critical = true) : grown.strength.is .critical = true := by
  have hstrength : grown.strength = flow.strength := congrArg (fun parts => parts.2.2.2.2.1) h.same
  rw [hstrength]
  exact hcritical

theorem is_direct_of_grows {flow grown : ImpactFlow} (h : flow.Grows grown)
    (hdirect : flow.level.is .direct = true) : grown.level.is .direct = true :=
  ImpactFlow.is_direct_of_le h.level hdirect

/-- What has as many entries as something that is not empty is not empty. -/
theorem not_isEmpty_of_length_le {α : Type} {as bs : List α} (h : as.length ≤ bs.length)
    (ha : (!as.isEmpty) = true) : (!bs.isEmpty) = true := by
  cases bs with
  | nil => rw [List.eq_nil_of_length_eq_zero (Nat.le_zero.mp h)] at ha; exact ha
  | cons b bs => rfl

/-- **What a rule finds, it finds in a wider scope as well.** Only one condition has a negation in
it, about the keywords of the change, which no scope has a say in. -/
theorem applies_of_widens (h : ctx.Widens more) {r : BuiltInRule} (happ : r.applies ctx = true) :
    r.applies more = true := by
  unfold applies at happ ⊢
  cases r with
  | schemaChange =>
    dsimp only at happ ⊢
    rw [← h.changeType, ← h.hasOperation, ← h.hasKeyword, ← h.parsed]
    rw [Bool.or_eq_true, Bool.or_eq_true, Bool.and_eq_true] at happ ⊢
    refine happ.imp_left fun hleft => hleft.imp_left fun ⟨hflows, hoperation⟩ =>
      ⟨h.any_flow ?_ hflows, hoperation⟩
    intro flow grown hgrows hfound
    rw [Bool.and_eq_true] at hfound ⊢
    exact ⟨is_critical_of_grows hgrows hfound.1, hgrows.validation hfound.2⟩
  | breakingApiChange =>
    dsimp only at happ ⊢
    rw [← h.changeType, ← h.hasOperation, ← h.hasKeyword, ← h.scope.primaryFiles]
    exact happ
  | securitySensitive =>
    dsimp only at happ ⊢
    rw [← h.hasKeyword, ← h.parsed, ← h.scope.primaryFiles, ← h.scope.primaryModules]
    exact happ
  | crossModule =>
    dsimp only at happ ⊢
    have hlength := h.scope.moreModules
    rw [← h.scope.primaryModules]
    rw [decide_eq_true_eq] at happ ⊢
    omega
  | flowDisruption =>
    refine h.any_flow ?_ happ
    intro flow grown hgrows hfound
    rw [Bool.and_eq_true] at hfound ⊢
    exact ⟨is_critical_of_grows hgrows hfound.1, is_direct_of_grows hgrows hfound.2⟩
  | performance =>
    dsimp only at happ ⊢
    rw [← h.hasKeyword, ← h.parsed]
    rw [Bool.or_eq_true] at happ ⊢
    refine happ.imp_right fun hmany => ?_
    unfold manyFiles at hmany ⊢
    have hlength := h.scope.moreFiles
    rw [decide_eq_true_eq] at hmany ⊢
    omega
  | testCoverageGap =>
    -- the negation is about the change alone, which does not grow
    dsimp only at happ ⊢
    rw [← h.changeType, ← h.hasOperation, ← h.hasKeyword]
    exact happ
  | deletionWithDependents =>
    dsimp only at happ ⊢
    rw [← h.changeType, ← h.hasOperation]
    obtain ⟨hdeletes, hdependents⟩ := Bool.and_eq_true_iff.mp happ
    rw [Bool.or_eq_true] at hdependents
    refine Bool.and_eq_true_iff.mpr ⟨hdeletes, Bool.or_eq_true_iff.mpr ?_⟩
    refine hdependents.imp (fun hmodules => ?_) fun hfiles => ?_
    · exact not_isEmpty_of_length_le h.scope.moreModules hmodules
    · exact not_isEmpty_of_length_le h.scope.moreFiles hfiles

/-- The risks are those of the rules that find something. -/
theorem mem_risks {risk : Risk} :
    risk ∈ risks ctx ↔ ∃ r : BuiltInRule, r.applies ctx = true ∧ r.risk ctx = risk := by
  unfold risks Risk.sortBySeverity
  rw [List.mem_mergeSort, List.mem_map]
  constructor
  · intro hgiven
    obtain ⟨r, hr, hrisk⟩ := hgiven
    exact ⟨r, (List.mem_filter.mp hr).2, hrisk⟩
  · intro hgiven
    obtain ⟨r, happ, hrisk⟩ := hgiven
    refine ⟨r, List.mem_filter.mpr ⟨?_, happ⟩, hrisk⟩
    cases r <;> decide

end BuiltInRule

/-! ## Checklists -/

namespace Checklist

variable {ctx more : RiskContext} {settings : CheckSettings} {scope wider : Scope}

/-- What the entry for a risk says comes from its name, its category and whether it blocks. -/
theorem riskItem_agrees {a b : Risk} (hname : a.name = b.name) (hcategory : a.category = b.category)
    (hblocking : a.isBlocking = b.isBlocking) :
    mergeKey (riskItem settings a) = mergeKey (riskItem settings b) ∧
      (riskItem settings a).blocks = (riskItem settings b).blocks := by
  have hitem : ∀ risk : Risk, mergeKey (riskItem settings risk) = mergeKey (riskCheck risk) ∧
      (riskItem settings risk).blocks = (riskCheck risk).blocks := by
    intro risk
    unfold riskItem
    dsimp only
    split
    · exact ⟨rfl, rfl⟩
    · exact ⟨rfl, rfl⟩
  have hcheck : mergeKey (riskCheck a) = mergeKey (riskCheck b) ∧
      (riskCheck a).blocks = (riskCheck b).blocks := by
    unfold mergeKey CheckItem.blocks riskCheck plainItem
    rw [hname, hcategory, hblocking]
    cases b.category <;> exact ⟨rfl, rfl⟩
  rw [(hitem a).1, (hitem a).2, (hitem b).1, (hitem b).2]
  exact hcheck

/-- The entries for what rules find depend on the rules alone. -/
theorem riskItems_of_widens (h : ctx.Widens more) :
    Covers (riskItems settings (BuiltInRule.risks more))
      (riskItems settings (BuiltInRule.risks ctx)) := by
  intro item hitem
  obtain ⟨risk, hrisk, rfl⟩ := List.mem_map.mp hitem
  obtain ⟨r, happ, rfl⟩ := BuiltInRule.mem_risks.mp hrisk
  have hmore : r.risk more ∈ BuiltInRule.risks more :=
    BuiltInRule.mem_risks.mpr ⟨r, BuiltInRule.applies_of_widens h happ, rfl⟩
  obtain ⟨hkey, hblocks⟩ :=
    @riskItem_agrees settings (r.risk more) (r.risk ctx) rfl rfl rfl
  exact ⟨riskItem settings (r.risk more), List.mem_map_of_mem hmore, hkey, fun h => hblocks ▸ h⟩

/-- What the entry for a dependent module says comes from its name. -/
theorem moduleItems_of_widens (h : scope.Widens wider) :
    Covers (moduleItems settings wider) (moduleItems settings scope) := by
  unfold moduleItems
  rw [h.primaryModules]
  refine Covers.append (covers_of_subset (List.Subset.refl _)) ?_
  intro item hitem
  obtain ⟨m, hm, rfl⟩ := List.mem_map.mp hitem
  obtain ⟨other, hother, hname⟩ := h.tested m hm
  refine ⟨dependentItem settings other, List.mem_map_of_mem hother, ?_⟩
  unfold mergeKey CheckItem.blocks dependentItem plainItem
  dsimp only
  rw [hname]
  exact ⟨rfl, id⟩

/-- The entry for a flow depends on the flow alone. -/
theorem flowItems_cover {flows others : List ImpactFlow}
    (h : ∀ flow ∈ flows, ∃ grown ∈ others, flow.Grows grown) :
    Covers (flowItems others) (flowItems flows) := by
  intro item hitem
  obtain ⟨flow, hflow, rfl⟩ := List.mem_map.mp hitem
  obtain ⟨hflow, hneeds⟩ := List.mem_filter.mp hflow
  obtain ⟨grown, hgrown, hgrows⟩ := h flow hflow
  have hkept := List.mem_filter.mpr ⟨hgrown, hgrows.validation hneeds⟩
  refine ⟨flowItem grown, List.mem_map_of_mem hkept, ?_⟩
  have hsame := hgrows.same
  simp only [ImpactFlow.flowOf, Prod.mk.injEq] at hsame
  obtain ⟨hsource, htarget, hentities, -, hstrength, -⟩ := hsame
  unfold mergeKey CheckItem.blocks flowItem plainItem
  dsimp only
  rw [hsource, htarget, hentities, hstrength]
  exact ⟨rfl, id⟩

theorem apiItems_of_widens (h : scope.Widens wider) :
    Covers (apiItems settings wider) (apiItems settings scope) := by
  unfold apiItems
  split
  next hnone =>
    -- a file that is listed for the scope would be listed for the wider one
    have hempty : ((closeFiles scope).filter fun file => BuiltInRule.touchesApi file.display) =
        [] := by
      refine List.filter_eq_nil_iff.mpr fun file hfile => ?_
      exact List.filter_eq_nil_iff.mp hnone file (h.close hfile)
    rw [hempty]
    exact covers_of_subset (List.Subset.refl _)
  next =>
    split
    next => exact covers_of_subset (List.nil_subset _)
    next =>
      intro item hitem
      rcases List.mem_cons.mp hitem with rfl | hitem
      · exact ⟨_, List.mem_cons_self .., rfl, id⟩
      · exact ⟨item, List.mem_cons_of_mem _ hitem, rfl, id⟩

/-- A checklist covers the checklists for narrower scopes. -/
theorem generate_of_widens (h : ctx.Widens more) :
    Covers (generate settings more.scope more.flows (BuiltInRule.risks more))
      (generate settings ctx.scope ctx.flows (BuiltInRule.risks ctx)) := by
  refine Covers.trans (generate_covers _ _ _ _) (Covers.trans ?_ (covers_generate _ _ _ _))
  unfold sections
  refine ((Covers.append (riskItems_of_widens h) ?_).append ?_).append ?_
  · split
    · exact moduleItems_of_widens h.scope
    · exact covers_of_subset (List.Subset.refl _)
  · split
    · exact flowItems_cover h.flows
    · exact covers_of_subset (List.Subset.refl _)
  · split
    · exact apiItems_of_widens h.scope
    · exact covers_of_subset (List.Subset.refl _)

end Checklist

/-! ## Reports -/

namespace Report

/-- Everything that the report finds is found by the other one: the rules, the flows at least as
affected, and what the checklist says. -/
structure Grows (report more : Report) : Prop where
  rules : ∀ id ∈ report.risks.map Risk.ruleId, id ∈ more.risks.map Risk.ruleId
  flows : ∀ flow ∈ report.flows, ∃ grown ∈ more.flows, grown.flowOf = flow.flowOf ∧
    ImpactFlow.levelWeight flow.level ≤ ImpactFlow.levelWeight grown.level ∧
    (flow.validationRequired = true → grown.validationRequired = true)
  checklist : ∀ item ∈ report.checklist, ∃ other ∈ more.checklist,
    other.category = item.category ∧
    Checklist.plainTitle other.title = Checklist.plainTitle item.title ∧
    (item.blocks = true → other.blocks = true)

/-- **Reports grow with the scope.** -/
theorem ofScope_grows {sources sources' : Sources} {catalog catalog' : Option Knowledge}
    (settings : CheckSettings) (change : Change) (parsed : Parsed) {scope wider : Scope}
    (h : scope.Widens wider)
    (hflows : candidateFlows sources catalog scope ⊆ candidateFlows sources' catalog' wider) :
    (ofScope sources catalog settings change parsed scope).Grows
      (ofScope sources' catalog' settings change parsed wider) := by
  have hgrown := ImpactFlow.ofFlows_of_widens h hflows
  have hctx : RiskContext.Widens
      { change, parsed, scope, flows := ImpactFlow.ofFlows (candidateFlows sources catalog scope) scope }
      { change, parsed, scope := wider
        flows := ImpactFlow.ofFlows (candidateFlows sources' catalog' wider) wider } :=
    ⟨rfl, rfl, h, hgrown⟩
  refine ⟨?_, ?_, ?_⟩
  · intro id hid
    obtain ⟨risk, hrisk, rfl⟩ := List.mem_map.mp hid
    obtain ⟨r, happ, rfl⟩ := BuiltInRule.mem_risks.mp hrisk
    exact List.mem_map.mpr ⟨_, BuiltInRule.mem_risks.mpr
      ⟨r, BuiltInRule.applies_of_widens hctx happ, rfl⟩, rfl⟩
  · intro flow hflow
    obtain ⟨grown, hmem, hgrows⟩ := hgrown flow hflow
    exact ⟨grown, hmem, hgrows.same, hgrows.level, hgrows.validation⟩
  · intro item hitem
    obtain ⟨other, hother, hkey, hblocks⟩ := Checklist.generate_of_widens hctx item hitem
    exact ⟨other, hother, congrArg Prod.fst hkey, congrArg Prod.snd hkey, hblocks⟩

end Report

end ChangeImpact

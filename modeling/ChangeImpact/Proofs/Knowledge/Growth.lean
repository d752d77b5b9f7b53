import ChangeImpact.Proofs.Knowledge.Graph
import ChangeImpact.Proofs.Knowledge.Imports

/-!
# More knowledge

More may be known about the same modules and specifications: further links between modules, further
imports and further flows, in any order. `Knowledge.Grows` is this comparison. What is next to a
module or a file stays next to it, and flows stay the flows of their entities.
-/

namespace ChangeImpact

/-- The ends, entities and relationships of the flow are texts. -/
structure DataFlow.OfTexts (flow : DataFlow) : Prop where
  source : flow.source.IsText
  target : flow.target.IsText
  entities : ∀ entity ∈ flow.entities, entity.IsText
  relationships : ∀ relationship ∈ flow.relationships, relationship.IsText

namespace DataFlow

theorem agrees_self (flow : DataFlow) : flow.agrees flow = true := by
  simp [agrees]

/-- Flows of texts agree only if they are equal. -/
theorem OfTexts.eq_of_agrees {flow other : DataFlow} (ht : flow.OfTexts)
    (h : flow.agrees other = true) : flow = other := by
  unfold agrees at h
  simp only [Bool.and_eq_true, decide_eq_true_iff] at h
  obtain ⟨⟨⟨⟨⟨hsource, htarget⟩, hentities⟩, htype⟩, hstrength⟩, hrelationships⟩ := h
  cases flow
  cases other
  rw [DataFlow.mk.injEq]
  exact ⟨ht.source.eq_of_beq hsource, ht.target.eq_of_beq htarget,
    Json.texts_eq_of_beq ht.entities hentities, htype, hstrength,
    Json.texts_eq_of_beq ht.relationships hrelationships⟩

end DataFlow

namespace Knowledge

/-- All names are texts, and no file is listed twice. -/
structure OfTexts (k : Knowledge) : Prop where
  ids : k.TextIds
  imports : k.ImportMap
  flows : ∀ flow ∈ k.flows, flow.OfTexts

/-- The other knowledge is about the same modules and specifications, and every link, every import
and every flow is in it. -/
structure Grows (k more : Knowledge) : Prop where
  modules : more.modules = k.modules
  specs : more.specs = k.specs
  specDependencies : more.specDependencies = k.specDependencies
  links : k.links ⊆ more.links
  imports : ∀ a b, k.Imports a b → more.Imports a b
  flows : k.flows ⊆ more.flows

variable {k more : Knowledge}

namespace Grows

/-- Knowledge that grows knows the same modules. -/
theorem module?_eq (h : k.Grows more) (id : Name) : more.module? id = k.module? id := by
  unfold module?
  rw [h.modules]

/-- It finds them by the same names. -/
theorem moduleByName?_eq (h : k.Grows more) (name : Name) :
    more.moduleByName? name = k.moduleByName? name := by
  unfold moduleByName?
  rw [h.modules]

/-- Files have the same owners. -/
theorem owner?_eq (h : k.Grows more) (path : String) : more.owner? path = k.owner? path := by
  unfold owner?
  rw [h.modules]

/-- Specifications are the same. -/
theorem spec?_eq (h : k.Grows more) (id : Name) : more.spec? id = k.spec? id := by
  unfold spec?
  rw [h.specs]

/-- So are their dependencies. -/
theorem dependenciesOf_eq (h : k.Grows more) (id : Name) :
    more.dependenciesOf id = k.dependenciesOf id := by
  unfold dependenciesOf
  rw [h.specDependencies]

/-- What was known stays known. -/
theorem knows (h : k.Grows more) {id : Name} (hknows : k.Knows id) : more.Knows id := by
  unfold Knows at hknows ⊢
  rw [h.module?_eq]
  exact hknows

/-- An impact spreads as it did. -/
theorem spreads (h : k.Grows more) {a b : Name} (hspreads : k.Spreads a b) : more.Spreads a b := by
  obtain ⟨hknows, hlinked⟩ := hspreads
  refine ⟨h.knows hknows, hlinked.imp ?_ ?_⟩
  · intro hgiven
    obtain ⟨link, hlink, hends⟩ := hgiven
    exact ⟨link, h.links hlink, hends⟩
  · intro hgiven
    obtain ⟨link, hlink, hends⟩ := hgiven
    exact ⟨link, h.links hlink, hends⟩

/-- Files that were adjacent stay so. -/
theorem adjacentNamed (h : k.Grows more) {a b : Name} (hadjacent : k.AdjacentNamed a b) :
    more.AdjacentNamed a b := by
  obtain ⟨ha, hb, hjoined⟩ := hadjacent
  exact ⟨ha, hb, hjoined.imp (h.imports a b) (h.imports b a)⟩

/-- No flow of an entity gets lost. -/
theorem flowsOf_subset (h : k.Grows more) (entity : Name) :
    k.flowsOf entity ⊆ more.flowsOf entity := by
  intro flow hflow
  obtain ⟨hmem, hentity⟩ := List.mem_filter.mp hflow
  exact List.mem_filter.mpr ⟨h.flows hmem, hentity⟩

/-- What is less known is of texts as well. -/
theorem textIds (h : k.Grows more) (ht : more.TextIds) : k.TextIds where
  modules := h.modules ▸ ht.modules
  links link hlink := ht.links link (h.links hlink)

end Grows

end Knowledge

end ChangeImpact

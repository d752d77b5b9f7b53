import ChangeImpact.Flow.Criticality
import ChangeImpact.Proofs.Knowledge.Growth
import ChangeImpact.Proofs.Scope.Files
import ChangeImpact.Proofs.Scope.Modules

/-!
# Scopes from more knowledge

Where more is known, distances are shorter: the same modules and files are found around a change, at
least as close, and the same entities. What a change is about depends on modules and specifications
alone and stays as it is.

A project may offer some kinds of knowledge only. Without modules there are no links to follow, and
what a specification depends on is all that is found; without specifications a change counts as one
that has none.
-/

namespace ChangeImpact

open Traversal

/-- Which kinds of knowledge a project offers; the last one is the list of all its flows. -/
structure Offer where
  modules : Bool
  specs : Bool
  imports : Bool
  flows : Bool
  allFlows : Bool

namespace Offer

/-- What an expansion draws on. -/
def sources (offer : Offer) (k : Knowledge) : Sources where
  modules := if offer.modules then some k else none
  specs := if offer.specs then some k else none
  imports := if offer.imports then some k else none
  flows := if offer.flows then some k else none

/-- Where all flows are listed. -/
def catalog (offer : Offer) (k : Knowledge) : Option Knowledge :=
  if offer.allFlows then some k else none

end Offer

variable {k more : Knowledge}

/-! ## Distances -/

namespace Knowledge.Grows

theorem seed (h : k.Grows more) (primary : List Name) (specId : Name) (n : Nat) (id : Name)
    (hseed : k.Seed primary specId n id) : more.Seed primary specId n id := by
  match n with
  | 0 => exact hseed
  | 1 =>
    obtain ⟨hknows, hspec, dep, hdep, hid⟩ := hseed
    exact ⟨h.knows hknows, hspec, dep, h.dependenciesOf_eq specId ▸ hdep, hid⟩
  | n + 2 => exact hseed.elim

/-- The dependencies of a specification are the same, and every step can still be taken. -/
theorem distance (h : k.Grows more) {primary : List Name} {specId id : Name} {n : Nat}
    (hdist : k.Distance primary specId (n + 1) id) :
    ∃ m, m ≤ n ∧ more.Distance primary specId (m + 1) id :=
  hdist.closer (h.seed primary specId) (fun _ _ => h.spreads) fun _ hstart => hstart

theorem fileDistance (h : k.Grows more) {primary : List Name} {file : Name} {n : Nat}
    (hdist : FileDistance k.AdjacentNamed primary (n + 1) file) :
    ∃ m, m ≤ n ∧ FileDistance more.AdjacentNamed primary (m + 1) file :=
  hdist.closer (fun _ _ hseed => hseed) (fun _ _ => h.adjacentNamed) fun _ hstart => hstart

end Knowledge.Grows

namespace Expansion

/-- What is closer is affected at least as much. -/
theorem levelOf_closer {m n : Nat} (h : m ≤ n) :
    ImpactFlow.levelWeight (.known (levelOf (n + 1))) ≤
      ImpactFlow.levelWeight (.known (levelOf (m + 1))) := by
  unfold levelOf
  split
  next hn =>
    rw [if_pos (by omega)]
  next =>
    split
    · decide
    · exact Nat.le_refl _

variable {offer : Offer} {depth : Nat} {primary : List Name} {specId : Name}

/-! ## Modules -/

theorem moduleName_of_mem {sources : Sources} {m : ScopedModule}
    (hm : m ∈ dependentModules sources depth primary specId) :
    m.moduleName = moduleNameOf sources.modules m.moduleId := by
  obtain ⟨_, -, rfl⟩ := List.mem_map.mp hm
  rfl

/-- Without specifications a change counts as one that has none. -/
theorem dependentModules_without_specs (imports flows : Option Knowledge) :
    dependentModules ⟨some k, none, imports, flows⟩ depth primary specId =
      dependentModules ⟨some k, some k, imports, flows⟩ depth primary .null := rfl

/-- Without modules no links are followed. -/
theorem dependentModules_without_modules (h : k.Grows more) (hmodules : offer.modules = false) :
    dependentModules (offer.sources more) depth primary specId =
      dependentModules (offer.sources k) depth primary specId := by
  have hspecs : specModules (offer.sources more).specs specId =
      specModules (offer.sources k).specs specId := by
    unfold Offer.sources specModules
    cases offer.specs with
    | false => rfl
    | true => simp only [if_true, h.dependenciesOf_eq]
  have hnone : ∀ known, (offer.sources known).modules = none := fun known => by
    unfold Offer.sources
    rw [hmodules]
    rfl
  unfold dependentModules
  rw [hspecs, hnone k, hnone more]

theorem exists_closer_known_module (h : k.Grows more) (ht : more.TextIds)
    {imports flows imports' flows' : Option Knowledge} {m : ScopedModule}
    (hm : m ∈ dependentModules ⟨some k, some k, imports, flows⟩ depth primary specId) :
    ∃ other ∈ dependentModules ⟨some more, some more, imports', flows'⟩ depth primary specId,
      other.moduleId = m.moduleId ∧ other.moduleName = m.moduleName ∧
        ImpactFlow.levelWeight m.level ≤ ImpactFlow.levelWeight other.level := by
  obtain ⟨n, hn, hdist, hlevel⟩ := distance_of_mem_dependentModules (h.textIds ht) rfl rfl hm
  obtain ⟨i, hi, hcloser⟩ := h.distance hdist
  obtain ⟨other, hother, hid⟩ := @exists_mem_dependentModules more ht
    ⟨some more, some more, imports', flows'⟩ rfl rfl depth i primary specId m.moduleId (by omega)
    hcloser
  obtain ⟨j, -, hdist', hlevel'⟩ := distance_of_mem_dependentModules ht rfl rfl hother
  rw [hid] at hdist'
  obtain rfl : j = i := Nat.succ.inj (hdist'.eq hcloser)
  refine ⟨other, hother, hid, ?_, ?_⟩
  · rw [moduleName_of_mem hother, moduleName_of_mem hm, hid]
    unfold moduleNameOf
    rw [Option.bind_some, Option.bind_some, h.module?_eq]
  · rw [hlevel, hlevel']
    exact levelOf_closer hi

/-- **Modules come closer.** Every dependent module is one where more is known, at least as
close. -/
theorem exists_closer_module (h : k.Grows more) (ht : more.TextIds) {m : ScopedModule}
    (hm : m ∈ dependentModules (offer.sources k) depth primary specId) :
    ∃ other ∈ dependentModules (offer.sources more) depth primary specId,
      other.moduleId = m.moduleId ∧ other.moduleName = m.moduleName ∧
        ImpactFlow.levelWeight m.level ≤ ImpactFlow.levelWeight other.level := by
  cases hmodules : offer.modules with
  | false =>
    rw [dependentModules_without_modules h hmodules]
    exact ⟨m, hm, rfl, rfl, Nat.le_refl _⟩
  | true =>
    unfold Offer.sources at hm ⊢
    rw [hmodules] at hm ⊢
    cases hspecs : offer.specs with
    | true =>
      rw [hspecs] at hm
      exact exists_closer_known_module h ht hm
    | false =>
      rw [hspecs] at hm
      change m ∈ dependentModules ⟨some k, none, _, _⟩ depth primary specId at hm
      change ∃ other ∈ dependentModules ⟨some more, none, _, _⟩ depth primary specId, _
      rw [dependentModules_without_specs] at hm ⊢
      exact exists_closer_known_module h ht hm

/-! ## Files -/

/-- Files are affected only where imports are known and expanded. -/
theorem expands_of_mem {reach : Reach} {f : ScopedFile}
    (hf : f ∈ affectedFiles (offer.sources k) reach primary) :
    reach.expandImports = true ∧ ∀ known, (offer.sources known).imports = some known := by
  unfold affectedFiles at hf
  split at hf
  next hreach himports =>
    exact ⟨hreach, fun known => if_pos (Option.ite_none_right_eq_some.mp himports).1⟩
  next => cases hf

theorem isText_of_mem_affectedFiles (hk : k.ImportMap) {reach : Reach}
    (hprimary : ∀ file ∈ primary, file.truthy = true) {f : ScopedFile}
    (hf : f ∈ affectedFiles (offer.sources k) reach primary) : f.filePath.IsText := by
  obtain ⟨hreach, himports⟩ := expands_of_mem hf
  obtain ⟨n, -, hdist, -⟩ := of_mem_affectedFiles (himports k) hreach hk hprimary hf
  exact Knowledge.isText_of_distance hk hdist

/-- **Files come closer.** Every affected file is one where more is known, at least as close. -/
theorem exists_closer_file (h : k.Grows more) (hk : k.ImportMap) (hmore : more.ImportMap)
    {reach : Reach} (hprimary : ∀ file ∈ primary, file.truthy = true) {f : ScopedFile}
    (hf : f ∈ affectedFiles (offer.sources k) reach primary) :
    ∃ other ∈ affectedFiles (offer.sources more) reach primary, other.filePath = f.filePath ∧
      ImpactFlow.levelWeight f.level ≤ ImpactFlow.levelWeight other.level := by
  obtain ⟨hreach, himports⟩ := expands_of_mem hf
  obtain ⟨n, hn, hdist, hlevel, -⟩ := of_mem_affectedFiles (himports k) hreach hk hprimary hf
  obtain ⟨i, hi, hcloser⟩ := h.fileDistance hdist
  obtain ⟨other, hother, hfile⟩ :=
    exists_mem_affectedFiles (himports more) hreach hmore hprimary (by omega) hcloser
  obtain ⟨j, -, hdist', hlevel', -⟩ :=
    of_mem_affectedFiles (himports more) hreach hmore hprimary hother
  rw [hfile] at hdist'
  obtain rfl : j = i := Nat.succ.inj (hdist'.eq hcloser)
  refine ⟨other, hother, hfile, ?_⟩
  rw [hlevel, hlevel']
  exact levelOf_closer hi

/-! ## Entities -/

/-- Every affected entity is one where more is known. -/
theorem contains_affectedEntities (h : k.Grows more) {reach : Reach} {entities : List Name}
    {entity : Name} (hentity : entity ∈ affectedEntities (offer.sources k) reach entities) :
    (affectedEntities (offer.sources more) reach entities).contains entity = true := by
  refine contains_eraseDups_of_subset ?_ hentity
  intro other hother
  obtain ⟨hmem, htruthy⟩ := List.mem_filter.mp hother
  refine List.mem_filter.mpr ⟨?_, htruthy⟩
  rcases List.mem_append.mp hmem with hgiven | hrelated
  · exact List.mem_append_left _ hgiven
  · refine List.mem_append_right _ ?_
    split at hrelated
    next known hflows hsource =>
      obtain ⟨hoffer, hknown⟩ := Option.ite_none_right_eq_some.mp hsource
      cases hknown
      have hsource : (offer.sources more).flows = some more := if_pos hoffer
      rw [hflows, hsource]
      obtain ⟨mentioned, hmentioned, hflow⟩ := List.mem_flatMap.mp hrelated
      obtain ⟨flow, hflow, hin⟩ := List.mem_flatMap.mp hflow
      exact List.mem_flatMap.mpr ⟨mentioned, hmentioned,
        List.mem_flatMap.mpr ⟨flow, h.flowsOf_subset mentioned hflow, hin⟩⟩
    next => cases hrelated

end Expansion

/-! ## What a change is about -/

namespace Scope

variable {offer : Offer}

theorem moduleForEntity?_eq (h : k.Grows more) : moduleForEntity? more = moduleForEntity? k := by
  funext entity
  unfold moduleForEntity?
  simp only [h.moduleByName?_eq]

/-- What a change is about stays as it is. -/
theorem primaryModulesOf_eq (h : k.Grows more) (change : Change) (parsed : Parsed) :
    primaryModulesOf (offer.sources more) change parsed =
      primaryModulesOf (offer.sources k) change parsed := by
  have hbyName : more.moduleByName? = k.moduleByName? := funext h.moduleByName?_eq
  have hgiven : givenModules (offer.sources more) change = givenModules (offer.sources k) change := by
    unfold givenModules Offer.sources
    cases offer.modules <;> cases offer.specs <;> simp [h.owner?_eq, h.spec?_eq]
  have hguessed : guessedModules (offer.sources more) parsed =
      guessedModules (offer.sources k) parsed := by
    unfold guessedModules Offer.sources
    cases offer.modules with
    | false => rfl
    | true => simp only [if_true, moduleForEntity?_eq h, hbyName]
  unfold primaryModulesOf
  rw [hgiven, hguessed]

end Scope

end ChangeImpact

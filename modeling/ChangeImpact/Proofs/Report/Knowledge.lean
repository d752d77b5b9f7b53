import Mathlib.Data.List.Perm.Subperm
import ChangeImpact.Proofs.Report.Widening
import ChangeImpact.Proofs.Scope.Knowledge

/-!
# Reports from more knowledge

Whoever learns of another link, import or flow of a project learns more about every change, and
nothing that was reported before is taken back:

> `analyze_extends`: the modules and files that were found are found at least as close, every rule
> finds what it found, the flows are affected at least as closely, and the checklist says at least
> as much, and blocks at least as often.

Links and imports make distances shorter, so a module or file may come from further down in the
scope to its beginning; a scope from more knowledge is wider (`detect_widens`), although it need not
begin with the other one.
-/

namespace ChangeImpact

variable {k more : Knowledge} {offer : Offer}

/-! ## Scopes -/

namespace Checklist

/-- A module that has not been met is tested, unless one before it has its id. -/
theorem mem_untested {met : List Name} {modules : List ScopedModule} {m : ScopedModule}
    (hm : m ∈ modules) (hmet : met.contains m.moduleId = false)
    (hdistinct : modules.Pairwise fun a b => (b.moduleId == a.moduleId) = false) :
    m ∈ untested met modules := by
  induction modules generalizing met with
  | nil => cases hm
  | cons first rest ih =>
    obtain ⟨hfirst, hrest⟩ := List.pairwise_cons.mp hdistinct
    unfold untested
    rcases List.mem_cons.mp hm with rfl | hmem
    · rw [if_neg (by rw [hmet]; exact Bool.false_ne_true)]
      exact List.mem_cons_self ..
    · split
      next => exact ih hmem hmet hrest
      next =>
        refine List.mem_cons_of_mem _ (ih hmem ?_ hrest)
        rw [List.contains_cons, hfirst m hmem, hmet]
        rfl

/-- Only modules that have not been met are tested. -/
theorem of_mem_untested {met : List Name} {modules : List ScopedModule} {m : ScopedModule}
    (hm : m ∈ untested met modules) : m ∈ modules ∧ met.contains m.moduleId = false := by
  induction modules generalizing met with
  | nil => cases hm
  | cons first rest ih =>
    unfold untested at hm
    split at hm
    next =>
      obtain ⟨hmem, hmet⟩ := ih hm
      exact ⟨List.mem_cons_of_mem _ hmem, hmet⟩
    next hnot =>
      rcases List.mem_cons.mp hm with rfl | hm
      · exact ⟨List.mem_cons_self .., Bool.eq_false_iff.mpr hnot⟩
      · obtain ⟨hmem, hmet⟩ := ih hm
        rw [List.contains_cons, Bool.or_eq_false_iff] at hmet
        exact ⟨List.mem_cons_of_mem _ hmem, hmet.2⟩

end Checklist

/-- Where no key occurs twice and all of them occur again, there are at least as many entries. -/
theorem length_le_of_keys {α β : Type} (key : α → β) {as bs : List α}
    (hnodup : (as.map key).Nodup) (h : ∀ a ∈ as, ∃ b ∈ bs, key b = key a) : as.length ≤ bs.length := by
  have hsub : as.map key ⊆ bs.map key := by
    intro _ hmem
    obtain ⟨a, ha, rfl⟩ := List.mem_map.mp hmem
    obtain ⟨b, hb, heq⟩ := h a ha
    exact heq ▸ List.mem_map_of_mem hb
  have hlength := (List.subperm_of_subset hnodup hsub).length_le
  rwa [List.length_map, List.length_map] at hlength

namespace Scope

variable (offer) (reach : Reach) (change : Change) (parsed : Parsed)

section

variable (h : k.Grows more) (hk : k.OfTexts) (hmore : more.OfTexts)

include h hmore

theorem exists_closer_module :
    ∀ m ∈ (detect (offer.sources k) reach change parsed).dependentModules,
      ∃ other ∈ (detect (offer.sources more) reach change parsed).dependentModules,
        other.moduleId = m.moduleId ∧ other.moduleName = m.moduleName ∧
          ImpactFlow.levelWeight m.level ≤ ImpactFlow.levelWeight other.level := by
  intro m hm
  unfold detect at hm ⊢
  dsimp only at hm ⊢
  rw [primaryModulesOf_eq h]
  exact Expansion.exists_closer_module h hmore.ids hm

include hk

theorem exists_closer_file :
    ∀ f ∈ (detect (offer.sources k) reach change parsed).affectedFiles,
      ∃ other ∈ (detect (offer.sources more) reach change parsed).affectedFiles,
        other.filePath = f.filePath ∧
          ImpactFlow.levelWeight f.level ≤ ImpactFlow.levelWeight other.level := by
  intro f hf
  exact Expansion.exists_closer_file h hk.imports hmore.imports (truthy_of_mem_primaryFilesOf change)
    hf

/-- **More knowledge makes scopes wider.** -/
theorem detect_widens : (detect (offer.sources k) reach change parsed).Widens
    (detect (offer.sources more) reach change parsed) where
  primaryModules := (primaryModulesOf_eq h change parsed).symm
  primaryFiles := rfl
  modules m hm := by
    obtain ⟨other, hother, hid, -⟩ := exists_closer_module offer reach change parsed h hmore m hm
    exact ⟨other, hother, hid⟩
  moreModules := by
    refine length_le_of_keys ScopedModule.moduleId (Expansion.dependentModules_nodup ..) ?_
    intro m hm
    obtain ⟨other, hother, hid, -⟩ := exists_closer_module offer reach change parsed h hmore m hm
    exact ⟨other, hother, hid⟩
  moreFiles := by
    refine length_le_of_keys ScopedFile.filePath (Expansion.affectedFiles_nodup ..) ?_
    intro f hf
    obtain ⟨other, hother, hfile, -⟩ := exists_closer_file offer reach change parsed h hk hmore f hf
    exact ⟨other, hother, hfile⟩
  tested m hm := by
    obtain ⟨hmem, hmet⟩ := Checklist.of_mem_untested hm
    obtain ⟨hmem, hdirect⟩ := List.mem_filter.mp hmem
    obtain ⟨other, hother, hid, hname, hlevel⟩ :=
      exists_closer_module offer reach change parsed h hmore m hmem
    have hkept := (List.mem_filter (p := fun m => m.level.is .direct)).mpr
      ⟨hother, ImpactFlow.is_direct_of_le hlevel hdirect⟩
    refine ⟨other, Checklist.mem_untested hkept ?_ ?_, hname⟩
    · show (primaryModulesOf (offer.sources more) change parsed).contains other.moduleId = false
      rw [hid, primaryModulesOf_eq h]
      exact hmet
    · exact (Expansion.dependentModules_distinct ..).filter _
  close file hfile := by
    unfold Checklist.closeFiles at hfile ⊢
    rcases mem_eraseDupsBy_append hfile with hprimary | hclose
    · exact (eraseDups_isPrefix (List.prefix_append _ _)).subset hprimary
    · obtain ⟨f, hf, rfl⟩ := List.mem_map.mp hclose
      obtain ⟨hf, hdirect⟩ := List.mem_filter.mp hf
      have htext := Expansion.isText_of_mem_affectedFiles hk.imports
        (truthy_of_mem_primaryFilesOf change) hf
      obtain ⟨other, hother, hfile, hlevel⟩ :=
        exists_closer_file offer reach change parsed h hk hmore f hf
      have hkept := (List.mem_filter (p := fun f => f.level.is .direct)).mpr
        ⟨hother, ImpactFlow.is_direct_of_le hlevel hdirect⟩
      -- a text is kept as it is
      obtain ⟨kept, hkept, heq⟩ :=
        exists_mem_eraseDupsBy (r := fun a b : Name => a == b) (fun _ => BEq.rfl)
          (List.mem_append_right (primaryFilesOf change) (List.mem_map_of_mem hkept))
      rw [← hfile] at htext ⊢
      exact htext.eq_of_beq heq ▸ hkept
  entities _ hentity := Expansion.contains_affectedEntities h hentity

end

end Scope

/-! ## Reports -/

namespace Report

theorem candidateFlows_subset (h : k.Grows more) (hmore : more.OfTexts) {scope wider : Scope}
    (hscope : scope.Widens wider) :
    candidateFlows (offer.sources k) (offer.catalog k) scope ⊆
      candidateFlows (offer.sources more) (offer.catalog more) wider := by
  intro flow hflow
  have hkeep : ∀ flows : List DataFlow, flow ∈ more.flows → flow ∈ flows →
      flow ∈ flows.eraseDupsBy DataFlow.agrees := by
    intro flows hmem hlisted
    obtain ⟨kept, hkept, hagrees⟩ := exists_mem_eraseDupsBy DataFlow.agrees_self hlisted
    exact (hmore.flows flow hmem).eq_of_agrees hagrees ▸ hkept
  unfold candidateFlows at hflow ⊢
  have hlisted := (eraseDupsBy_sublist _ _).subset hflow
  split at hlisted
  next known _ hcatalog =>
    obtain ⟨hoffer, hknown⟩ := Option.ite_none_right_eq_some.mp hcatalog
    cases hknown
    rw [show offer.catalog more = some more from if_pos hoffer]
    exact hkeep _ (h.flows hlisted) (h.flows hlisted)
  next known hcatalog hsource =>
    obtain ⟨hoffer, hknown⟩ := Option.ite_none_right_eq_some.mp hsource
    cases hknown
    have hnone : offer.catalog more = none := by
      unfold Offer.catalog at hcatalog ⊢
      cases hall : offer.allFlows with
      | false => rfl
      | true =>
        rw [hall] at hcatalog
        cases hcatalog
    rw [hnone, show (offer.sources more).flows = some more from if_pos hoffer]
    obtain ⟨entity, hentity, hof⟩ := List.mem_flatMap.mp hlisted
    obtain ⟨hmem, htakes⟩ := List.mem_filter.mp (h.flowsOf_subset entity hof)
    -- the entity may stand in the wider scope under another value that compares equal
    obtain ⟨other, hother, heq⟩ := List.contains_iff_exists_mem_beq.mp (hscope.entities _ hentity)
    obtain ⟨part, hpart, heq'⟩ := List.contains_iff_exists_mem_beq.mp htakes
    have htakes : flow.entities.contains other = true :=
      List.contains_iff_exists_mem_beq.mpr ⟨part, hpart, BEq.trans (BEq.symm heq) heq'⟩
    exact hkeep _ hmem
      (List.mem_flatMap.mpr ⟨other, hother, List.mem_filter.mpr ⟨hmem, htakes⟩⟩)
  next => cases hlisted

/-- Everything that the report finds is found by the other one: modules and files at least as close,
the rules, the flows at least as affected, and what the checklist says. -/
structure Extends (report more : Report) : Prop extends Report.Grows report more where
  modules : ∀ m ∈ report.scope.dependentModules, ∃ other ∈ more.scope.dependentModules,
    other.moduleId = m.moduleId ∧
      ImpactFlow.levelWeight m.level ≤ ImpactFlow.levelWeight other.level
  files : ∀ f ∈ report.scope.affectedFiles, ∃ other ∈ more.scope.affectedFiles,
    other.filePath = f.filePath ∧
      ImpactFlow.levelWeight f.level ≤ ImpactFlow.levelWeight other.level

/-- **Reports grow with what is known.** -/
theorem analyze_extends (h : k.Grows more) (hk : k.OfTexts) (hmore : more.OfTexts) (offer : Offer)
    (reach : Reach) (settings : CheckSettings) (change : Change) (parsed : Parsed) :
    (analyze (offer.sources k) (offer.catalog k) reach settings change parsed).Extends
      (analyze (offer.sources more) (offer.catalog more) reach settings change parsed) := by
  have hscope := Scope.detect_widens offer reach change parsed h hk hmore
  refine ⟨ofScope_grows settings change parsed hscope (candidateFlows_subset h hmore hscope), ?_, ?_⟩
  · intro m hm
    obtain ⟨other, hother, hid, -, hlevel⟩ :=
      Scope.exists_closer_module offer reach change parsed h hmore m hm
    exact ⟨other, hother, hid, hlevel⟩
  · exact Scope.exists_closer_file offer reach change parsed h hk hmore

/-- A project of which little is known: `audit` is two steps away from `orders`. -/
def sketch : Knowledge where
  modules := [⟨"orders", "Orders", .arr []⟩, ⟨"billing", "Billing", .arr []⟩,
    ⟨"audit", "Audit", .arr []⟩]
  links := [⟨"billing", "orders", "uses"⟩, ⟨"audit", "billing", "calls"⟩]
  specs := []
  specDependencies := []
  imports := [("invoice.py", ["tables.py"]), ("tables.py", ["orders.py"])]
  flows := [⟨"audit", "billing", ["Invoice"], .read, .important, []⟩]

/-- The same project, with a link and an import that lead there directly and another flow, all of
them listed first. -/
def survey : Knowledge where
  modules := sketch.modules
  links := ⟨"audit", "orders", "calls"⟩ :: sketch.links
  specs := []
  specDependencies := []
  imports := [("invoice.py", ["orders.py", "tables.py"]), ("tables.py", ["orders.py"])]
  flows := ⟨"orders", "audit", ["Order", "Invoice"], .write, .critical, ["creates"]⟩ :: sketch.flows

theorem analyze_extends_survey :
    (sketch.Grows survey ∧ sketch.OfTexts ∧ survey.OfTexts) ∧
    (analyze (.all sketch) (some sketch) .standard .standard
        ⟨"", ["orders"], ["orders.py"], .null, none⟩ ⟨["Order"], [], [], .feature, .ofNat 0⟩).Extends
      (analyze (.all survey) (some survey) .standard .standard
        ⟨"", ["orders"], ["orders.py"], .null, none⟩ ⟨["Order"], [], [], .feature, .ofNat 0⟩) ∧
    ((Scope.detect (.all sketch) .standard ⟨"", ["orders"], ["orders.py"], .null, none⟩
        ⟨["Order"], [], [], .feature, .ofNat 0⟩).dependentModules.map fun m => (m.moduleId, m.level)) =
      [(.str "billing", .known .direct), (.str "audit", .known .indirect)] ∧
    ((Scope.detect (.all survey) .standard ⟨"", ["orders"], ["orders.py"], .null, none⟩
        ⟨["Order"], [], [], .feature, .ofNat 0⟩).dependentModules.map fun m => (m.moduleId, m.level)) =
      [(.str "audit", .known .direct), (.str "billing", .known .direct)] := by
  have hgrows : sketch.Grows survey := by
    refine ⟨rfl, rfl, rfl, List.subset_cons_self .., ?_, List.subset_cons_self ..⟩
    intro a b hgiven
    obtain ⟨entry, hentry, rfl, hb⟩ := hgiven
    rcases List.mem_pair.mp hentry with rfl | rfl
    · exact ⟨_, List.mem_cons_self .., rfl, List.mem_cons_of_mem _ hb⟩
    · exact ⟨_, List.mem_cons_of_mem _ (List.mem_cons_self ..), rfl, hb⟩
  have hsurvey : survey.OfTexts := by
    refine ⟨⟨?_, ?_⟩, ⟨by decide, ?_⟩, ?_⟩
    · simp [survey, sketch, Json.isText_str]
    · simp [survey, sketch, Json.isText_str]
    · simp [survey, Json.isText_str]
    · intro flow hflow
      rcases List.mem_pair.mp hflow with rfl | rfl
      · exact ⟨⟨_, rfl⟩, ⟨_, rfl⟩, by simp [Json.isText_str], by simp [Json.isText_str]⟩
      · exact ⟨⟨_, rfl⟩, ⟨_, rfl⟩, by simp [Json.isText_str], by simp⟩
  have hsketch : sketch.OfTexts := by
    refine ⟨hgrows.textIds hsurvey.ids, ⟨by decide, ?_⟩, ?_⟩
    · simp [sketch, Json.isText_str]
    · exact fun flow hflow => hsurvey.flows flow (hgrows.flows hflow)
  refine ⟨⟨hgrows, hsketch, hsurvey⟩, ?_, by decide +kernel, by decide +kernel⟩
  exact analyze_extends hgrows hsketch hsurvey ⟨true, true, true, true, true⟩ .standard .standard
    ⟨"", ["orders"], ["orders.py"], .null, none⟩ ⟨["Order"], [], [], .feature, .ofNat 0⟩

end Report

end ChangeImpact

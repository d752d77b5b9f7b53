import ChangeImpact.Proofs.Report.Widening
import ChangeImpact.Proofs.Scope.Growth

/-!
# Reports on wider reaches

A wider reach finds more, and takes nothing back of what a narrower one has found:

> `analyze_grows`: whatever rule finds something, it does so on a wider reach as well; every flow
> that is reported is reported again, at least as closely affected; and the checklist says at least
> as much, and blocks at least as often.

`Scope.Begins` is what the scope gives (`detect_begins`). What a scope begins is wider than it, and
the flows to look at are the first ones of those for the wider scope; the rest is `ofScope_grows`.
-/

namespace ChangeImpact

namespace Checklist

theorem untested_isPrefix {modules others : List ScopedModule} (h : modules <+: others)
    (met : List Name) : untested met modules <+: untested met others := by
  obtain ⟨rest, rfl⟩ := h
  induction modules generalizing met with
  | nil => exact List.nil_prefix
  | cons m modules ih =>
    rw [List.cons_append]
    unfold untested
    split
    · exact ih met
    · exact (List.prefix_cons_inj m).mpr (ih (m.moduleId :: met))

end Checklist

namespace Scope

variable {scope more : Scope}

/-- What a scope begins is wider. -/
theorem Begins.widens (h : scope.Begins more) : scope.Widens more where
  primaryModules := h.primaryModules
  primaryFiles := h.primaryFiles
  modules m hm := ⟨m, h.dependentModules.subset hm, rfl⟩
  moreModules := h.dependentModules.length_le
  moreFiles := h.affectedFiles.length_le
  tested m hm := by
    unfold Checklist.directDependents at hm ⊢
    rw [h.primaryModules] at hm
    exact ⟨m, (Checklist.untested_isPrefix (h.dependentModules.filter _) _).subset hm, rfl⟩
  close := by
    unfold Checklist.closeFiles
    rw [h.primaryFiles]
    exact (eraseDups_isPrefix ((List.prefix_append_right_inj _).mpr
      ((h.affectedFiles.filter _).map _))).subset
  entities entity hentity :=
    List.contains_iff_exists_mem_beq.mpr ⟨entity, h.affectedEntities.subset hentity, BEq.rfl⟩

end Scope

/-! ## Reports -/

namespace Report

theorem candidateFlows_isPrefix (sources : Sources) (catalog : Option Knowledge) {scope more : Scope}
    (h : scope.Begins more) :
    candidateFlows sources catalog scope <+: candidateFlows sources catalog more := by
  unfold candidateFlows
  refine eraseDupsBy_isPrefix _ ?_
  split
  next => exact List.prefix_refl _
  next => exact h.affectedEntities.flatMap _
  next => exact List.prefix_refl _

/-- A checked analysis gives the report on the change that the record describes, or faults. -/
theorem eq_analyze_of_analyzeChecked {sources : Sources} {catalog : Option Knowledge}
    {reach : Checked Reach} {settings : CheckSettings} {change parsed : Json} {report : Report}
    (h : analyzeChecked sources catalog reach settings change parsed = .ok report) :
    ∃ r, reach = .ok r ∧
      report = analyze sources catalog r settings (.ofRecord change) (.ofRecord parsed) := by
  unfold analyzeChecked at h
  obtain ⟨scope, hscope, h⟩ := Checked.bind_eq_ok.mp h
  obtain ⟨r, hr, rfl⟩ := Scope.eq_detect_of_detectChecked hscope
  obtain ⟨_, -, h⟩ := Checked.bind_eq_ok.mp h
  obtain ⟨_, -, h⟩ := Checked.bind_eq_ok.mp h
  obtain ⟨_, -, h⟩ := Checked.bind_eq_ok.mp h
  obtain ⟨_, -, h⟩ := Checked.bind_eq_ok.mp h
  obtain ⟨_, -, h⟩ := Checked.bind_eq_ok.mp h
  exact ⟨r, hr, (Checked.pure_eq_ok.mp h).symm⟩

/-- **Reports grow with the reach.** -/
theorem analyze_grows (sources : Sources) (catalog : Option Knowledge) (settings : CheckSettings)
    (change : Change) (parsed : Parsed) {reach wider : Reach} (h : reach.IsWithin wider) :
    (analyze sources catalog reach settings change parsed).Grows
      (analyze sources catalog wider settings change parsed) := by
  have hscope := Scope.detect_begins sources h change parsed
  exact ofScope_grows settings change parsed hscope.widens
    (candidateFlows_isPrefix sources catalog hscope).subset

/-- Two modules that depend on `orders` in a row, the second of which gets orders from it. -/
def chain : Knowledge where
  modules := [⟨"orders", "Orders", .arr []⟩, ⟨"billing", "Billing", .arr []⟩,
    ⟨"audit", "Audit", .arr []⟩]
  links := [⟨"billing", "orders", "uses"⟩, ⟨"audit", "billing", "calls"⟩]
  specs := []
  specDependencies := []
  imports := [("orders.py", ["tables.py"])]
  flows := [⟨"orders", "audit", ["Order"], .write, .critical, ["creates"]⟩]

theorem analyze_grows_chain :
    (Reach.mk 1 true false true).IsWithin .standard ∧
    (analyze (.all chain) none ⟨1, true, false, true⟩ .standard
        ⟨"", ["orders"], ["orders.py"], .null, none⟩ ⟨["Order"], [], [], .feature, .ofNat 0⟩).Grows
      (analyze (.all chain) none .standard .standard
        ⟨"", ["orders"], ["orders.py"], .null, none⟩ ⟨["Order"], [], [], .feature, .ofNat 0⟩) := by
  have hwithin : (Reach.mk 1 true false true).IsWithin .standard :=
    ⟨by decide, by decide, by decide⟩
  exact ⟨hwithin, analyze_grows (.all chain) none .standard
    ⟨"", ["orders"], ["orders.py"], .null, none⟩ ⟨["Order"], [], [], .feature, .ofNat 0⟩ hwithin⟩

end Report

end ChangeImpact

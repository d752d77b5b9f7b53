import ChangeImpact.Proofs.Scope.Growth

/-!
# Scopes of other depths

Going deeper only shows more of the same scope. What is found within a depth is found first, in the
same way and for the same reason, however much deeper an expansion goes:

> `detect_cuts`: the dependent modules and affected files within a depth are those of a deeper scope
> whose way is no longer than the depth, and a scope without indirect results has exactly the direct
> entries of the full one.

The layers do not depend on the bound (`layers_take`); what makes the bound visible in an entry is that
its way is as long as its layer is deep (`length_path_of_mem`).
-/

namespace ChangeImpact

open Traversal

namespace Expansion

/-! ## Cuts -/

/-- Where the way of every entry is as long as its layer is deep, the entries of the first layers are
those with a short way. -/
theorem map_numbered_take {β : Type} {layers : List (List (Visit Name Approach))}
    (hlength : ∀ entry ∈ numbered layers, entry.1.note.path.length = entry.2 + 1)
    (found : Visit Name Approach × Nat → β) (way : β → List Name)
    (hway : ∀ entry, way (found entry) = entry.1.note.path) (depth : Nat) :
    (numbered (layers.take depth)).map found =
      ((numbered layers).map found).filter fun b => (way b).length ≤ depth := by
  rw [numbered_take, List.filter_map]
  congr 1
  refine List.filter_congr fun entry hentry => ?_
  rw [Function.comp_apply, hway, hlength entry hentry]
  exact decide_eq_decide.mpr Nat.succ_le_iff.symm

/-- The dependent modules within a depth are those with a way no longer than it. -/
theorem dependentModules_cut (sources : Sources) {depth more : Nat} (h : depth ≤ more)
    (primary : List Name) (specId : Name) : dependentModules sources depth primary specId =
      (dependentModules sources more primary specId).filter fun m => m.path.length ≤ depth := by
  have hlayers : moduleLayers sources depth primary specId =
      (moduleLayers sources more primary specId).take depth := layers_take _ h _ _
  rw [dependentModules_eq, dependentModules_eq, hlayers]
  exact map_numbered_take (fun _ => length_path_of_moduleEntry) _ ScopedModule.path (fun _ => rfl)
    depth

/-- The affected files within a depth are those with a way no longer than it. -/
theorem affectedFiles_cut (sources : Sources) {reach wider : Reach}
    (himports : reach.expandImports = wider.expandImports) (h : reach.depth ≤ wider.depth)
    (primary : List Name) : affectedFiles sources reach primary =
      (affectedFiles sources wider primary).filter fun f => f.path.length ≤ reach.depth := by
  rw [affectedFiles_eq, affectedFiles_eq, himports]
  split
  next k _ _ =>
    have hlayers : fileLayers k reach.depth primary =
        (fileLayers k wider.depth primary).take reach.depth := layers_take _ h _ _
    rw [hlayers]
    exact map_numbered_take (fun _ => length_path_of_fileEntry) _ ScopedFile.path (fun _ => rfl)
      reach.depth
  next => rfl

/-- The direct entries are those with a way of at most one part. -/
theorem is_direct_levelOf (n : Nat) :
    (Tag.known (levelOf (n + 1))).is .direct = decide (n + 1 ≤ 1) := by
  unfold Tag.is
  refine decide_eq_decide.mpr ?_
  rw [Tag.known.injEq, levelOf_eq_direct]
  omega

theorem is_direct_of_mem_dependentModules {sources : Sources} {depth : Nat} {primary : List Name}
    {specId : Name} {m : ScopedModule} (hm : m ∈ dependentModules sources depth primary specId) :
    m.level.is .direct = decide (m.path.length ≤ 1) := by
  rw [dependentModules_eq] at hm
  obtain ⟨entry, hentry, rfl⟩ := List.mem_map.mp hm
  dsimp only
  rw [length_path_of_moduleEntry hentry]
  exact is_direct_levelOf entry.2

theorem is_direct_of_mem_affectedFiles {sources : Sources} {reach : Reach} {primary : List Name}
    {f : ScopedFile} (hf : f ∈ affectedFiles sources reach primary) :
    f.level.is .direct = decide (f.path.length ≤ 1) := by
  rw [affectedFiles_eq] at hf
  split at hf
  next =>
    obtain ⟨entry, hentry, rfl⟩ := List.mem_map.mp hf
    dsimp only
    rw [length_path_of_fileEntry hentry]
    exact is_direct_levelOf entry.2
  next => cases hf

end Expansion

/-! ## Scopes -/

/-- Two reaches that make the same expansions, the first one at most as deep. -/
structure Reach.IsCutOf (reach wider : Reach) : Prop where
  depth : reach.depth ≤ wider.depth
  imports : reach.expandImports = wider.expandImports
  flows : reach.expandDataFlows = wider.expandDataFlows

theorem Reach.IsCutOf.isWithin {reach wider : Reach} (h : reach.IsCutOf wider) :
    reach.IsWithin wider :=
  ⟨h.depth, fun himports => h.imports ▸ himports, fun hflows => h.flows ▸ hflows⟩

/-- Without indirect results an expansion goes one step, if it goes anywhere. -/
theorem Reach.depth_eq_one {reach : Reach} (hindirect : reach.includeIndirect = false)
    (hdepth : 1 ≤ reach.maxDepth) : reach.depth = 1 := by
  unfold Reach.depth
  rw [hindirect, if_neg Bool.false_ne_true]
  omega

namespace Scope

/-- The scope is what the full one has within a depth: the same primary modules, primary files and
entities, and of the dependent modules and affected files the first ones, which are those with a way no
longer than the depth. -/
structure Cuts (depth : Nat) (scope full : Scope) : Prop where
  primaryModules : scope.primaryModules = full.primaryModules
  primaryFiles : scope.primaryFiles = full.primaryFiles
  affectedEntities : scope.affectedEntities = full.affectedEntities
  modules_first : scope.dependentModules <+: full.dependentModules
  modules_within : scope.dependentModules =
    full.dependentModules.filter fun m => m.path.length ≤ depth
  files_first : scope.affectedFiles <+: full.affectedFiles
  files_within : scope.affectedFiles = full.affectedFiles.filter fun f => f.path.length ≤ depth

/-- The scope has of the dependent modules and affected files of the full one those that are affected
directly. -/
structure HasDirect (scope full : Scope) : Prop where
  modules : scope.dependentModules = full.dependentModules.filter fun m => m.level.is .direct
  files : scope.affectedFiles = full.affectedFiles.filter fun f => f.level.is .direct

theorem affectedEntities_eq (sources : Sources) {reach wider : Reach}
    (h : reach.expandDataFlows = wider.expandDataFlows) (entities : List Name) :
    Expansion.affectedEntities sources reach entities =
      Expansion.affectedEntities sources wider entities := by
  unfold Expansion.affectedEntities
  rw [h]

/-- **A depth cuts a scope.** Two reaches that differ in their depth alone give the same scope up to
the smaller depth; in particular one without indirect results gives the direct entries. -/
theorem detect_cuts (sources : Sources) {reach wider : Reach} (h : reach.IsCutOf wider)
    (change : Change) (parsed : Parsed) :
    (detect sources reach change parsed).Cuts reach.depth (detect sources wider change parsed) ∧
      (reach.includeIndirect = false → 1 ≤ reach.maxDepth →
        (detect sources reach change parsed).HasDirect (detect sources wider change parsed)) := by
  have hbegins := detect_begins sources h.isWithin change parsed
  have hcuts : (detect sources reach change parsed).Cuts reach.depth
      (detect sources wider change parsed) :=
    ⟨hbegins.primaryModules, hbegins.primaryFiles, affectedEntities_eq sources h.flows _,
      hbegins.dependentModules, Expansion.dependentModules_cut sources h.depth _ _,
      hbegins.affectedFiles, Expansion.affectedFiles_cut sources h.imports h.depth _⟩
  refine ⟨hcuts, fun hindirect hdepth => ?_⟩
  rw [Reach.depth_eq_one hindirect hdepth] at hcuts
  constructor
  · refine hcuts.modules_within.trans (List.filter_congr fun m hm => ?_)
    exact (Expansion.is_direct_of_mem_dependentModules hm).symm
  · refine hcuts.files_within.trans (List.filter_congr fun f hf => ?_)
    exact (Expansion.is_direct_of_mem_affectedFiles hf).symm

/-- A project with two modules in a row behind `orders`, one of them also behind what a specification
depends on, and with two files in a row behind `orders.py`. -/
def depot : Knowledge where
  modules := [⟨"orders", "Orders", .arr []⟩, ⟨"billing", "Billing", .arr []⟩,
    ⟨"audit", "Audit", .arr []⟩, ⟨"mail", "Mail", .arr []⟩]
  links := [⟨"billing", "orders", "uses"⟩, ⟨"audit", "billing", "calls"⟩,
    ⟨"mail", "audit", "depends_on"⟩]
  specs := []
  specDependencies := [("S-1", [⟨"S-2", "mail", "depends_on"⟩])]
  imports := [("invoice.py", ["tables.py"]), ("tables.py", ["orders.py"])]
  flows := []

theorem detect_cuts_depot :
    (Reach.mk 2 false true true).IsCutOf .standard ∧
    (detect (.all depot) ⟨2, false, true, true⟩ ⟨"", ["orders"], ["orders.py"], "S-1", none⟩
      ⟨[], [], [], .feature, .ofNat 0⟩).Cuts 1
        (detect (.all depot) .standard ⟨"", ["orders"], ["orders.py"], "S-1", none⟩
          ⟨[], [], [], .feature, .ofNat 0⟩) ∧
    (detect (.all depot) ⟨2, false, true, true⟩ ⟨"", ["orders"], ["orders.py"], "S-1", none⟩
      ⟨[], [], [], .feature, .ofNat 0⟩).HasDirect
        (detect (.all depot) .standard ⟨"", ["orders"], ["orders.py"], "S-1", none⟩
          ⟨[], [], [], .feature, .ofNat 0⟩) ∧
    (detect (.all depot) .standard ⟨"", ["orders"], ["orders.py"], "S-1", none⟩
      ⟨[], [], [], .feature, .ofNat 0⟩).dependentModules.map (fun m => (m.moduleId, m.path)) =
      [(.str "mail", [.str "spec:S-1"]), (.str "billing", [.str "orders"]),
        (.str "audit", [.str "spec:S-1", .str "mail"])] := by
  have hcut : (Reach.mk 2 false true true).IsCutOf .standard := ⟨by decide, rfl, rfl⟩
  obtain ⟨hcuts, hdirect⟩ := detect_cuts (.all depot) hcut
    ⟨"", ["orders"], ["orders.py"], "S-1", none⟩ ⟨[], [], [], .feature, .ofNat 0⟩
  exact ⟨hcut, hcuts, hdirect rfl (by decide), by decide +kernel⟩

end Scope

end ChangeImpact

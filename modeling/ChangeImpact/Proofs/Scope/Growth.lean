import Mathlib.Data.List.Infix
import ChangeImpact.Proofs.Checked
import ChangeImpact.Proofs.Distinct
import ChangeImpact.Proofs.Scope.Layers
import ChangeImpact.Scope.Detection

/-!
# Reaching further

A `Reach` is wider than another one if it goes at least as deep and leaves out no expansion that
the other one makes. A wider reach only adds to a scope, and only at the end of its lists:

> `detect_begins`: the modules, files and entities found within a reach are the first ones of those
> found within a wider one; the primary ones stay the same.

For modules and files that is so because the layers do not depend on the bound (`layers_take`), for
entities because a name is kept where it occurs first.
-/

namespace ChangeImpact

/-! ## Reaches -/

/-- The reach goes no deeper than the other one and makes no expansion that the other one leaves
out. -/
structure Reach.IsWithin (reach wider : Reach) : Prop where
  depth : reach.depth ≤ wider.depth
  imports : reach.expandImports = true → wider.expandImports = true
  flows : reach.expandDataFlows = true → wider.expandDataFlows = true

namespace Expansion

open Traversal (numbered numberedFrom_append)

theorem numbered_isPrefix {β : Type} {layers more : List (List β)} (h : layers <+: more) :
    numbered layers <+: numbered more := by
  obtain ⟨rest, rfl⟩ := h
  rw [numbered, numbered, numberedFrom_append]
  exact List.prefix_append _ _

variable {reach wider : Reach}

theorem dependentModules_isPrefix (sources : Sources) (h : reach.IsWithin wider)
    (primary : List Name) (specId : Name) :
    dependentModules sources reach.depth primary specId <+:
      dependentModules sources wider.depth primary specId := by
  rw [dependentModules_eq, dependentModules_eq]
  unfold moduleLayers
  dsimp only
  rw [Traversal.layers_take _ h.depth]
  exact (numbered_isPrefix (List.take_prefix _ _)).map _

theorem affectedFiles_isPrefix (sources : Sources) (h : reach.IsWithin wider)
    (primary : List Name) :
    affectedFiles sources reach primary <+: affectedFiles sources wider primary := by
  rw [affectedFiles_eq, affectedFiles_eq]
  split
  next himports hsource =>
    rw [h.imports himports, hsource]
    unfold fileLayers
    dsimp only
    rw [Traversal.layers_take _ h.depth]
    exact (numbered_isPrefix (List.take_prefix _ _)).map _
  next => exact List.nil_prefix

theorem affectedEntities_isPrefix (sources : Sources) (h : reach.IsWithin wider)
    (entities : List Name) :
    affectedEntities sources reach entities <+: affectedEntities sources wider entities := by
  unfold affectedEntities
  refine eraseDups_isPrefix (List.IsPrefix.filter _ ((List.prefix_append_right_inj entities).mpr ?_))
  split
  next hflows hsource =>
    rewrite [h.flows hflows, hsource]
    exact List.prefix_refl _
  next => exact List.nil_prefix

end Expansion

namespace Scope

/-- The scope is the beginning of the other one: it has the same primary modules and files, and of
everything else the first ones. -/
structure Begins (scope more : Scope) : Prop where
  primaryModules : scope.primaryModules = more.primaryModules
  primaryFiles : scope.primaryFiles = more.primaryFiles
  dependentModules : scope.dependentModules <+: more.dependentModules
  affectedFiles : scope.affectedFiles <+: more.affectedFiles
  affectedEntities : scope.affectedEntities <+: more.affectedEntities

/-- **A wider reach only adds to a scope.** -/
theorem detect_begins (sources : Sources) {reach wider : Reach} (h : reach.IsWithin wider)
    (change : Change) (parsed : Parsed) :
    (detect sources reach change parsed).Begins (detect sources wider change parsed) :=
  ⟨rfl, rfl, Expansion.dependentModules_isPrefix sources h _ _,
    Expansion.affectedFiles_isPrefix sources h _, Expansion.affectedEntities_isPrefix sources h _⟩

/-- A checked detection gives the scope of the change that the record describes, or faults. -/
theorem eq_detect_of_detectChecked {sources : Sources} {reach : Checked Reach}
    {change parsed : Json} {scope : Scope}
    (h : detectChecked sources reach change parsed = .ok scope) :
    ∃ r, reach = .ok r ∧
      scope = detect sources r (Change.ofRecord change) (Parsed.ofRecord parsed) := by
  unfold detectChecked at h
  obtain ⟨_, -, h⟩ := Checked.bind_eq_ok.mp h
  dsimp only at h
  -- whether or not modules are guessed, what follows is the same
  have hrest : (do
      let r ← reach
      let found := detect sources r (Change.ofRecord change) (Parsed.ofRecord parsed)
      checkModules sources r (Change.ofRecord change).specId found
      checkFiles sources r found
      checkEntities sources r parsed
      return found) = .ok scope := by
    split at h
    next =>
      obtain ⟨_, -, h⟩ := Checked.bind_eq_ok.mp h
      exact h
    next => exact h
  obtain ⟨r, hr, hrest⟩ := Checked.bind_eq_ok.mp hrest
  obtain ⟨_, -, hrest⟩ := Checked.bind_eq_ok.mp hrest
  obtain ⟨_, -, hrest⟩ := Checked.bind_eq_ok.mp hrest
  obtain ⟨_, -, hrest⟩ := Checked.bind_eq_ok.mp hrest
  exact ⟨r, hr, (Checked.pure_eq_ok.mp hrest).symm⟩

end Scope

end ChangeImpact

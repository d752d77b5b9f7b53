import ChangeImpact.Proofs.Knowledge.Graph
import ChangeImpact.Proofs.Scope.Layers
import ChangeImpact.Scope.Detection

/-!
# The modules that depend on a change

A change starts from its primary modules, which are at no distance, and from the known modules
that its specification depends on, which are one step away. From there an impact spreads along
the module graph. The dependent modules of a scope are exactly the modules within its depth:

> `detect_coversModules`: every module that is at least one step and at most `depth` steps
> away, once each, closest first, with the level that its distance gives.

The expansion drops links without a name before it looks, drops unknown modules after it has seen
them, and meets the dependencies of the specification before any link of a primary module.
`charts_modules` says that none of this changes what the graph is; the rest is the exploration of
that graph.
-/

namespace ChangeImpact

open Traversal

namespace Knowledge

/-- Where the impact of a change starts: at its primary modules, and one step on at the known
modules that its specification, if there is one, depends on. -/
def Seed (k : Knowledge) (primary : List Name) (specId : Name) : Nat → Name → Prop
  | 0, id => id ∈ primary
  | 1, id => k.Knows id ∧ specId.truthy = true ∧
      ∃ dep ∈ k.dependenciesOf specId, dep.moduleId = id
  | _ + 2, _ => False

/-- How many steps a module is away from a change with those primary modules and that
specification, at least. -/
def Distance (k : Knowledge) (primary : List Name) (specId : Name) (n : Nat) (id : Name) : Prop :=
  AtDistance (k.Seed primary specId) k.Spreads n id

/-- What is met after at least one step is known. -/
theorem knows_of_reached {k : Knowledge} {primary : List Name} {specId : Name} {n : Nat}
    {id : Name} (h : Reached (k.Seed primary specId) k.Spreads (n + 1) id) : k.Knows id := by
  cases h with
  | seed hs =>
    cases n with
    | zero => exact hs.1
    | succ n => exact hs.elim
  | step _ hstep => exact hstep.1

end Knowledge

namespace Expansion

variable {k : Knowledge}

/-- A step over the modules leads where an impact spreads. -/
theorem exists_mem_moduleSteps_iff (ht : k.TextIds) (visit : Visit Name Approach) {id : Name}
    (hknown : (moduleTerrain (some k)).known id = true) :
    (∃ next ∈ (moduleTerrain (some k)).steps visit, next.node = id) ↔ k.Spreads visit.node id := by
  show (∃ next ∈ ((linkedModules k visit.node).filter fun next => next.1.truthy).map (stepTo visit),
    next.node = id) ↔ _
  constructor
  · intro hgiven
    obtain ⟨next, hnext, rfl⟩ := hgiven
    obtain ⟨link, hlink, rfl⟩ := List.mem_map.mp hnext
    obtain ⟨hlink, htruthy⟩ := List.mem_filter.mp hlink
    exact (Knowledge.exists_mem_linkedModules_iff ht ⟨htruthy, hknown⟩).mp ⟨link, hlink, rfl⟩
  · intro hspreads
    obtain ⟨link, hlink, rfl⟩ :=
      (Knowledge.exists_mem_linkedModules_iff ht hspreads.1).mpr hspreads
    have hkept := (List.mem_filter (p := fun next => next.1.truthy)).mpr ⟨hlink, hspreads.1.1⟩
    exact ⟨stepTo visit link, List.mem_map_of_mem hkept, rfl⟩

/-- The known modules of what a specification depends on are one step away. -/
theorem exists_mem_specModules_iff {primary : List Name} {specId id : Name}
    (hknown : (moduleTerrain (some k)).known id = true) :
    (∃ visit ∈ specModules (some k) specId, visit.node = id) ↔ k.Seed primary specId 1 id := by
  unfold specModules Knowledge.Seed
  dsimp only
  split
  next hspec =>
    constructor
    · intro hgiven
      obtain ⟨visit, hvisit, rfl⟩ := hgiven
      obtain ⟨dep, hdep, rfl⟩ := List.mem_map.mp hvisit
      obtain ⟨hdep, htruthy⟩ := List.mem_filter.mp hdep
      exact ⟨⟨htruthy, hknown⟩, hspec, dep, hdep, rfl⟩
    · intro hgiven
      obtain ⟨hknows, -, dep, hdep, rfl⟩ := hgiven
      have hkept := (List.mem_filter (p := fun dep => dep.moduleId.truthy)).mpr ⟨hdep, hknows.1⟩
      exact ⟨_, List.mem_map_of_mem hkept, rfl⟩
  -- a change without a specification names no modules
  next hspec =>
    constructor
    · intro hgiven
      obtain ⟨visit, hvisit, -⟩ := hgiven
      cases hvisit
    · intro hgiven
      obtain ⟨-, htrue, -⟩ := hgiven
      exact absurd htrue hspec

/-- The expansion over modules explores the module graph. -/
theorem charts_modules (ht : k.TextIds) (primary : List Name) (specId : Name) :
    Charts (moduleTerrain (some k)) primary
      (specModules (some k) specId ++ (startAt primary).flatMap (moduleTerrain (some k)).steps)
      (k.Seed primary specId) k.Spreads := by
  refine ⟨fun _ => Iff.rfl, ?_, fun visit _ => exists_mem_moduleSteps_iff ht visit,
    fun _ _ h => h, ?_, ?_⟩
  · intro id hknown
    -- what is met first comes from the specification or is one step from a primary module
    constructor
    · intro hgiven
      obtain ⟨visit, hvisit, rfl⟩ := hgiven
      rcases List.mem_append.mp hvisit with hspec | hsteps
      · exact Or.inl ((exists_mem_specModules_iff hknown).mp ⟨visit, hspec, rfl⟩)
      · obtain ⟨from', hfrom, hstep⟩ := List.mem_flatMap.mp hsteps
        obtain ⟨start, hstart, rfl⟩ := List.mem_map.mp hfrom
        exact Or.inr ⟨start, hstart,
          (exists_mem_moduleSteps_iff ht _ hknown).mp ⟨visit, hstep, rfl⟩⟩
    · intro hgiven
      rcases hgiven with hseed | ⟨start, hstart, hspreads⟩
      · obtain ⟨visit, hvisit, rfl⟩ := (exists_mem_specModules_iff hknown).mpr hseed
        exact ⟨visit, List.mem_append_left _ hvisit, rfl⟩
      · obtain ⟨visit, hvisit, rfl⟩ :=
          (exists_mem_moduleSteps_iff ht ⟨start, ⟨[], "primary"⟩⟩ hknown).mpr hspreads
        exact ⟨visit, List.mem_append_right _
          (List.mem_flatMap.mpr ⟨_, List.mem_map_of_mem hstart, hvisit⟩), rfl⟩
  · intro n id h
    exact (Knowledge.knows_of_reached h).2
  · intro n id h other
    exact (ht.isText (Knowledge.knows_of_reached h).2).eq_of_beq

/-- An entry stands in the numbered layers under `n` exactly if its node is at distance `n + 1`. -/
theorem exists_mem_numbered_iff (ht : k.TextIds) {sources : Sources}
    (hmodules : sources.modules = some k) (hspecs : sources.specs = some k) {depth n : Nat}
    {primary : List Name} {specId id : Name} :
    (∃ visit, (visit, n) ∈ numbered (moduleLayers sources depth primary specId) ∧
        visit.node = id) ↔
      n < depth ∧ k.Distance primary specId (n + 1) id := by
  unfold moduleLayers Knowledge.Distance
  rw [hmodules, hspecs]
  exact exists_mem_numbered_layers_iff (charts_modules ht primary specId)

/-- Every dependent module is as far away as its level says, and not too far. -/
theorem distance_of_mem_dependentModules (ht : k.TextIds) {sources : Sources}
    (hmodules : sources.modules = some k) (hspecs : sources.specs = some k) {depth : Nat}
    {primary : List Name} {specId : Name} {m : ScopedModule}
    (hm : m ∈ dependentModules sources depth primary specId) :
    ∃ n, n < depth ∧ k.Distance primary specId (n + 1) m.moduleId ∧
      m.level = .known (levelOf (n + 1)) := by
  rw [dependentModules_eq] at hm
  obtain ⟨⟨visit, n⟩, hvisit, rfl⟩ := List.mem_map.mp hm
  obtain ⟨hn, hdist⟩ := (exists_mem_numbered_iff ht hmodules hspecs).mp ⟨visit, hvisit, rfl⟩
  exact ⟨n, hn, hdist, rfl⟩

/-- Every module that is not too far away is a dependent module. -/
theorem exists_mem_dependentModules (ht : k.TextIds) {sources : Sources}
    (hmodules : sources.modules = some k) (hspecs : sources.specs = some k) {depth n : Nat}
    {primary : List Name} {specId id : Name} (hn : n < depth)
    (hdist : k.Distance primary specId (n + 1) id) :
    ∃ m ∈ dependentModules sources depth primary specId, m.moduleId = id := by
  obtain ⟨visit, hvisit, rfl⟩ := (exists_mem_numbered_iff ht hmodules hspecs).mpr ⟨hn, hdist⟩
  rw [dependentModules_eq]
  exact ⟨_, List.mem_map_of_mem hvisit, rfl⟩

/-- The dependent modules stand in the order of the layers. -/
theorem dependentModules_ids (sources : Sources) (depth : Nat) (primary : List Name)
    (specId : Name) : (dependentModules sources depth primary specId).map ScopedModule.moduleId =
      (moduleLayers sources depth primary specId).flatten.map Visit.node := by
  rw [dependentModules_eq, ← numberedFrom_map_fst 0, List.map_map, List.map_map]
  rfl

/-- No two modules are one under comparison, whatever is known about the modules. -/
theorem dependentModules_distinct (sources : Sources) (depth : Nat) (primary : List Name)
    (specId : Name) : (dependentModules sources depth primary specId).Pairwise fun a b =>
      (b.moduleId == a.moduleId) = false := by
  have h : ((dependentModules sources depth primary specId).map ScopedModule.moduleId).Pairwise
      fun a b => (b == a) = false := by
    rw [dependentModules_ids]
    exact List.pairwise_map.mpr (layers_fresh _ depth primary _).2
  exact List.pairwise_map.mp h

/-- No module is listed twice, whatever is known about the modules. -/
theorem dependentModules_nodup (sources : Sources) (depth : Nat) (primary : List Name)
    (specId : Name) :
    ((dependentModules sources depth primary specId).map ScopedModule.moduleId).Nodup := by
  refine List.pairwise_map.mpr ((dependentModules_distinct ..).imp ?_)
  intro a b hne heq
  rw [heq, BEq.rfl] at hne
  cases hne

/-- No dependent module is one that the expansion starts from. -/
theorem not_primary_of_mem_dependentModules {sources : Sources} {depth : Nat} {primary : List Name}
    {specId : Name} {m : ScopedModule} (hm : m ∈ dependentModules sources depth primary specId) :
    primary.contains m.moduleId = false := by
  have hid := List.mem_map_of_mem (f := ScopedModule.moduleId) hm
  rw [dependentModules_ids] at hid
  obtain ⟨visit, hvisit, hnode⟩ := List.mem_map.mp hid
  rw [← hnode]
  exact (layers_fresh _ depth primary _).1 visit hvisit

/-- The dependent modules are listed closest first. -/
theorem dependentModules_sorted (ht : k.TextIds) {sources : Sources}
    (hmodules : sources.modules = some k) (hspecs : sources.specs = some k) (depth : Nat)
    (primary : List Name) (specId : Name) :
    (dependentModules sources depth primary specId).Pairwise fun a b => ∀ i j,
      k.Distance primary specId i a.moduleId → k.Distance primary specId j b.moduleId → i ≤ j := by
  rw [dependentModules_eq]
  refine List.pairwise_map.mpr ((numberedFrom_sorted 0 _).imp_of_mem ?_)
  intro visit other ha hb hmn i j hi hj
  obtain ⟨a, m⟩ := visit
  obtain ⟨b, n⟩ := other
  have hia := ((exists_mem_numbered_iff ht hmodules hspecs).mp ⟨a, ha, rfl⟩).2
  have hjb := ((exists_mem_numbered_iff ht hmodules hspecs).mp ⟨b, hb, rfl⟩).2
  rw [hi.eq hia, hj.eq hjb]
  exact Nat.succ_le_succ hmn

end Expansion

/-! ## Scopes -/

namespace Scope

/-- The dependent modules of a scope are the modules at most `depth` steps away from its primary
modules and the specification: all of them, nothing else, once each, closest first and with the
level that their distance gives. -/
structure CoversModules (k : Knowledge) (depth : Nat) (specId : Name) (scope : Scope) : Prop where
  exact_ids : ∀ id, id ∈ scope.dependentModules.map ScopedModule.moduleId ↔
    id ∉ scope.primaryModules ∧
      ∃ n, k.Distance scope.primaryModules specId n id ∧ 1 ≤ n ∧ n ≤ depth
  once : (scope.dependentModules.map ScopedModule.moduleId).Nodup
  closest_first : scope.dependentModules.Pairwise fun a b => ∀ i j,
    k.Distance scope.primaryModules specId i a.moduleId →
      k.Distance scope.primaryModules specId j b.moduleId → i ≤ j
  levels : ∀ m ∈ scope.dependentModules, m.level = .known .direct ∨ m.level = .known .indirect
  direct_iff : ∀ m ∈ scope.dependentModules,
    m.level = .known .direct ↔ k.Distance scope.primaryModules specId 1 m.moduleId

/-- **Dependent modules are those within reach.** With one project as what is known of modules and
specifications, the scope of any change covers the modules within its depth. -/
theorem detect_coversModules {k : Knowledge} (ht : k.TextIds) (imports flows : Option Knowledge)
    (reach : Reach) (change : Change) (parsed : Parsed) :
    (detect ⟨some k, some k, imports, flows⟩ reach change parsed).CoversModules k reach.depth
      change.specId := by
  have hmodules : (⟨some k, some k, imports, flows⟩ : Sources).modules = some k := rfl
  have hspecs : (⟨some k, some k, imports, flows⟩ : Sources).specs = some k := rfl
  refine ⟨?_, Expansion.dependentModules_nodup ..,
    Expansion.dependentModules_sorted ht hmodules hspecs .., ?_, ?_⟩
  · intro id
    constructor
    · intro hid
      obtain ⟨m, hm, rfl⟩ := List.mem_map.mp hid
      obtain ⟨n, hn, hdist, -⟩ := Expansion.distance_of_mem_dependentModules ht hmodules hspecs hm
      -- a primary module is at distance zero, and distances are unique
      refine ⟨fun hprimary => ?_, n + 1, hdist, by omega, hn⟩
      have := hdist.eq (atDistance_zero.mpr hprimary)
      omega
    · intro hgiven
      obtain ⟨-, n, hdist, hpos, hn⟩ := hgiven
      obtain ⟨n, rfl⟩ : ∃ j, n = j + 1 := ⟨n - 1, by omega⟩
      obtain ⟨m, hm, rfl⟩ := Expansion.exists_mem_dependentModules ht hmodules hspecs hn hdist
      exact List.mem_map_of_mem hm
  · intro m hm
    obtain ⟨n, -, -, hlevel⟩ := Expansion.distance_of_mem_dependentModules ht hmodules hspecs hm
    rw [hlevel]
    unfold Expansion.levelOf
    split
    · exact Or.inl rfl
    · exact Or.inr rfl
  · intro m hm
    obtain ⟨n, -, hdist, hlevel⟩ := Expansion.distance_of_mem_dependentModules ht hmodules hspecs hm
    rw [hlevel, Tag.known.injEq, Expansion.levelOf_eq_direct]
    constructor
    · intro hn
      rw [hn] at hdist
      exact hdist
    · intro hone
      exact Nat.succ.inj (hdist.eq hone)

/-- A project in which the impact on `orders` comes back to it, with a link from a module that is
not known and a specification that depends on `mail`. -/
def shop : Knowledge where
  modules := [⟨"orders", "Orders", .arr []⟩, ⟨"billing", "Billing", .arr []⟩,
    ⟨"audit", "Audit", .arr []⟩, ⟨"mail", "Mail", .arr []⟩]
  links := [⟨"ghost", "orders", "calls"⟩, ⟨"billing", "orders", "uses"⟩,
    ⟨"audit", "billing", "calls"⟩, ⟨"orders", "audit", "uses"⟩]
  specs := []
  specDependencies := [("S-1", [⟨"S-2", "mail", "depends_on"⟩])]
  imports := []
  flows := []

theorem detect_coversModules_shop :
    shop.TextIds ∧
    (detect ⟨some shop, some shop, none, none⟩ .standard ⟨"", ["orders"], [], "S-1", none⟩
      ⟨[], [], [], .feature, .ofNat 0⟩).CoversModules shop 3 "S-1" ∧
    (detect ⟨some shop, some shop, none, none⟩ .standard ⟨"", ["orders"], [], "S-1", none⟩
      ⟨[], [], [], .feature, .ofNat 0⟩).dependentModules.map ScopedModule.moduleId =
        ["mail", "billing", "audit"] := by
  have hids : shop.TextIds := by
    refine ⟨?_, ?_⟩
    · simp [shop, Json.isText_str]
    · simp [shop, Json.isText_str]
  refine ⟨hids, ?_, by decide +kernel⟩
  exact detect_coversModules hids none none .standard ⟨"", ["orders"], [], "S-1", none⟩
    ⟨[], [], [], .feature, .ofNat 0⟩

end Scope

end ChangeImpact

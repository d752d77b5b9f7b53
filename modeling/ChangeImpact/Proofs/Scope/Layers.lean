import ChangeImpact.Proofs.Traversal.Distance
import ChangeImpact.Scope.Expansion

/-!
# The layers of an expansion

What an expansion visits beyond its start are the layers around it, put into one list in which each
entry has the number of its layer (`beyond_explore`). That number is the distance of the entry less one,
and the numbers never decrease along the list. The level of an entry says whether its number is zero.

> `dependentModules_eq`, `affectedFiles_eq`: what is found, read off the layers.

With its node an entry remembers the way to it. `Extends` says of a terrain that each step makes the
way longer by where it is made from; then the way of an entry is as long as its layer is deep
(`length_path_of_mem`), and whatever it passes through stands in an earlier layer
(`exists_earlier_of_mem_layer`).
-/

namespace ChangeImpact.Expansion

open Traversal

variable {β : Type}

/-- The layers of modules around the modules of a change. -/
def moduleLayers (sources : Sources) (depth : Nat) (primary : List Name) (specId : Name) :
    List (List (Visit Name Approach)) :=
  let terrain := moduleTerrain sources.modules
  layers terrain depth primary
    (specModules sources.specs specId ++ (startAt primary).flatMap terrain.steps)

/-- The layers of files around the files of a change. -/
def fileLayers (knowledge : Knowledge) (depth : Nat) (primary : List Name) :
    List (List (Visit Name Approach)) :=
  let terrain := fileTerrain knowledge
  layers terrain depth primary ((startAt primary).flatMap terrain.steps)

theorem map_node_startAt (nodes : List Name) : (startAt nodes).map Visit.node = nodes := by
  unfold startAt
  rw [List.map_map]
  exact List.map_id nodes

/-- Beyond its start a search visits the layers, the first of which is one step away. -/
theorem beyond_explore (terrain : Terrain Name Approach) (depth : Nat) (primary : List Name)
    (named : List (Visit Name Approach)) : beyond (explore terrain depth (startAt primary) named) =
      (numbered (layers terrain depth primary (named ++ (startAt primary).flatMap terrain.steps))).map
        fun entry => (entry.1, entry.2 + 1) := by
  have hstart : (atDepth 0 (startAt primary)).filter (fun entry => 0 < entry.2) = [] :=
    List.filter_eq_nil_iff.mpr fun entry hentry => by simp [(mem_atDepth.mp hentry).2]
  unfold beyond
  rw [explore_eq, map_node_startAt, List.filter_append, hstart, List.nil_append, numbered, ← numberedFrom_add]
  exact List.filter_eq_self.mpr fun entry hentry => decide_eq_true (first_le_of_mem hentry)

theorem dependentModules_eq (sources : Sources) (depth : Nat) (primary : List Name) (specId : Name) :
    dependentModules sources depth primary specId =
      (numbered (moduleLayers sources depth primary specId)).map fun entry =>
        { moduleId := entry.1.node
          moduleName := moduleNameOf sources.modules entry.1.node
          level := .known (levelOf (entry.2 + 1))
          path := entry.1.note.path
          reason := entry.1.note.reason } := by
  unfold dependentModules
  dsimp only
  rw [beyond_explore, List.map_map]
  rfl

theorem affectedFiles_eq (sources : Sources) (reach : Reach) (primary : List Name) :
    affectedFiles sources reach primary =
      match reach.expandImports, sources.imports with
      | true, some knowledge =>
        (numbered (fileLayers knowledge reach.depth primary)).map fun entry =>
          { filePath := entry.1.node
            level := .known (levelOf (entry.2 + 1))
            moduleId := ownerId sources.modules entry.1.node
            path := entry.1.note.path
            reason := entry.1.note.reason }
      | _, _ => [] := by
  unfold affectedFiles
  cases reach.expandImports with
  | false => rfl
  | true =>
    cases sources.imports with
    | none => rfl
    | some knowledge =>
      dsimp only
      rw [beyond_explore, List.map_map]
      rfl

theorem levelOf_eq_direct {n : Nat} : levelOf (n + 1) = .direct ↔ n = 0 := by
  unfold levelOf
  split
  next h => exact iff_of_true rfl (Nat.succ.inj h)
  next h => exact iff_of_false (fun heq => by cases heq) fun hzero => h (congrArg Nat.succ hzero)

/-! ## Ways -/

/-- Every step makes the way longer by the node that it is made from. -/
def Extends (terrain : Terrain Name Approach) : Prop :=
  ∀ visit, ∀ next ∈ terrain.steps visit, next.note.path = visit.note.path ++ [visit.node]

theorem extends_moduleTerrain (modules : Option Knowledge) : Extends (moduleTerrain modules) := by
  intro visit next hnext
  cases modules with
  | none => cases hnext
  | some knowledge =>
    obtain ⟨link, -, rfl⟩ := List.mem_map.mp hnext
    rfl

theorem extends_fileTerrain (knowledge : Knowledge) : Extends (fileTerrain knowledge) := by
  intro visit next hnext
  obtain ⟨file, -, rfl⟩ := List.mem_map.mp hnext
  rfl

/-- One step away from the start the way has one part. -/
theorem length_path_of_start {terrain : Terrain Name Approach} (h : Extends terrain)
    {primary : List Name} {visit : Visit Name Approach}
    (hvisit : visit ∈ (startAt primary).flatMap terrain.steps) : visit.note.path.length = 1 := by
  obtain ⟨start, hstart, hstep⟩ := List.mem_flatMap.mp hvisit
  obtain ⟨node, -, rfl⟩ := List.mem_map.mp hstart
  rw [h _ visit hstep]
  rfl

/-- What a specification depends on is one step away. -/
theorem length_path_of_spec {specs : Option Knowledge} {specId : Name} {visit : Visit Name Approach}
    (hvisit : visit ∈ specModules specs specId) : visit.note.path.length = 1 := by
  unfold specModules at hvisit
  split at hvisit
  next => cases hvisit
  next =>
    split at hvisit
    next =>
      obtain ⟨dep, -, rfl⟩ := List.mem_map.mp hvisit
      rfl
    next => cases hvisit

/-- The modules that are met first are one step away. -/
theorem length_path_of_firstModule {modules specs : Option Knowledge} {primary : List Name}
    {specId : Name} {visit : Visit Name Approach}
    (hvisit : visit ∈ specModules specs specId ++
      (startAt primary).flatMap (moduleTerrain modules).steps) : visit.note.path.length = 1 := by
  rcases List.mem_append.mp hvisit with hspec | hstart
  · exact length_path_of_spec hspec
  · exact length_path_of_start (extends_moduleTerrain modules) hstart

/-- The way of an entry is as long as its layer is deep. -/
theorem length_path_of_mem {terrain : Terrain Name Approach} (h : Extends terrain) {depth : Nat}
    {seen : List Name} {met : List (Visit Name Approach)}
    (hmet : ∀ visit ∈ met, visit.note.path.length = 1) {entry : Visit Name Approach × Nat}
    (hentry : entry ∈ numbered (layers terrain depth seen met)) :
    entry.1.note.path.length = entry.2 + 1 := by
  obtain ⟨layer, hlayer, hvisit⟩ := mem_numbered.mp hentry
  have hlength := layers_note (P := fun n visit => visit.note.path.length = n) (i := 1) ?_ depth hmet
    entry.2 layer hlayer entry.1 hvisit
  · rw [hlength, Nat.add_comm]
  · intro n visit hlength next hnext
    rw [h visit next hnext, List.length_append, hlength]
    rfl

theorem length_path_of_moduleEntry {sources : Sources} {depth : Nat} {primary : List Name}
    {specId : Name} {entry : Visit Name Approach × Nat}
    (hentry : entry ∈ numbered (moduleLayers sources depth primary specId)) :
    entry.1.note.path.length = entry.2 + 1 :=
  length_path_of_mem (extends_moduleTerrain sources.modules)
    (fun _ hvisit => length_path_of_firstModule hvisit) hentry

theorem length_path_of_fileEntry {k : Knowledge} {depth : Nat} {primary : List Name}
    {entry : Visit Name Approach × Nat} (hentry : entry ∈ numbered (fileLayers k depth primary)) :
    entry.1.note.path.length = entry.2 + 1 := by
  have hterrain := extends_fileTerrain k
  exact length_path_of_mem hterrain (fun visit hvisit => length_path_of_start hterrain hvisit) hentry

/-- Whatever a way passes through was found before, by the part of the way that leads there. -/
theorem exists_earlier_of_mem_layer {terrain : Terrain Name Approach} (h : Extends terrain)
    {depth : Nat} {seen : List Name} {met : List (Visit Name Approach)}
    (hmet : ∀ visit ∈ met, visit.note.path.length = 1) (n : Nat) (layer : List (Visit Name Approach))
    (hlayer : (layers terrain depth seen met)[n]? = some layer) :
    ∀ visit ∈ layer, ∀ i, 0 < i → i < visit.note.path.length →
      ∃ j earlier, j < n ∧ (layers terrain depth seen met)[j]? = some earlier ∧
        ∃ other ∈ earlier, visit.note.path[i]? = some other.node ∧
          other.note.path = visit.note.path.take i := by
  induction n generalizing layer with
  | zero =>
    intro visit hvisit i hpos hi
    rw [hmet visit (mem_of_mem_firstLayer hlayer hvisit)] at hi
    omega
  | succ n ih =>
    intro visit hvisit i hpos hi
    obtain ⟨before, hbefore, last, hlast, hstep⟩ :=
      exists_step_of_mem_layer depth n layer hlayer visit hvisit
    rw [h last visit hstep] at hi ⊢
    rw [List.length_append, List.length_singleton] at hi
    rcases Nat.lt_succ_iff_lt_or_eq.mp hi with hinner | rfl
    · -- an inner part of the way belongs to the way of the last module before
      obtain ⟨j, earlier, hj, hearlier, other, hother, hnode, hpath⟩ :=
        ih before hbefore last hlast i hpos hinner
      refine ⟨j, earlier, by omega, hearlier, other, hother, ?_, ?_⟩
      · rw [List.getElem?_append_left hinner, hnode]
      · rw [List.take_append_of_le_length (Nat.le_of_lt hinner), hpath]
    · exact ⟨n, before, by omega, hbefore, last, hlast, List.getElem?_concat_length, by simp⟩

end ChangeImpact.Expansion

import Mathlib.Data.List.Chain
import ChangeImpact.Proofs.Distinct
import ChangeImpact.Proofs.Knowledge.Imports
import ChangeImpact.Proofs.Scope.Layers
import ChangeImpact.Scope.Detection

/-!
# The files next to a change

From its primary files a change affects the files that import them or are imported by them, and so
on from file to file. The affected files of a scope are exactly the files within its depth:

> `detect_coversFiles`: every file that is at least one step and at most `depth` steps away, once
> each, closest first, with the level that its distance gives, the module that owns it and a
> shortest way that leads to it.

An import without a name is left out, so no way leads through it; `detect_unnamed` shows that it would
otherwise join the files that have one.
-/

namespace ChangeImpact

open Traversal

namespace Knowledge

/-- A change starts at its primary files. -/
def FileSeed (primary : List Name) : Nat → Name → Prop
  | 0, file => file ∈ primary
  | _ + 1, _ => False

/-- How many steps from file to file a file is away from the primary ones, at least. -/
def FileDistance (step : Name → Name → Prop) (primary : List Name) (n : Nat) (file : Name) : Prop :=
  AtDistance (FileSeed primary) step n file

/-- The module is the first one that owns the path. -/
def Owner (k : Knowledge) (path : String) (m : Module) : Prop :=
  ∃ before after, k.modules = before ++ m :: after ∧ m.owns path = true ∧
    ∀ other ∈ before, other.owns path = false

/-- Where an expansion goes: from a file to an adjacent one that has a name. -/
def LeadsTo (k : Knowledge) (a b : Name) : Prop := b.truthy = true ∧ k.Adjacent a b

variable {k : Knowledge} {primary : List Name}

/-- From files that have names, an expansion goes through files that have names. -/
theorem reached_leadsTo_iff (hprimary : ∀ file ∈ primary, file.truthy = true) {n : Nat}
    {file : Name} : Reached (FileSeed primary) k.LeadsTo n file ↔
      Reached (FileSeed primary) k.AdjacentNamed n file := by
  constructor
  · intro h
    have hboth : file.truthy = true ∧ Reached (FileSeed primary) k.AdjacentNamed n file := by
      induction h with
      | @seed n file hseed =>
        cases n with
        | zero => exact ⟨hprimary file hseed, .seed hseed⟩
        | succ n => exact hseed.elim
      | step _ hstep ih => exact ⟨hstep.1, .step ih.2 ⟨ih.1, hstep⟩⟩
    exact hboth.2
  · intro h
    induction h with
    | seed hseed => exact .seed hseed
    | step _ hstep ih => exact .step ih hstep.2

/-- What is not a primary file is a text. -/
theorem isText_of_distance (hk : k.ImportMap) {n : Nat} {file : Name}
    (h : FileDistance k.AdjacentNamed primary (n + 1) file) : file.IsText := by
  obtain ⟨hreached, -⟩ := h
  cases hreached with
  | seed hseed => exact hseed.elim
  | step _ hstep => exact hk.isText hstep.2.2

theorem distance_leadsTo_iff (hprimary : ∀ file ∈ primary, file.truthy = true) {n : Nat}
    {file : Name} : FileDistance k.LeadsTo primary n file ↔
      FileDistance k.AdjacentNamed primary n file := by
  unfold FileDistance AtDistance
  simp only [reached_leadsTo_iff hprimary]

end Knowledge

namespace Expansion

open Knowledge

variable {k : Knowledge} {primary : List Name}

/-- A step over the files leads to an adjacent file that has a name. -/
theorem exists_mem_fileSteps_iff (hk : k.ImportMap) (visit : Visit Name Approach) {file : Name} :
    (∃ next ∈ (fileTerrain k).steps visit, next.node = file) ↔ k.LeadsTo visit.node file := by
  show (∃ next ∈ ((adjacentFiles k visit.node).filter fun next => next.1.truthy).map (stepTo visit),
    next.node = file) ↔ _
  unfold LeadsTo
  rw [← exists_mem_adjacentFiles_iff hk]
  constructor
  · intro hgiven
    obtain ⟨next, hnext, rfl⟩ := hgiven
    obtain ⟨found, hfound, rfl⟩ := List.mem_map.mp hnext
    obtain ⟨hfound, htruthy⟩ := List.mem_filter.mp hfound
    exact ⟨htruthy, found, hfound, rfl⟩
  · intro hgiven
    obtain ⟨htruthy, found, hfound, rfl⟩ := hgiven
    have hkept := (List.mem_filter (p := fun next => next.1.truthy)).mpr ⟨hfound, htruthy⟩
    exact ⟨stepTo visit found, List.mem_map_of_mem hkept, rfl⟩

/-- The expansion over files explores the import graph. -/
theorem charts_files (hk : k.ImportMap) (primary : List Name) :
    Charts (fileTerrain k) primary ((startAt primary).flatMap (fileTerrain k).steps)
      (FileSeed primary) k.LeadsTo := by
  refine ⟨fun _ => Iff.rfl, ?_, fun visit _ _ => exists_mem_fileSteps_iff hk visit,
    fun _ _ h => h, fun _ _ _ => rfl, ?_⟩
  · intro file _
    constructor
    · intro hgiven
      obtain ⟨visit, hvisit, rfl⟩ := hgiven
      obtain ⟨from', hfrom, hstep⟩ := List.mem_flatMap.mp hvisit
      obtain ⟨start, hstart, rfl⟩ := List.mem_map.mp hfrom
      exact Or.inr ⟨start, hstart, (exists_mem_fileSteps_iff hk _).mp ⟨visit, hstep, rfl⟩⟩
    · intro hgiven
      rcases hgiven with hseed | ⟨start, hstart, hleads⟩
      · exact hseed.elim
      · obtain ⟨visit, hvisit, rfl⟩ :=
          (exists_mem_fileSteps_iff hk ⟨start, ⟨[], "primary"⟩⟩).mpr hleads
        exact ⟨visit, List.mem_flatMap.mpr ⟨_, List.mem_map_of_mem hstart, hvisit⟩, rfl⟩
  · intro n file h other
    cases h with
    | seed hseed => exact hseed.elim
    | step _ hstep => exact (hk.isText hstep.2).eq_of_beq

/-- The way of a visit leads from a primary file to its node, in so many steps from file to file. -/
structure Leads (k : Knowledge) (primary : List Name) (steps : Nat) (visit : Visit Name Approach) :
    Prop where
  length : visit.note.path.length = steps
  start : ∃ file ∈ primary, (visit.note.path ++ [visit.node]).head? = some file
  chain : (visit.note.path ++ [visit.node]).IsChain k.AdjacentNamed
  named : visit.node.truthy = true

theorem leads_startAt (hprimary : ∀ file ∈ primary, file.truthy = true)
    {visit : Visit Name Approach} (h : visit ∈ startAt primary) : Leads k primary 0 visit := by
  obtain ⟨file, hfile, rfl⟩ := List.mem_map.mp h
  exact ⟨rfl, ⟨file, hfile, rfl⟩, List.isChain_singleton file, hprimary file hfile⟩

/-- One more step makes the way one file longer. -/
theorem Leads.next (hk : k.ImportMap) {steps : Nat} {visit next : Visit Name Approach}
    (h : Leads k primary steps visit) (hnext : next ∈ (fileTerrain k).steps visit) :
    Leads k primary (steps + 1) next := by
  have hleads : k.LeadsTo visit.node next.node :=
    (exists_mem_fileSteps_iff hk visit).mp ⟨next, hnext, rfl⟩
  obtain ⟨found, -, rfl⟩ := List.mem_map.mp hnext
  have hpath : (stepTo visit found).note.path = visit.note.path ++ [visit.node] := rfl
  obtain ⟨file, hfile, hstart⟩ := h.start
  refine ⟨?_, ⟨file, hfile, ?_⟩, ?_, hleads.1⟩
  · rw [hpath, List.length_append, h.length]
    rfl
  · rw [hpath, List.head?_append, hstart]
    rfl
  · rw [hpath]
    refine List.isChain_append.mpr ⟨h.chain, List.isChain_singleton _, ?_⟩
    intro last hlast first hfirst
    rw [List.getLast?_concat] at hlast
    cases hlast
    cases hfirst
    exact ⟨h.named, hleads.1, hleads.2⟩

/-- What stands under `n` is led to by a way of `n + 1` files. -/
theorem leads_of_mem_numbered (hk : k.ImportMap) (hprimary : ∀ file ∈ primary, file.truthy = true)
    {depth n : Nat} {visit : Visit Name Approach}
    (h : (visit, n) ∈ numbered (fileLayers k depth primary)) : Leads k primary (n + 1) visit := by
  obtain ⟨layer, hlayer, hvisit⟩ := mem_numbered.mp h
  have hfirst : ∀ visit ∈ (startAt primary).flatMap (fileTerrain k).steps,
      Leads k primary 1 visit := by
    intro visit hvisit
    obtain ⟨start, hstart, hvisit⟩ := List.mem_flatMap.mp hvisit
    exact (leads_startAt hprimary hstart).next hk hvisit
  have hall := layers_note (fun _ _ hleads _ hnext => Leads.next hk hleads hnext) depth hfirst n layer
    hlayer visit hvisit
  rwa [Nat.add_comm] at hall

/-- No file is listed twice, whatever imports what. -/
theorem affectedFiles_nodup (sources : Sources) (reach : Reach) (primary : List Name) :
    ((affectedFiles sources reach primary).map ScopedFile.filePath).Nodup := by
  rw [affectedFiles_eq]
  split
  next knowledge _ _ =>
    rw [List.map_map]
    show ((numbered (fileLayers knowledge reach.depth primary)).map (Visit.node ∘ Prod.fst)).Nodup
    rw [← List.map_map, numbered, numberedFrom_map_fst]
    refine List.pairwise_map.mpr ((layers_fresh _ reach.depth primary _).2.imp ?_)
    intro a b hne heq
    rw [heq, BEq.rfl] at hne
    cases hne
  next => exact List.nodup_nil

/-- No affected file is one that the expansion starts from. -/
theorem not_primary_of_mem_affectedFiles {sources : Sources} {reach : Reach} {primary : List Name}
    {f : ScopedFile} (hf : f ∈ affectedFiles sources reach primary) :
    primary.contains f.filePath = false := by
  rw [affectedFiles_eq] at hf
  split at hf
  next knowledge _ _ =>
    obtain ⟨⟨visit, n⟩, hvisit, rfl⟩ := List.mem_map.mp hf
    have hmem := List.mem_map_of_mem (f := Prod.fst) hvisit
    rw [numbered, numberedFrom_map_fst] at hmem
    exact (layers_fresh _ reach.depth primary _).1 visit hmem
  next => cases hf

section

variable {sources : Sources} {reach : Reach} (himports : sources.imports = some k)
  (hreach : reach.expandImports = true)

include himports hreach

theorem affectedFiles_of_imports (primary : List Name) : affectedFiles sources reach primary =
    (numbered (fileLayers k reach.depth primary)).map fun entry =>
      { filePath := entry.1.node
        level := .known (levelOf (entry.2 + 1))
        moduleId := ownerId sources.modules entry.1.node
        path := entry.1.note.path
        reason := entry.1.note.reason } := by
  rw [affectedFiles_eq, himports, hreach]

variable (hk : k.ImportMap) (hprimary : ∀ file ∈ primary, file.truthy = true)

include hk hprimary

/-- The affected files are listed closest first. -/
theorem affectedFiles_sorted : (affectedFiles sources reach primary).Pairwise fun a b => ∀ i j,
    FileDistance k.AdjacentNamed primary i a.filePath →
      FileDistance k.AdjacentNamed primary j b.filePath → i ≤ j := by
  have hdistance : ∀ visit n, (visit, n) ∈ numbered (fileLayers k reach.depth primary) →
      FileDistance k.AdjacentNamed primary (n + 1) visit.node := by
    intro visit n hvisit
    have hmem := (exists_mem_numbered_layers_iff (charts_files hk primary)).mp ⟨visit, hvisit, rfl⟩
    exact (distance_leadsTo_iff hprimary).mp hmem.2
  rw [affectedFiles_of_imports himports hreach]
  refine List.pairwise_map.mpr ((numberedFrom_sorted 0 _).imp_of_mem ?_)
  intro entry other ha hb hle i j hi hj
  rw [hi.eq (hdistance _ _ ha), hj.eq (hdistance _ _ hb)]
  exact Nat.succ_le_succ hle

/-- Every affected file is as far away as its level says and its way is long, and not too far. -/
theorem of_mem_affectedFiles {f : ScopedFile} (hf : f ∈ affectedFiles sources reach primary) :
    ∃ n, n < reach.depth ∧ FileDistance k.AdjacentNamed primary (n + 1) f.filePath ∧
      f.level = .known (levelOf (n + 1)) ∧ f.moduleId = ownerId sources.modules f.filePath ∧
      Leads k primary (n + 1) ⟨f.filePath, ⟨f.path, f.reason⟩⟩ := by
  rw [affectedFiles_of_imports himports hreach] at hf
  obtain ⟨⟨visit, n⟩, hvisit, rfl⟩ := List.mem_map.mp hf
  obtain ⟨hn, hdist⟩ :=
    (exists_mem_numbered_layers_iff (charts_files hk primary)).mp ⟨visit, hvisit, rfl⟩
  exact ⟨n, hn, (distance_leadsTo_iff hprimary).mp hdist, rfl, rfl,
    leads_of_mem_numbered hk hprimary hvisit⟩

/-- Every file that is not too far away is an affected file. -/
theorem exists_mem_affectedFiles {n : Nat} {file : Name} (hn : n < reach.depth)
    (hdist : FileDistance k.AdjacentNamed primary (n + 1) file) :
    ∃ f ∈ affectedFiles sources reach primary, f.filePath = file := by
  obtain ⟨visit, hvisit, rfl⟩ := (exists_mem_numbered_layers_iff (charts_files hk primary)).mpr
    ⟨hn, (distance_leadsTo_iff hprimary).mpr hdist⟩
  rw [affectedFiles_of_imports himports hreach]
  exact ⟨_, List.mem_map_of_mem hvisit, rfl⟩

end

/-- The first module that owns the path is found. -/
theorem ownerId_of_owner {path : String} {m : Module} (h : k.Owner path m) :
    ownerId (some k) (.str path) = m.id := by
  obtain ⟨before, after, hmodules, howns, hbefore⟩ := h
  have hfind : k.owner? path = some m := by
    unfold owner?
    rw [hmodules]
    refine List.find?_eq_some_iff_append.mpr ⟨howns, before, after, rfl, ?_⟩
    intro other hother
    rw [hbefore other hother]
    rfl
  unfold ownerId
  rw [Json.display_str, Option.bind_some, hfind]
  rfl

theorem ownerId_eq_null {path : String} (h : ∀ m ∈ k.modules, m.owns path = false) :
    ownerId (some k) (.str path) = .null := by
  have hfind : k.owner? path = none := by
    refine List.find?_eq_none.mpr fun m hm => ?_
    rw [h m hm]
    exact Bool.false_ne_true
  unfold ownerId
  rw [Json.display_str, Option.bind_some, hfind]
  rfl

end Expansion

/-! ## Scopes -/

namespace Scope

open Knowledge

/-- The affected files of a scope are the files that have a name and are at most `depth` steps away
from its primary files: all of them, nothing else, once each, closest first, with the level that
their distance gives, the module that owns them and a way of that many files that leads to them. -/
structure CoversFiles (step : Name → Name → Prop) (modules : Option Knowledge) (depth : Nat)
    (scope : Scope) : Prop where
  exact_files : ∀ file, file ∈ scope.affectedFiles.map ScopedFile.filePath ↔
    file ∉ scope.primaryFiles ∧ file.truthy = true ∧
      ∃ n, FileDistance step scope.primaryFiles n file ∧ 1 ≤ n ∧ n ≤ depth
  once : (scope.affectedFiles.map ScopedFile.filePath).Nodup
  closest_first : scope.affectedFiles.Pairwise fun a b => ∀ i j,
    FileDistance step scope.primaryFiles i a.filePath →
      FileDistance step scope.primaryFiles j b.filePath → i ≤ j
  levels : ∀ f ∈ scope.affectedFiles, f.level = .known .direct ∨ f.level = .known .indirect
  direct_iff : ∀ f ∈ scope.affectedFiles,
    f.level = .known .direct ↔ FileDistance step scope.primaryFiles 1 f.filePath
  owned : ∀ f ∈ scope.affectedFiles, ∃ path, f.filePath = .str path ∧
    (∀ k m, modules = some k → k.Owner path m → f.moduleId = m.id) ∧
    ((∀ k, modules = some k → ∀ m ∈ k.modules, m.owns path = false) → f.moduleId = .null)
  ways : ∀ f ∈ scope.affectedFiles,
    FileDistance step scope.primaryFiles f.path.length f.filePath ∧
      (∃ start ∈ scope.primaryFiles, f.path.head? = some start) ∧
      (f.path ++ [f.filePath]).IsChain step

/-- Primary files have names. -/
theorem truthy_of_mem_primaryFilesOf (change : Change) :
    ∀ file ∈ primaryFilesOf change, file.truthy = true := by
  intro file hfile
  exact (List.mem_filter.mp ((eraseDupsBy_sublist _ _).subset hfile)).2

/-- **Affected files are those within reach.** With imports expanded, the scope of any change covers
the files within its depth, where two files that have names are adjacent if one imports the
other. -/
theorem detect_coversFiles {k : Knowledge} (hk : k.ImportMap)
    (modules specs flows : Option Knowledge) {reach : Reach} (hreach : reach.expandImports = true)
    (change : Change) (parsed : Parsed) :
    (detect ⟨modules, specs, some k, flows⟩ reach change parsed).CoversFiles k.AdjacentNamed modules
      reach.depth := by
  have hprimary := truthy_of_mem_primaryFilesOf change
  have hmem := fun f => @Expansion.of_mem_affectedFiles k _ ⟨modules, specs, some k, flows⟩ reach rfl
    hreach hk hprimary f
  refine ⟨?_, Expansion.affectedFiles_nodup ..,
    Expansion.affectedFiles_sorted rfl hreach hk hprimary, ?_, ?_, ?_, ?_⟩
  · intro file
    constructor
    · intro hfile
      obtain ⟨f, hf, rfl⟩ := List.mem_map.mp hfile
      obtain ⟨n, hn, hdist, -, -, hleads⟩ := hmem f hf
      -- a primary file is at distance zero, and distances are unique
      refine ⟨fun hfile => ?_, hleads.named, n + 1, hdist, by omega, hn⟩
      have := hdist.eq (atDistance_zero.mpr hfile)
      omega
    · intro hgiven
      obtain ⟨-, -, n, hdist, hpos, hn⟩ := hgiven
      obtain ⟨n, rfl⟩ : ∃ j, n = j + 1 := ⟨n - 1, by omega⟩
      obtain ⟨f, hf, rfl⟩ := @Expansion.exists_mem_affectedFiles k _
        ⟨modules, specs, some k, flows⟩ reach rfl hreach hk hprimary n file hn hdist
      exact List.mem_map_of_mem hf
  · intro f hf
    obtain ⟨n, -, -, hlevel, -⟩ := hmem f hf
    rw [hlevel]
    unfold Expansion.levelOf
    split
    · exact Or.inl rfl
    · exact Or.inr rfl
  · intro f hf
    obtain ⟨n, -, hdist, hlevel, -⟩ := hmem f hf
    rw [hlevel, Tag.known.injEq, Expansion.levelOf_eq_direct]
    constructor
    · intro hn
      rw [hn] at hdist
      exact hdist
    · intro hone
      exact Nat.succ.inj (hdist.eq hone)
  · intro f hf
    obtain ⟨n, -, hdist, -, howner, -⟩ := hmem f hf
    obtain ⟨path, hpath⟩ := isText_of_distance hk hdist
    rw [hpath] at howner
    refine ⟨path, hpath, ?_, ?_⟩
    · intro known m hmodules h
      rw [howner, show (_ : Option Knowledge) = some known from hmodules]
      exact Expansion.ownerId_of_owner h
    · intro hnone
      rw [howner]
      cases modules with
      | none => rfl
      | some known => exact Expansion.ownerId_eq_null (hnone known rfl)
  · intro f hf
    obtain ⟨n, -, hdist, -, -, hleads⟩ := hmem f hf
    obtain ⟨file, hfile, hstart⟩ := hleads.start
    have hlength : f.path.length = n + 1 := hleads.length
    refine ⟨hlength ▸ hdist, ⟨file, hfile, ?_⟩, hleads.chain⟩
    obtain ⟨first, rest, hpath⟩ := List.exists_cons_of_length_eq_add_one hlength
    dsimp only at hstart
    rw [hpath] at hstart ⊢
    exact hstart

/-- Files that import each other in a circle, with one behind them, one that is out of reach and one
that nobody owns. -/
def circle : Knowledge where
  modules := [⟨"orders", "Orders", .arr ["src/orders/**"]⟩, ⟨"all", "All", .arr ["src/**"]⟩]
  links := []
  specs := []
  specDependencies := []
  imports := [("src/orders/a.py", ["src/b.py", "lib/c.py"]), ("lib/c.py", ["src/orders/a.py"]),
    ("src/orders/d.py", ["src/b.py", "src/b.py", ""]), ("src/e.py", ["src/orders/d.py"])]
  flows := []

theorem detect_coversFiles_circle :
    circle.ImportMap ∧ Reach.expandImports ⟨2, true, true, true⟩ = true ∧
    (detect ⟨some circle, none, some circle, none⟩ ⟨2, true, true, true⟩
      ⟨"", [], ["src/orders/a.py"], .null, none⟩ ⟨[], [], [], .feature, .ofNat 0⟩).CoversFiles
        circle.AdjacentNamed (some circle) 2 ∧
    (detect ⟨some circle, none, some circle, none⟩ ⟨2, true, true, true⟩
      ⟨"", [], ["src/orders/a.py"], .null, none⟩ ⟨[], [], [], .feature, .ofNat 0⟩).affectedFiles.map
        (fun f => (f.filePath, f.moduleId, f.path)) =
      [(.str "lib/c.py", .null, [.str "src/orders/a.py"]),
        (.str "src/b.py", .str "all", [.str "src/orders/a.py"]),
        (.str "src/orders/d.py", .str "orders", [.str "src/orders/a.py", .str "src/b.py"])] := by
  have hmap : circle.ImportMap := by
    refine ⟨by decide, ?_⟩
    simp [circle, Json.isText_str]
  refine ⟨hmap, rfl, ?_, by decide +kernel⟩
  exact @detect_coversFiles circle hmap (some circle) none none ⟨2, true, true, true⟩ rfl
    ⟨"", [], ["src/orders/a.py"], .null, none⟩ ⟨[], [], [], .feature, .ofNat 0⟩

/-- Two files that import nothing but a file without a name. -/
def unnamed : Knowledge :=
  { Knowledge.empty with imports := [("a.py", [""]), ("b.py", [""])] }

/-- If a file without a name could be passed through, `b.py` would be two steps away from `a.py`; the
expansion does not find it. -/
theorem detect_unnamed :
    unnamed.ImportMap ∧ ¬ (detect (.all unnamed) .standard ⟨"x", [], ["a.py"], .null, none⟩
      ⟨[], [], [], .feature, .ofNat 0⟩).CoversFiles unnamed.Adjacent (some unnamed) 3 := by
  have hmap : unnamed.ImportMap := by
    refine ⟨by decide, ?_⟩
    simp [unnamed, Json.isText_str]
  have hprimary : (detect (.all unnamed) .standard ⟨"x", [], ["a.py"], .null, none⟩
      ⟨[], [], [], .feature, .ofNat 0⟩).primaryFiles = [.str "a.py"] := by decide +kernel
  have hfiles : (detect (.all unnamed) .standard ⟨"x", [], ["a.py"], .null, none⟩
      ⟨[], [], [], .feature, .ofNat 0⟩).affectedFiles = [] := by decide +kernel
  have himports : ∀ a b, unnamed.Imports a b ↔ (a = .str "a.py" ∨ a = .str "b.py") ∧ b = .str "" := by
    intro a b
    constructor
    · intro hgiven
      obtain ⟨entry, hentry, rfl, hb⟩ := hgiven
      rcases List.mem_pair.mp hentry with rfl | rfl
      · exact ⟨Or.inl rfl, List.mem_singleton.mp hb⟩
      · exact ⟨Or.inr rfl, List.mem_singleton.mp hb⟩
    · intro hgiven
      rcases hgiven with ⟨rfl | rfl, rfl⟩
      · exact ⟨_, List.mem_cons_self .., rfl, List.mem_cons_self ..⟩
      · exact ⟨_, List.mem_cons_of_mem _ (List.mem_cons_self ..), rfl, List.mem_cons_self ..⟩
  have hdistance : FileDistance unnamed.Adjacent [.str "a.py"] 2 (.str "b.py") := by
    have hfirst : unnamed.Adjacent (.str "a.py") (.str "") := Or.inl ((himports _ _).mpr (by simp))
    have hnext : unnamed.Adjacent (.str "") (.str "b.py") := Or.inr ((himports _ _).mpr (by simp))
    have hstart : Reached (FileSeed [.str "a.py"]) unnamed.Adjacent 0 (.str "a.py") :=
      .seed (List.mem_singleton.mpr rfl)
    refine ⟨.step (.step hstart hfirst) hnext, fun j hj => ?_⟩
    cases hj with
    | seed hseed =>
      cases j with
      | zero => simp [FileSeed] at hseed
      | succ j => exact hseed.elim
    | @step n u _ hu hstep =>
      cases n with
      | succ n => omega
      | zero =>
        -- one step from `a.py` leads to nothing but the file without a name
        obtain rfl : u = .str "a.py" :=
          List.mem_singleton.mp (atDistance_zero.mp ⟨hu, fun j _ => Nat.zero_le j⟩)
        rcases hstep with hout | hin
        · simp [himports] at hout
        · simp [himports] at hin
  refine ⟨hmap, fun h => ?_⟩
  have hmem := (h.exact_files (.str "b.py")).mpr
  rw [hprimary, hfiles] at hmem
  have hfound := hmem ⟨by simp, rfl, 2, hdistance, by omega, by omega⟩
  cases hfound

end Scope

end ChangeImpact

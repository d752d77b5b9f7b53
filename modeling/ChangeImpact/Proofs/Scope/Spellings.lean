import Mathlib.Data.List.Forall2
import Mathlib.Logic.Relation
import ChangeImpact.Proofs.Distinct
import ChangeImpact.Proofs.Json.Names
import ChangeImpact.Proofs.Scope.Layers
import ChangeImpact.Scope.Detection

/-!
# Spellings of paths

One path is spelled in many ways: with `./` in front, or with backslashes for slashes. Which module
owns a file does not depend on its spelling, and so the modules of a scope do not. The files do:
the imports of a project are looked up by the name as it is given, and where they are spelled plainly
a file in any other spelling is none of them.

> `samePath_iff`: two spellings are of one path if they have one normal form;
> `detect_respelled`: when files are spelled otherwise the modules of a scope stay the same, and a file
> that is not spelled plainly counts for nothing among the files;
> `detect_loses_importers`: so the importers of a file are lost when `./` is put in front of it.
-/

namespace ChangeImpact

open Relation

/-! ## Paths -/

namespace PathName

/-- One spelling becomes another one by `./` in front of it, or by a backslash for a slash. -/
inductive Respells : List Char → List Char → Prop
  | here (path : List Char) : Respells path ('.' :: '/' :: path)
  | backslash (before after : List Char) :
    Respells (before ++ '/' :: after) (before ++ '\\' :: after)

/-- Both are spellings of one path. -/
def SamePath : List Char → List Char → Prop := EqvGen Respells

/-- The spelling has slashes only, and no `./` in front. -/
def IsPlain (path : List Char) : Prop := '\\' ∉ path ∧ ¬ ['.', '/'] <+: path

instance (path : List Char) : Decidable (IsPlain path) := inferInstanceAs (Decidable (_ ∧ _))

theorem samePath_withSlashes (before path : List Char) :
    SamePath (before ++ path) (before ++ withSlashes path) := by
  induction path generalizing before with
  | nil => exact .refl _
  | cons c rest ih =>
    have hrest : SamePath (before ++ (if c == '\\' then '/' else c) :: rest)
        (before ++ withSlashes (c :: rest)) := by
      have hnext := ih (before ++ [if c == '\\' then '/' else c])
      rw [List.append_assoc, List.append_assoc] at hnext
      exact hnext
    by_cases hc : c = '\\'
    · subst hc
      exact (EqvGen.symm _ _ (.rel _ _ (.backslash before rest))).trans _ _ _ hrest
    · rwa [if_neg (by simpa using hc)] at hrest

theorem samePath_dropHere (path : List Char) : SamePath path (dropHere path) := by
  fun_induction dropHere path with
  | case1 rest ih => exact (EqvGen.symm _ _ (.rel _ _ (.here rest))).trans _ _ _ ih
  | case2 => exact .refl _

/-- **The normal form.** Two spellings are of one path exactly if they have one normal form. -/
theorem samePath_iff {a b : List Char} : SamePath a b ↔ normal a = normal b := by
  have hnormal : ∀ path, SamePath path (normal path) := fun path =>
    (samePath_withSlashes [] path).trans _ _ _ (samePath_dropHere (withSlashes path))
  constructor
  · intro h
    induction h with
    | rel a b h =>
      cases h with
      | here path => rfl
      | backslash before after => simp [normal, withSlashes]
    | refl => rfl
    | symm _ _ _ ih => exact ih.symm
    | trans _ _ _ _ _ ih ih' => exact ih.trans ih'
  · intro h
    exact (h ▸ hnormal a).trans _ _ _ (.symm _ _ (hnormal b))

end PathName

/-- Two names of one file: they are the same, or they are texts that spell one path. -/
inductive SpelledAs : Name → Name → Prop
  | same (file : Name) : SpelledAs file file
  | otherwise {a b : String} (ha : a ≠ "") (hb : b ≠ "")
    (h : PathName.SamePath a.toList b.toList) : SpelledAs (.str a) (.str b)

namespace SpelledAs

variable {file other : Name}

theorem truthy_eq (h : SpelledAs file other) : file.truthy = other.truthy := by
  cases h with
  | same => rfl
  | otherwise ha hb =>
    have htext : ∀ {s : String}, s ≠ "" → (Json.str s).truthy = true := fun hs => bne_iff_ne.mpr hs
    rw [htext ha, htext hb]

/-- Who owns a file does not depend on its spelling. -/
theorem owner_eq (h : SpelledAs file other) (k : Knowledge) :
    k.owner? file.display = k.owner? other.display := by
  cases h with
  | same => rfl
  | otherwise _ _ hsame =>
    have howns : ∀ m : Module, ∀ path path' : String, PathName.SamePath path.toList path'.toList →
        m.owns path = m.owns path' := by
      intro m path path' h
      unfold Module.owns
      rw [PathName.samePath_iff.mp h]
    unfold Knowledge.owner?
    rw [Json.display_str, Json.display_str]
    congr 1
    funext m
    exact howns m _ _ hsame

end SpelledAs

/-! ## Modules -/

namespace Scope

variable {sources : Sources} {change : Change} {files : List Name}

theorem owners_respelled {others : List Name} (h : List.Forall₂ SpelledAs others files)
    (k : Knowledge) :
    ((others.filter Json.truthy).filterMap fun file => (k.owner? file.display).map Module.id) =
      (files.filter Json.truthy).filterMap fun file => (k.owner? file.display).map Module.id := by
  induction h with
  | nil => rfl
  | cons hfirst _ ih =>
    rw [List.filter_cons, List.filter_cons, hfirst.truthy_eq]
    split
    next => rw [List.filterMap_cons, List.filterMap_cons, hfirst.owner_eq, ih]
    next => exact ih

theorem primaryModulesOf_respelled (h : List.Forall₂ SpelledAs change.targetFiles files)
    (sources : Sources) (parsed : Parsed) :
    primaryModulesOf sources { change with targetFiles := files } parsed =
      primaryModulesOf sources change parsed := by
  have hgiven : givenModules sources { change with targetFiles := files } =
      givenModules sources change := by
    unfold givenModules
    dsimp only
    cases sources.modules with
    | none => rfl
    | some k =>
      dsimp only
      rw [owners_respelled h k]
  unfold primaryModulesOf
  rw [hgiven]

end Scope

/-! ## What an expansion looks at -/

namespace Traversal

variable {ν α : Type} [BEq ν] {P : ν → Prop}

theorem layers_congr {terrain : Terrain ν α}
    (hsteps : ∀ visit, ∀ next ∈ terrain.steps visit, P next.node) {depth : Nat}
    {met : List (Visit ν α)} (hmet : ∀ visit ∈ met, P visit.node) {seen other : List ν}
    (hseen : ∀ v, P v → seen.contains v = other.contains v) :
    layers terrain depth seen met = layers terrain depth other met := by
  induction depth generalizing seen other met with
  | zero => rfl
  | succ depth ih =>
    unfold layers
    dsimp only
    rw [fresh_congr hmet hseen]
    split
    next => rfl
    next =>
      rw [ih]
      · intro next hnext
        obtain ⟨visit, -, hstep⟩ := List.mem_flatMap.mp hnext
        exact hsteps visit next hstep
      · intro v hv
        rw [List.contains_append, List.contains_append, hseen v hv]

end Traversal

namespace Knowledge

variable {k : Knowledge} {file other : Name}

/-- The file imports files, or is listed as one that is imported. -/
def mentionsFile (k : Knowledge) (file : Name) : Bool :=
  k.imports.any fun entry => Json.str entry.1 == file || entry.2.contains file

/-- The paths in the lists of imports are spelled plainly. -/
def PlainImports (k : Knowledge) : Prop :=
  ∀ entry ∈ k.imports, PathName.IsPlain entry.1.toList ∧
    ∀ path, Json.str path ∈ entry.2 → PathName.IsPlain path.toList

/-- The name is no text, or it is spelled plainly. -/
def IsPlainFile (file : Name) : Prop := ∀ path, file = .str path → PathName.IsPlain path.toList

instance decidableIsPlainFile : DecidablePred IsPlainFile
  | .str path => decidable_of_iff (PathName.IsPlain path.toList)
    ⟨fun h _ heq => Json.str.inj heq ▸ h, fun h => h path rfl⟩
  | .null | .bool _ | .int _ | .float _ | .arr _ | .obj _ => isTrue fun _ h => nomatch h

theorem mentionsFile_iff : k.mentionsFile file = true ↔ ∃ entry ∈ k.imports,
    (Json.str entry.1 == file) = true ∨ entry.2.contains file = true := by
  unfold mentionsFile
  simp only [List.any_eq_true, Bool.or_eq_true]

/-- What is one name is mentioned at once. -/
theorem mentionsFile_of_beq (h : (file == other) = true) :
    k.mentionsFile file = k.mentionsFile other := by
  rw [Bool.eq_iff_iff, mentionsFile_iff, mentionsFile_iff]
  simp only [Json.contains_iff_canonical, Json.beq_iff, (Json.beq_iff _ _).mp h]

theorem isPlainFile_of_mentioned (hk : k.PlainImports) (h : k.mentionsFile file = true) :
    IsPlainFile file := by
  rintro path rfl
  obtain ⟨entry, hentry, hfile | hfile⟩ := mentionsFile_iff.mp h
  · cases Json.beq_str_iff.mp hfile
    exact (hk entry hentry).1
  · exact (hk entry hentry).2 path ((Json.isText_str path).contains_iff.mp hfile)

end Knowledge

namespace Expansion

open Knowledge

variable {k : Knowledge} {file : Name} {sources : Sources}

/-- Nothing is next to a file that is not mentioned. -/
theorem adjacentFiles_eq_nil (h : k.mentionsFile file = false) : adjacentFiles k file = [] := by
  have hnot : ∀ entry ∈ k.imports, ¬ (Json.str entry.1 == file) = true ∧
      ¬ entry.2.contains file = true := by
    intro entry hentry
    refine not_or.mp fun hany => ?_
    rw [mentionsFile_iff.mpr ⟨entry, hentry, hany⟩] at h
    cases h
  have himporters : k.importersOf file = [] := by
    unfold importersOf
    rw [List.filter_eq_nil_iff.mpr fun entry hentry => (hnot entry hentry).2]
    rfl
  have himports : k.importsOf file = [] := by
    unfold importsOf
    rw [List.find?_eq_none.mpr fun entry hentry => (hnot entry hentry).1]
    rfl
  unfold adjacentFiles
  rw [himporters, himports]
  rfl

/-- Whatever is next to a file is mentioned. -/
theorem mentionsFile_of_adjacent {next : Name × String} (h : next ∈ adjacentFiles k file) :
    k.mentionsFile next.1 = true := by
  rcases List.mem_append.mp h with hin | hout
  · obtain ⟨importer, himporter, rfl⟩ := List.mem_map.mp hin
    obtain ⟨entry, hentry, rfl⟩ := List.mem_map.mp himporter
    exact mentionsFile_iff.mpr ⟨entry, (List.mem_filter.mp hentry).1, Or.inl BEq.rfl⟩
  · obtain ⟨imported, himported, rfl⟩ := List.mem_map.mp hout
    unfold importsOf at himported
    cases hfound : k.imports.find? fun entry => Json.str entry.1 == file with
    | none =>
      rw [hfound] at himported
      cases himported
    | some entry =>
      rw [hfound] at himported
      exact mentionsFile_iff.mpr ⟨entry, List.mem_of_find?_eq_some hfound,
        Or.inr (List.contains_iff_exists_mem_beq.mpr ⟨imported, himported, BEq.rfl⟩)⟩

theorem mentionsFile_of_step {visit next : Visit Name Approach}
    (h : next ∈ (fileTerrain k).steps visit) : k.mentionsFile next.node = true := by
  obtain ⟨found, hfound, rfl⟩ := List.mem_map.mp h
  exact mentionsFile_of_adjacent (List.mem_filter.mp hfound).1

/-- The first steps are those from the files that are mentioned. -/
theorem firstSteps_mentioned (k : Knowledge) (primary : List Name) :
    (startAt primary).flatMap (fileTerrain k).steps =
      (startAt (primary.filter k.mentionsFile)).flatMap (fileTerrain k).steps := by
  induction primary with
  | nil => rfl
  | cons file rest ih =>
    show (fileTerrain k).steps ⟨file, ⟨[], "primary"⟩⟩ ++
      (startAt rest).flatMap (fileTerrain k).steps = _
    rw [ih]
    cases hfile : k.mentionsFile file with
    | true =>
      rw [List.filter_cons_of_pos hfile]
      rfl
    | false =>
      have hnone : (fileTerrain k).steps ⟨file, ⟨[], "primary"⟩⟩ = [] := by
        show ((adjacentFiles k file).filter _).map _ = []
        rw [adjacentFiles_eq_nil hfile]
        rfl
      rw [List.filter_cons_of_neg (by simp [hfile]), hnone, List.nil_append]

/-- A primary file that is not mentioned leads nowhere, and nothing leads to it. -/
theorem fileLayers_mentioned (k : Knowledge) (depth : Nat) (primary : List Name) :
    fileLayers k depth primary = fileLayers k depth (primary.filter k.mentionsFile) := by
  unfold fileLayers
  dsimp only
  rw [firstSteps_mentioned]
  refine Traversal.layers_congr (P := fun file => k.mentionsFile file = true)
    (fun visit next hnext => mentionsFile_of_step hnext) ?_ ?_
  · intro next hnext
    obtain ⟨visit, -, hstep⟩ := List.mem_flatMap.mp hnext
    exact mentionsFile_of_step hstep
  · intro file hfile
    rw [Bool.eq_iff_iff, List.contains_iff_exists_mem_beq, List.contains_iff_exists_mem_beq]
    constructor
    · intro hgiven
      obtain ⟨seen, hseen, heq⟩ := hgiven
      exact ⟨seen, List.mem_filter.mpr ⟨hseen, mentionsFile_of_beq heq ▸ hfile⟩, heq⟩
    · intro hgiven
      obtain ⟨seen, hseen, heq⟩ := hgiven
      exact ⟨seen, (List.mem_filter.mp hseen).1, heq⟩

/-- The affected files depend on the primary files that are mentioned alone. -/
theorem affectedFiles_congr {primary others : List Name}
    (h : ∀ k, sources.imports = some k →
      primary.filter k.mentionsFile = others.filter k.mentionsFile) (reach : Reach) :
    affectedFiles sources reach primary = affectedFiles sources reach others := by
  rw [affectedFiles_eq, affectedFiles_eq]
  split
  next k _ himports =>
    rw [fileLayers_mentioned, h k himports, ← fileLayers_mentioned]
  next => rfl

end Expansion

/-! ## Scopes -/

namespace Scope

open Knowledge

variable {sources : Sources} {change : Change} {files : List Name}

theorem primaryFilesOf_mentioned (k : Knowledge) (change : Change) :
    (primaryFilesOf change).filter k.mentionsFile =
      ((change.targetFiles.filter k.mentionsFile).filter Json.truthy).eraseDups := by
  unfold primaryFilesOf
  rw [filter_eraseDups fun _ _ => mentionsFile_of_beq]
  simp only [List.filter_filter, Bool.and_comm]

/-- The affected files depend on the target files that are mentioned alone. -/
theorem affectedFiles_of_targets {other : Change}
    (h : ∀ k, sources.imports = some k →
      other.targetFiles.filter k.mentionsFile = change.targetFiles.filter k.mentionsFile)
    (reach : Reach) (parsed : Parsed) :
    (detect sources reach other parsed).affectedFiles =
      (detect sources reach change parsed).affectedFiles := by
  refine Expansion.affectedFiles_congr (fun k himports => ?_) reach
  rw [primaryFilesOf_mentioned, primaryFilesOf_mentioned, h k himports]

/-- What is mentioned is spelled plainly. -/
theorem filter_mentionsFile_of_plain {k : Knowledge} (hk : k.PlainImports) (files : List Name) :
    files.filter k.mentionsFile = (files.filter fun file => IsPlainFile file).filter k.mentionsFile := by
  rw [List.filter_filter]
  refine List.filter_congr fun file _ => ?_
  cases hfile : k.mentionsFile file with
  | true => simp [isPlainFile_of_mentioned hk hfile]
  | false => rfl

theorem filter_mentionsFile_of_forall₂ {k : Knowledge} {others : List Name}
    (h : List.Forall₂ (fun file other => file = other ∨
      k.mentionsFile file = false ∧ k.mentionsFile other = false) others files) :
    files.filter k.mentionsFile = others.filter k.mentionsFile := by
  induction h with
  | nil => rfl
  | @cons file other _ _ hfirst _ ih =>
    rcases hfirst with rfl | ⟨hfile, hother⟩
    · rw [List.filter_cons, List.filter_cons, ih]
    · rw [List.filter_cons_of_neg (by simp [hother]), List.filter_cons_of_neg (by simp [hfile]), ih]

/-- **Files spelled otherwise.** Where the imports of a project are spelled plainly, the target files of
a change may be replaced by any other spellings of them: the primary and the dependent modules stay the
same. The affected files are those of the target files that are spelled plainly, the others count for
nothing; so they stay the same if only files are spelled otherwise that nothing is said about. -/
theorem detect_respelled (hplain : ∀ k, sources.imports = some k → k.PlainImports)
    (h : List.Forall₂ SpelledAs change.targetFiles files) (reach : Reach) (parsed : Parsed) :
    (detect sources reach { change with targetFiles := files } parsed).primaryModules =
        (detect sources reach change parsed).primaryModules ∧
      (detect sources reach { change with targetFiles := files } parsed).dependentModules =
        (detect sources reach change parsed).dependentModules ∧
      (detect sources reach { change with targetFiles := files } parsed).affectedFiles =
        (detect sources reach
          { change with targetFiles := files.filter fun file => IsPlainFile file }
          parsed).affectedFiles ∧
      ((∀ k, sources.imports = some k → List.Forall₂ (fun file other => file = other ∨
          k.mentionsFile file = false ∧ k.mentionsFile other = false) change.targetFiles files) →
        (detect sources reach { change with targetFiles := files } parsed).affectedFiles =
          (detect sources reach change parsed).affectedFiles) := by
  have hmodules := primaryModulesOf_respelled h sources parsed
  refine ⟨hmodules, ?_, ?_, fun hsilent => ?_⟩
  · unfold detect
    dsimp only
    rw [hmodules]
  · exact affectedFiles_of_targets
      (fun k himports => filter_mentionsFile_of_plain (hplain k himports) files) reach parsed
  · exact affectedFiles_of_targets
      (fun k himports => filter_mentionsFile_of_forall₂ (hsilent k himports)) reach parsed

/-- A module that owns a file and another one without imports, and a file that imports the first. -/
def spelledPlainly : Knowledge where
  modules := [⟨"orders", "Orders", .arr ["src/orders/**"]⟩, ⟨"docs", "Docs", .arr ["docs/*.md"]⟩]
  links := [⟨"billing", "orders", "depends_on"⟩]
  specs := []
  specDependencies := []
  imports := [("src/main.py", ["src/orders/a.py"])]
  flows := []

theorem plainImports_spelledPlainly : ∀ k, (Sources.all spelledPlainly).imports = some k →
    k.PlainImports := by
  intro k hk
  cases hk
  refine List.forall_mem_singleton.mpr ⟨by decide, fun path hpath => ?_⟩
  cases List.mem_singleton.mp hpath
  decide

theorem spelledAs_here {path : String} (h : path ≠ "") :
    SpelledAs (.str path) (.str (String.ofList ('.' :: '/' :: path.toList))) := by
  refine .otherwise h (by simp) (.rel _ _ ?_)
  rw [String.toList_ofList]
  exact .here path.toList

theorem detect_respelled_docs :
    (∀ k, (Sources.all spelledPlainly).imports = some k → k.PlainImports) ∧
      List.Forall₂ SpelledAs [.str "src/orders/a.py", .str "docs/a.md"]
        [.str "src/orders/a.py", .str "./docs/a.md"] ∧
      (detect (.all spelledPlainly) .standard
        ⟨"x", [], ["src/orders/a.py", "./docs/a.md"], .null, none⟩
        ⟨[], [], [], .feature, .ofNat 0⟩).primaryModules = ["orders", "docs"] ∧
      (detect (.all spelledPlainly) .standard
        ⟨"x", [], ["src/orders/a.py", "docs/a.md"], .null, none⟩
        ⟨[], [], [], .feature, .ofNat 0⟩).primaryModules = ["orders", "docs"] ∧
      (detect (.all spelledPlainly) .standard
        ⟨"x", [], ["src/orders/a.py", "./docs/a.md"], .null, none⟩
        ⟨[], [], [], .feature, .ofNat 0⟩).affectedFiles =
      (detect (.all spelledPlainly) .standard
        ⟨"x", [], ["src/orders/a.py", "docs/a.md"], .null, none⟩
        ⟨[], [], [], .feature, .ofNat 0⟩).affectedFiles := by
  have hspelled : List.Forall₂ SpelledAs [.str "src/orders/a.py", .str "docs/a.md"]
      [.str "src/orders/a.py", .str "./docs/a.md"] :=
    .cons (.same _) (.cons (spelledAs_here (by decide)) .nil)
  obtain ⟨hmodules, -, -, hfiles⟩ := @detect_respelled (.all spelledPlainly)
    ⟨"x", [], ["src/orders/a.py", "docs/a.md"], .null, none⟩
    [.str "src/orders/a.py", .str "./docs/a.md"] plainImports_spelledPlainly hspelled .standard
    ⟨[], [], [], .feature, .ofNat 0⟩
  have hprimary : (detect (.all spelledPlainly) .standard
      ⟨"x", [], ["src/orders/a.py", "docs/a.md"], .null, none⟩
      ⟨[], [], [], .feature, .ofNat 0⟩).primaryModules = ["orders", "docs"] := by decide +kernel
  refine ⟨plainImports_spelledPlainly, hspelled, hmodules.trans hprimary, hprimary,
    hfiles fun k hk => ?_⟩
  cases hk
  exact .cons (Or.inl rfl) (.cons (Or.inr (by decide +kernel)) .nil)

/-- With `./` in front of it, the file that is imported has no importers, and is itself affected by
the one that imports it. -/
theorem detect_loses_importers :
    (∀ k, (Sources.all spelledPlainly).imports = some k → k.PlainImports) ∧
      SpelledAs "src/orders/a.py" "./src/orders/a.py" ∧
      ((detect (.all spelledPlainly) .standard ⟨"x", [], ["src/orders/a.py"], .null, none⟩
        ⟨[], [], [], .feature, .ofNat 0⟩).affectedFiles.map ScopedFile.filePath) = ["src/main.py"] ∧
      ((detect (.all spelledPlainly) .standard ⟨"x", [], ["./src/orders/a.py"], .null, none⟩
        ⟨[], [], [], .feature, .ofNat 0⟩).affectedFiles.map ScopedFile.filePath) = [] ∧
      ((detect (.all spelledPlainly) .standard
        ⟨"x", [], ["./src/orders/a.py", "src/main.py"], .null, none⟩
        ⟨[], [], [], .feature, .ofNat 0⟩).affectedFiles.map ScopedFile.filePath) =
        ["src/orders/a.py"] :=
  ⟨plainImports_spelledPlainly, spelledAs_here (by decide), by decide +kernel, by decide +kernel,
    by decide +kernel⟩

end Scope

end ChangeImpact

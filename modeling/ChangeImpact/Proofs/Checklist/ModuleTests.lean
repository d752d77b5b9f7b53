import ChangeImpact.Proofs.Checklist.Groups
import ChangeImpact.Proofs.Distinct
import ChangeImpact.Proofs.Json.Names

/-!
# Tests of modules in a checklist

Every module of a change, and every module that depends on one of them directly, has a test of its own
(`exists_test`). A checklist merges entries of one category by their plain titles, in which hyphens,
underscores and all but ASCII letters are dropped, and keeps the command of one of those it merges. So
of two modules whose titles agree in that way, such as `user-profile` and `userprofile`, only one is
tested (`generate_dropsTest`). What can be relied on is

> `generate_keepsTest`: the test of a module is accounted for by the longest of the module tests of its
> plain title, and its command is found in the checklist unless the test of another module, with
> another command, has the same plain title.

Nothing but tests of modules takes part in that: their titles are the only ones of tests that start with
"Run" (`groupOf_sections`).
-/

namespace ChangeImpact.Checklist

/-! ## Titles -/

/-- The plain title starts like the plain form of a word. -/
def Starts (word title : String) : Prop := plainTitle word <+: plainTitle title

instance (word title : String) : Decidable (Starts word title) :=
  inferInstanceAs (Decidable (plainTitle word <+: plainTitle title))

/-- A title that is put behind a word in ASCII starts with it. -/
theorem starts_append {word : String} (h : ∀ c ∈ word.toList, c.toNat < 0x80) (rest : String) :
    Starts word (word ++ rest) := by
  unfold Starts plainTitle Text.lowerChars
  obtain ⟨after, hafter⟩ := Text.exists_lowerFrom_append false h rest.toList
  rw [String.toList_append, hafter, Text.lowerFrom_ascii false h, List.filter_append]
  exact List.prefix_append _ _

/-- Titles that start with words of which neither starts with the other are apart. -/
theorem Starts.plainTitle_ne {word other title title' : String} (h : Starts word title)
    (h' : Starts other title') (hword : ¬ Starts word other) (hother : ¬ Starts other word) :
    plainTitle title ≠ plainTitle title' := by
  intro heq
  unfold Starts at h h'
  rw [← heq] at h'
  rcases List.prefix_or_prefix_of_prefix h h' with hfirst | hsecond
  · exact hword hfirst
  · exact hother hsecond

variable {settings : CheckSettings} {scope : Scope} {test : CheckItem}

/-- Tests of modules are tests, and their titles start alike. -/
theorem starts_of_mem_moduleItems (h : test ∈ moduleItems settings scope) :
    test.category = .test ∧ Starts "Run " test.title := by
  have hrun : ∀ name kind : String, Starts "Run " ("Run " ++ name ++ kind) := by
    intro name kind
    rw [String.append_assoc]
    exact starts_append (by simp) _
  rcases List.mem_append.mp h with hprimary | hdependent
  · obtain ⟨id, -, rfl⟩ := List.mem_map.mp hprimary
    exact ⟨rfl, hrun id.display " module tests"⟩
  · obtain ⟨m, -, rfl⟩ := List.mem_map.mp hdependent
    exact ⟨rfl, hrun m.moduleName.display " dependent tests"⟩

/-- What the titles of risks start with that are checked by a test. -/
def riskWords : List String := ["Check ", "Performance ", "Add ", "Integration "]

/-- Tests that risks ask for have titles which start otherwise. -/
theorem starts_riskCheck (risk : Risk) (h : (riskCheck risk).category = .test) :
    ∃ word ∈ riskWords, Starts word (riskCheck risk).title := by
  have hascii : ∀ word ∈ riskWords, ∀ c ∈ word.toList, c.toNat < 0x80 := by simp [riskWords]
  have hword : ∀ word ∈ riskWords, ∀ rest, ∃ start ∈ riskWords, Starts start (word ++ rest) :=
    fun word hmem rest => ⟨word, hmem, starts_append (hascii word hmem) rest⟩
  unfold riskCheck at h ⊢
  cases hcategory : risk.category <;> simp only [hcategory] at h ⊢
  case dataCorruption | security | deployment => cases h
  case breakingChange =>
    exact hword "Check " (by simp [riskWords]) ("backward compatibility for " ++ _)
  case performance => exact hword "Performance " (by simp [riskWords]) ("check: " ++ _)
  case testing => exact hword "Add " (by simp [riskWords]) "tests for new functionality"
  case compatibility => exact hword "Integration " (by simp [riskWords]) ("test for " ++ _)

/-- The key of a risk's entry is that of its check. -/
theorem mergeKey_riskItem (settings : CheckSettings) (risk : Risk) :
    mergeKey (riskItem settings risk) = mergeKey (riskCheck risk) := by
  unfold riskItem
  dsimp only
  split <;> rfl

/-- So no test of a module is merged with the entry of a risk. -/
theorem mergeKey_riskItem_ne (h : test ∈ moduleItems settings scope) (risk : Risk) :
    mergeKey (riskItem settings risk) ≠ mergeKey test := by
  obtain ⟨hcategory, hrun⟩ := starts_of_mem_moduleItems h
  rw [mergeKey_riskItem]
  intro heq
  obtain ⟨hsame, htitle⟩ := Prod.mk.inj heq
  obtain ⟨word, hword, hstarts⟩ := starts_riskCheck risk (hsame.trans hcategory)
  have hapart : ∀ word ∈ riskWords, ¬ Starts word "Run " ∧ ¬ Starts "Run " word := by
    decide +kernel
  exact hstarts.plainTitle_ne hrun (hapart word hword).1 (hapart word hword).2 htitle

/-- Entries of flows are in a category of their own. -/
theorem category_of_mem_flowItems {flows : List ImpactFlow} {item : CheckItem}
    (h : item ∈ flowItems flows) : item.category = .dataFlow := by
  obtain ⟨flow, -, rfl⟩ := List.mem_map.mp h
  rfl

/-- So are those of API files. -/
theorem category_of_mem_apiItems {item : CheckItem} (h : item ∈ apiItems settings scope) :
    item.category = .api := by
  unfold apiItems at h
  split at h
  next => cases h
  next =>
    rcases List.mem_cons.mp h with rfl | h
    · rfl
    · obtain rfl := List.mem_singleton.mp h
      rfl

/-- Entries of another category are not in the group. -/
theorem groupOf_eq_nil_of_category {key : CheckCategory × List Char} {category : CheckCategory}
    {items : List CheckItem} (h : ∀ item ∈ items, item.category = category)
    (hne : category ≠ key.1) : groupOf key items = [] := by
  refine groupOf_eq_nil fun item hitem heq => hne ?_
  rw [← h item hitem, ← heq]
  rfl

/-- Only tests of modules are merged with tests of modules. -/
theorem groupOf_sections (flows : List ImpactFlow) (risks : List Risk)
    (hon : settings.moduleTests = true) (h : test ∈ moduleItems settings scope) :
    groupOf (mergeKey test) (sections settings scope flows risks) =
      groupOf (mergeKey test) (moduleItems settings scope) := by
  have hcategory : (mergeKey test).1 = .test := (starts_of_mem_moduleItems h).1
  have hrisks : groupOf (mergeKey test) (riskItems settings risks) = [] := by
    refine groupOf_eq_nil fun item hitem => ?_
    obtain ⟨risk, -, rfl⟩ := List.mem_map.mp hitem
    exact mergeKey_riskItem_ne h risk
  have hflows : groupOf (mergeKey test) (flowItems flows) = [] :=
    groupOf_eq_nil_of_category (fun _ => category_of_mem_flowItems) (by rw [hcategory]; decide)
  have hapi : groupOf (mergeKey test) (apiItems settings scope) = [] :=
    groupOf_eq_nil_of_category (fun _ => category_of_mem_apiItems) (by rw [hcategory]; decide)
  have hoff : groupOf (mergeKey test) [] = [] := rfl
  unfold sections
  rw [groupOf_append, groupOf_append, groupOf_append, if_pos hon, apply_ite (groupOf _),
    apply_ite (groupOf _), hrisks, hflows, hapi, hoff, ite_self, ite_self, List.nil_append,
    List.append_nil, List.append_nil]

/-! ## Modules -/

/-- The module is one of the change, or depends on one directly. -/
def IsTested (scope : Scope) (id : String) : Prop :=
  .str id ∈ scope.primaryModules ∨
    ∃ m ∈ scope.dependentModules, m.level = .known .direct ∧ m.moduleId = .str id

/-- A module with a text as its id has been met, or is tested in its turn. -/
theorem exists_untested {met : List Name} {modules : List ScopedModule} {m : ScopedModule}
    (hm : m ∈ modules) (htext : m.moduleId.IsText) :
    m.moduleId ∈ met ∨ ∃ other ∈ untested met modules, other.moduleId = m.moduleId := by
  induction modules generalizing met with
  | nil => cases hm
  | cons first rest ih =>
    unfold untested
    rcases List.mem_cons.mp hm with rfl | hrest
    · split
      next hknown => exact Or.inl (htext.contains_iff.mp hknown)
      next => exact Or.inr ⟨m, List.mem_cons_self .., rfl⟩
    · split
      next => exact ih hrest
      next =>
        rcases ih hrest with hknown | ⟨other, hother, hid⟩
        · rcases List.mem_cons.mp hknown with heq | hknown
          · exact Or.inr ⟨first, List.mem_cons_self .., heq.symm⟩
          · exact Or.inl hknown
        · exact Or.inr ⟨other, List.mem_cons_of_mem _ hother, hid⟩

/-- Every module has a test of its own. -/
theorem exists_test (settings : CheckSettings) {id : String} (h : IsTested scope id) :
    ∃ test ∈ moduleItems settings scope,
      test.moduleId = .str id ∧ test.verifyCommand = some (settings.commandFor (.str id)) := by
  have hprimary : .str id ∈ scope.primaryModules → ∃ test ∈ moduleItems settings scope,
      test.moduleId = .str id ∧ test.verifyCommand = some (settings.commandFor (.str id)) := by
    intro hmem
    obtain ⟨kept, hkept, heq⟩ := exists_mem_eraseDupsBy (r := (· == ·)) (fun _ => BEq.rfl) hmem
    obtain rfl := Json.eq_str_of_beq heq
    exact ⟨_, List.mem_append_left _ (List.mem_map_of_mem hkept), rfl, rfl⟩
  rcases h with hmem | ⟨m, hm, hdirect, hid⟩
  · exact hprimary hmem
  · have hclose : m ∈ scope.dependentModules.filter fun m => m.level.is .direct :=
      List.mem_filter.mpr ⟨hm, decide_eq_true hdirect⟩
    rcases exists_untested hclose ⟨id, hid⟩ with hmet | ⟨other, hother, hsame⟩
    · exact hprimary (hid ▸ hmet)
    · have hown : other.moduleId = .str id := hsame.trans hid
      refine ⟨dependentItem settings other, List.mem_append_right _ (List.mem_map_of_mem hother),
        hown, ?_⟩
      rw [← hown]
      rfl

/-! ## Checklists -/

/-- What a checklist makes of the test of a module. -/
structure KeepsTest (settings : CheckSettings) (scope : Scope) (checklist : List CheckItem)
    (id : String) (test : CheckItem) : Prop where
  /-- it is one of the tests of modules -/
  mem : test ∈ moduleItems settings scope
  /-- it is the one of the module -/
  moduleId : test.moduleId = .str id
  /-- it runs the tests of the module -/
  command : test.verifyCommand = some (settings.commandFor (.str id))
  /-- the longest test with its plain title stands in the checklist -/
  kept : ∃ chosen item, IsLongest (moduleItems settings scope) chosen ∧
    mergeKey chosen = mergeKey test ∧ item ∈ checklist ∧
    item = { chosen with id := item.id, isBlocking := item.isBlocking }
  /-- unless that has another command, the one of the module is in the checklist -/
  own : (∀ other ∈ moduleItems settings scope, mergeKey other = mergeKey test →
      other.verifyCommand = test.verifyCommand) →
    ∃ item ∈ checklist, item.verifyCommand = some (settings.commandFor (.str id))

/-- **Tests are lost to equal titles only.** -/
theorem generate_keepsTest (hon : settings.moduleTests = true) {id : String}
    (hid : IsTested scope id) (flows : List ImpactFlow) (risks : List Risk) :
    ∃ test, KeepsTest settings scope (generate settings scope flows risks) id test := by
  obtain ⟨test, htest, hmodule, hcommand⟩ := exists_test settings hid
  have hgroup := groupOf_sections flows risks hon htest
  have hmem : test ∈ groupOf (mergeKey test) (sections settings scope flows risks) := by
    rw [hgroup]
    exact mem_groupOf.mpr ⟨htest, rfl⟩
  obtain ⟨item, hitem, hkey, -⟩ :=
    generate_covers settings scope flows risks test (mem_groupOf.mp hmem).1
  obtain ⟨chosen, hlongest, hchosen⟩ := exists_isLongest_of_mem_generate hitem
  have hsame : mergeKey chosen = mergeKey test := by
    rw [← hkey, hchosen]
    rfl
  have hlongest : IsLongest (moduleItems settings scope) chosen :=
    hlongest.of_groupOf_eq (by rw [hsame, hgroup])
  refine ⟨test, htest, hmodule, hcommand, ⟨chosen, item, hlongest, hsame, hitem, hchosen⟩, ?_⟩
  intro hagree
  refine ⟨item, hitem, ?_⟩
  rw [← hcommand, ← hagree chosen hlongest.mem hsame, hchosen]

/-- A change to two modules whose names differ by a hyphen, on one of which a third depends. -/
def profiles : Scope where
  primaryModules := ["user-profile", "userprofile"]
  primaryFiles := []
  dependentModules := [⟨"billing", "Billing", .known .direct, ["userprofile"], "uses userprofile"⟩]
  affectedFiles := []
  affectedEntities := []
  expansionDepth := 1

theorem generate_keepsTest_profiles :
    CheckSettings.standard.moduleTests = true ∧ IsTested profiles "billing" ∧
    ∃ test, KeepsTest .standard profiles (generate .standard profiles [] []) "billing" test ∧
      ∃ item ∈ generate .standard profiles [] [],
        item.verifyCommand = some "pytest tests/billing" := by
  have htested : IsTested profiles "billing" :=
    Or.inr ⟨_, List.mem_cons_self .., rfl, rfl⟩
  have hon : CheckSettings.standard.moduleTests = true := rfl
  obtain ⟨test, hkeeps⟩ := generate_keepsTest hon htested [] []
  have hagree : ∀ test ∈ moduleItems .standard profiles, test.moduleId = .str "billing" →
      ∀ other ∈ moduleItems .standard profiles, mergeKey other = mergeKey test →
        other.verifyCommand = test.verifyCommand := by decide +kernel
  obtain ⟨item, hitem, hcommand⟩ := hkeeps.own (hagree test hkeeps.mem hkeeps.moduleId)
  refine ⟨hon, htested, test, hkeeps, item, hitem, hcommand.trans ?_⟩
  decide +kernel

/-- A module of the change may be left without its tests. -/
theorem generate_dropsTest :
    CheckSettings.standard.moduleTests = true ∧ IsTested profiles "userprofile" ∧
    ¬ ∃ item ∈ generate .standard profiles [] [],
      item.verifyCommand = some (CheckSettings.standard.commandFor (.str "userprofile")) := by
  refine ⟨rfl, Or.inl (List.mem_cons_of_mem _ (List.mem_cons_self ..)), ?_⟩
  decide +kernel

end ChangeImpact.Checklist

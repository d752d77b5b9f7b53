import ChangeImpact.Knowledge.Document
import ChangeImpact.Proofs.Checked
import ChangeImpact.Proofs.Json.Fields
import ChangeImpact.Proofs.Json.Names

/-!
# Entries of a document

The entries of a part of a document are read one by one. An entry may be skipped, or be such that
nothing of the document is loaded. What it takes for an entry to be read, whether it is skipped or
not, is said here for each kind of entry (`exists_readModule` and those after it), and so is what is
left of an entry without what is malformed in it (`Cleans`).

> `readEntries_clean`: entries that are skipped may as well be left out.
-/

namespace ChangeImpact.Knowledge

/-! ## Entries of one part -/

section Entries

variable {α : Type} {read : Json → Checked (Option α)}

/-- Entries are read one by one; those that give nothing are counted. -/
theorem readEntries_eq_ok {entries : List Json} {result : List α × Nat} :
    readEntries read entries = .ok result ↔ ∃ found, entries.mapM read = .ok found ∧
      result = (found.filterMap id, found.countP Option.isNone) := by
  unfold readEntries
  simp only [Checked.bind_eq_ok, Checked.pure_eq_ok, @eq_comm _ result]

/-- They are read if and only if each of them is. -/
theorem exists_readEntries {entries : List Json} :
    (∃ result, readEntries read entries = .ok result) ↔
      ∀ entry ∈ entries, ∃ found, read entry = .ok found := by
  rw [← Checked.exists_mapM_eq_ok]
  simp only [readEntries_eq_ok]
  constructor
  · intro hgiven
    obtain ⟨_, found, hfound, -⟩ := hgiven
    exact ⟨found, hfound⟩
  · intro hgiven
    obtain ⟨found, hfound⟩ := hgiven
    exact ⟨_, found, hfound, rfl⟩

/-- Every entry is kept or counted. -/
theorem length_readEntries {entries : List Json} {result : List α × Nat}
    (h : readEntries read entries = .ok result) : result.1.length + result.2 = entries.length := by
  obtain ⟨found, hfound, rfl⟩ := readEntries_eq_ok.mp h
  rw [(Checked.mapM_eq_ok.mp hfound).length_eq, List.length_filterMap_eq_countP,
    List.length_eq_countP_add_countP (fun option => (id option).isSome), Nat.add_left_cancel_iff]
  exact List.countP_congr fun option _ => by cases option <;> simp

/-- An entry that is kept is read, in its clean form, as one that is not skipped, and the entry
itself as nothing else; an entry that is not kept is skipped. -/
structure Cleans (read : Json → Checked (Option α)) (keep : Json → Bool) (clean : Json → Json)
    (entry : Json) : Prop where
  kept : keep entry = true → ∃ a, read (clean entry) = .ok (some a) ∧
    ∀ found, read entry = .ok found → found = some a
  skipped : keep entry = false → ∀ found, read entry = .ok found → found = none

/-- **Skipping is leaving out.** The clean forms of the entries that are kept are read and none of
them is skipped; if the entries are read as they are, that gives the same, and skips the others. -/
theorem readEntries_clean {keep : Json → Bool} {clean : Json → Json} {entries : List Json}
    (h : ∀ entry ∈ entries, Cleans read keep clean entry) :
    ∃ values, readEntries read ((entries.filter keep).map clean) = .ok (values, 0) ∧
      ∀ result, readEntries read entries = .ok result →
        result = (values, entries.countP (!keep ·)) := by
  -- the values that are left are those of the entries that are kept; the others are counted
  suffices ∃ values : List α,
      ((entries.filter keep).map clean).mapM read = .ok (values.map some) ∧
        ∀ found, entries.mapM read = .ok found →
          found.filterMap id = values ∧ found.countP Option.isNone = entries.countP (!keep ·) by
    obtain ⟨values, hclean, hsame⟩ := this
    refine ⟨values, readEntries_eq_ok.mpr ⟨_, hclean, ?_⟩, fun result hresult => ?_⟩
    · have hnone : (values.map some).countP Option.isNone = 0 := by simp [List.countP_eq_zero]
      rw [hnone, List.filterMap_map]
      simp
    · obtain ⟨found, hfound, rfl⟩ := readEntries_eq_ok.mp hresult
      obtain ⟨hvalues, hcount⟩ := hsame found hfound
      rw [hvalues, hcount]
  induction entries with
  | nil => exact ⟨[], rfl, fun found hfound => by cases hfound; exact ⟨rfl, rfl⟩⟩
  | cons entry rest ih =>
    obtain ⟨hentry, hrest⟩ := List.forall_mem_cons.mp h
    obtain ⟨values, hclean, hsame⟩ := ih hrest
    cases hkeep : keep entry with
    | true =>
      obtain ⟨a, ha, hread⟩ := hentry.kept hkeep
      refine ⟨a :: values, ?_, fun found hfound => ?_⟩
      · rw [List.filter_cons_of_pos hkeep]
        exact Checked.mapM_eq_ok.mpr (.cons ha (Checked.mapM_eq_ok.mp hclean))
      · rcases Checked.mapM_eq_ok.mp hfound with _ | ⟨hfirst, hothers⟩
        obtain ⟨hvalues, hcount⟩ := hsame _ (Checked.mapM_eq_ok.mpr hothers)
        rw [hread _ hfirst, List.filterMap_cons_some (f := id) rfl, hvalues, List.countP_cons,
          List.countP_cons, hcount, hkeep]
        exact ⟨rfl, rfl⟩
    | false =>
      refine ⟨values, ?_, fun found hfound => ?_⟩
      · rw [List.filter_cons_of_neg (by simp [hkeep])]
        exact hclean
      · rcases Checked.mapM_eq_ok.mp hfound with _ | ⟨hfirst, hothers⟩
        obtain ⟨hvalues, hcount⟩ := hsame _ (Checked.mapM_eq_ok.mpr hothers)
        rw [hentry.skipped hkeep _ hfirst, List.filterMap_cons_none (f := id) rfl, hvalues,
          List.countP_cons, List.countP_cons, hcount, hkeep]
        exact ⟨rfl, rfl⟩

/-- Entries of which none is skipped. -/
theorem readEntries_all {entries : List Json}
    (h : ∀ entry ∈ entries, ∃ a, read entry = .ok (some a)) :
    ∃ values, readEntries read entries = .ok (values, 0) ∧ values.length = entries.length := by
  have hclean : ∀ entry ∈ entries, Cleans read (fun _ => true) id entry := by
    intro entry hentry
    obtain ⟨a, ha⟩ := h entry hentry
    refine ⟨fun _ => ⟨a, ha, fun found hfound => ?_⟩, fun hkeep => by cases hkeep⟩
    rw [ha, Except.ok.injEq] at hfound
    exact hfound.symm
  obtain ⟨values, hvalues, -⟩ := readEntries_clean hclean
  rw [List.filter_true, List.map_id] at hvalues
  exact ⟨values, hvalues, by simpa using length_readEntries hvalues⟩

/-- An entry that has a fixed reading is its own clean form. -/
theorem Cleans.of_ready {keep : Json → Bool} {ready : Prop} {entry : Json}
    (hread : ready → ∃ a, read entry = .ok (if keep entry then some a else none))
    (hready : ∀ found, read entry = .ok found → ready) (hkeep : keep entry = true → ready) :
    Cleans read keep id entry := by
  refine ⟨fun hkept => ?_, fun hskipped found hfound => ?_⟩
  · obtain ⟨a, heq⟩ := hread (hkeep hkept)
    rw [if_pos hkept] at heq
    refine ⟨a, heq, fun found hfound => ?_⟩
    rw [heq, Except.ok.injEq] at hfound
    exact hfound.symm
  · obtain ⟨a, heq⟩ := hread (hready found hfound)
    rw [if_neg (by simp [hskipped]), hfound, Except.ok.injEq] at heq
    exact heq

end Entries

/-! ## What makes an entry sound -/

/-- The entry has an id; only objects have one. -/
def hasId (entry : Json) : Bool := (entry.get "id").truthy

/-- The entry has both ends of a link. -/
def hasEnds (entry : Json) : Bool := (entry.get "source").truthy && (entry.get "target").truthy

/-- The object has a type and a strength that exist, where it has one at all. -/
def hasWords (entry : Json) : Bool :=
  entry.isObject &&
    (Vocabulary.ofJson? (α := FlowType) ((entry.field? "flowType").getD
      ((entry.field? "flow_type").getD (.str "read")))).isSome &&
    (Vocabulary.ofJson? (α := Strength) ((entry.field? "strength").getD (.str "optional"))).isSome

/-- What the flow shares comes as lists, where it is given. -/
def hasLists (entry : Json) : Bool :=
  ((entry.field? "entities").getD (.arr [])).isList &&
    ((entry.field? "relationships").getD (.arr [])).isList

/-- The entry describes a flow. -/
def isFlow (entry : Json) : Bool := hasWords entry && hasLists entry

/-- The specification without what it depends on but is no object. -/
def withoutStrays (entry : Json) : Json :=
  entry.mapFields fun name value =>
    if name = "dependencies" then value.keepItems Json.isObject else value
/-- The entity lists of a flow, or what stands in their place, yield something. -/
def Yields (flow : Json) : Prop :=
  ∀ name ∈ ["entities", "relationships"], ∃ items,
    ((flow.field? name).getD (.arr [])).elements = .ok items

/-! ## One entry -/

/-- An object with an id is a module with that id. -/
theorem readModule_of_isObject {entry : Json} (h : entry.isObject = true) :
    ∃ m, readModule entry = .ok (if hasId entry then some m else none) ∧ m.id = entry.get "id" := by
  unfold readModule
  simp only [Json.part_of_isObject h, Checked.ok_bind]
  cases hid : hasId entry with
  | true =>
    rw [if_neg (by simpa [hasId, Json.get] using hid)]
    exact ⟨_, rfl, rfl⟩
  | false =>
    rw [if_pos (by simpa [hasId, Json.get] using hid)]
    exact ⟨⟨entry.get "id", .null, .null⟩, rfl, rfl⟩

/-- Only objects are read as modules. -/
theorem isObject_of_readModule {entry : Json} {found : Option Module}
    (h : readModule entry = .ok found) : entry.isObject = true := by
  obtain ⟨_, hid, -⟩ := Checked.bind_eq_ok.mp h
  exact Json.isObject_of_part hid

/-- An entry for a module is read or skipped if and only if it is an object. -/
theorem exists_readModule {entry : Json} :
    (∃ found, readModule entry = .ok found) ↔ entry.isObject = true := by
  constructor
  · intro hgiven
    obtain ⟨_, hfound⟩ := hgiven
    exact isObject_of_readModule hfound
  · intro h
    obtain ⟨_, hread, -⟩ := readModule_of_isObject h
    exact ⟨_, hread⟩

/-- Modules without an id are skipped, and the others read as they are. -/
theorem readModule_cleans (entry : Json) : Cleans readModule hasId id entry :=
  .of_ready (fun h => (readModule_of_isObject h).imp fun _ hm => hm.1)
    (fun _ => isObject_of_readModule) Json.isObject_of_truthy

/-- An object with both ends is a link. -/
theorem readLink_of_isObject {entry : Json} (h : entry.isObject = true) :
    ∃ link, readLink entry = .ok (if hasEnds entry then some link else none) := by
  unfold readLink
  simp only [Json.part_of_isObject h, Checked.ok_bind]
  cases hends : hasEnds entry with
  | true =>
    rw [if_neg (by simpa [hasEnds, Json.get] using hends)]
    exact ⟨_, rfl⟩
  | false =>
    rw [if_pos (by simpa only [hasEnds, Json.get, ← Bool.not_and, Bool.not_eq_true'] using hends)]
    exact ⟨⟨.null, .null, .null⟩, rfl⟩

/-- Only objects are read as links. -/
theorem isObject_of_readLink {entry : Json} {found : Option Link}
    (h : readLink entry = .ok found) : entry.isObject = true := by
  obtain ⟨_, hsource, -⟩ := Checked.bind_eq_ok.mp h
  exact Json.isObject_of_part hsource

/-- An entry for a link is read or skipped if and only if it is an object. -/
theorem exists_readLink {entry : Json} :
    (∃ found, readLink entry = .ok found) ↔ entry.isObject = true := by
  constructor
  · intro hgiven
    obtain ⟨_, hfound⟩ := hgiven
    exact isObject_of_readLink hfound
  · intro h
    obtain ⟨_, hread⟩ := readLink_of_isObject h
    exact ⟨_, hread⟩

/-- Links without both ends are skipped, and the others read as they are. -/
theorem readLink_cleans (entry : Json) : Cleans readLink hasEnds id entry :=
  .of_ready readLink_of_isObject (fun _ => isObject_of_readLink) fun h =>
    Json.isObject_of_truthy (Bool.and_eq_true_iff.mp h).1

/-- Dependencies are read if and only if they are objects. -/
theorem exists_readDependency {dependency : Json} :
    (∃ found, readDependency dependency = .ok found) ↔ dependency.isObject = true := by
  constructor
  · intro hgiven
    obtain ⟨found, hfound⟩ := hgiven
    obtain ⟨_, hspec, -⟩ := Checked.bind_eq_ok.mp hfound
    exact Json.isObject_of_part hspec
  · intro h
    unfold readDependency
    simp only [Json.part_of_isObject h, Checked.ok_bind]
    exact ⟨_, rfl⟩

/-- A specification as its fields say, with the dependencies that were read. -/
def specOf (entry : Json) (dependencies : List SpecDependency) : Spec × List SpecDependency :=
  (⟨entry.get "id", (entry.field? "title").getD (.str ""), entry.get "module"⟩, dependencies)

variable {entry : Json}

/-- Only objects are read as specifications. -/
theorem isObject_of_readSpec {found : Option (Spec × List SpecDependency)}
    (h : readSpec entry = .ok found) : entry.isObject = true := by
  obtain ⟨_, hid, -⟩ := Checked.bind_eq_ok.mp h
  exact Json.isObject_of_part hid

/-- A specification without an id is skipped before its dependencies are looked at. -/
theorem readSpec_of_not_hasId (hobject : entry.isObject = true) (hid : hasId entry = false) :
    readSpec entry = .ok none := by
  unfold readSpec
  simp only [Json.part_of_isObject hobject, Checked.ok_bind]
  rw [if_pos (by simpa [hasId, Json.get] using hid)]
  rfl

/-- One with an id is read together with all of its dependencies. -/
theorem readSpec_of_hasId (hid : hasId entry = true) (htext : (entry.get "id").IsText)
    (hlist : ∀ value ∈ entry.field? "dependencies", value.isList = true)
    {found : Option (Spec × List SpecDependency)} :
    readSpec entry = .ok found ↔ ∃ dependencies,
      (entry.itemsAt "dependencies").mapM readDependency = .ok dependencies ∧
        found = some (specOf entry dependencies) := by
  have hkey : (entry.get "id").isKey = true := by
    obtain ⟨s, hs⟩ := htext
    rw [hs]
    rfl
  unfold readSpec
  simp only [Json.part_of_isObject (Json.isObject_of_truthy hid), Checked.ok_bind,
    Json.elements_field? hlist]
  rw [if_neg (by simpa [hasId, Json.get] using hid)]
  simp only [Checked.bind_eq_ok]
  constructor
  · intro hgiven
    obtain ⟨dependencies, hdependencies, ⟨⟩, -, hfound⟩ := hgiven
    exact ⟨dependencies, hdependencies, (Checked.pure_eq_ok.mp hfound).symm⟩
  · intro hgiven
    obtain ⟨dependencies, hdependencies, rfl⟩ := hgiven
    exact ⟨dependencies, hdependencies, (), Checked.guardThat_eq_ok.mpr hkey, rfl⟩

/-- A specification is read if it is an object and, unless it is skipped, what it depends on are
objects. -/
theorem exists_readSpec (htext : hasId entry = true → (entry.get "id").IsText)
    (hlist : ∀ value ∈ entry.field? "dependencies", value.isList = true) :
    (∃ found, readSpec entry = .ok found) ↔ entry.isObject = true ∧ (hasId entry = true →
      ∀ dependency ∈ entry.itemsAt "dependencies", dependency.isObject = true) := by
  constructor
  · intro hgiven
    obtain ⟨found, hfound⟩ := hgiven
    refine ⟨isObject_of_readSpec hfound, fun hid dependency hdependency => ?_⟩
    obtain ⟨dependencies, hread, -⟩ := (readSpec_of_hasId hid (htext hid) hlist).mp hfound
    exact exists_readDependency.mp (Checked.exists_mapM_eq_ok.mp ⟨_, hread⟩ dependency hdependency)
  · intro hgiven
    obtain ⟨hobject, hobjects⟩ := hgiven
    cases hid : hasId entry with
    | true =>
      obtain ⟨dependencies, hread⟩ := Checked.exists_mapM_eq_ok.mpr fun dependency hdependency =>
        exists_readDependency.mpr (hobjects hid dependency hdependency)
      exact ⟨_, (readSpec_of_hasId hid (htext hid) hlist).mpr ⟨dependencies, hread, rfl⟩⟩
    | false => exact ⟨none, readSpec_of_not_hasId hobject hid⟩

/-- Leaving out stray dependencies leaves every other field as it is. -/
theorem field?_withoutStrays {key : String} (h : key ≠ "dependencies") :
    (withoutStrays entry).field? key = entry.field? key := by
  unfold withoutStrays
  rw [Json.field?_mapFields]
  simp [h]

theorem get_withoutStrays {key : String} (h : key ≠ "dependencies") :
    (withoutStrays entry).get key = entry.get key := by
  unfold Json.get
  rw [field?_withoutStrays h]

/-- In particular its id stays. -/
theorem hasId_withoutStrays : hasId (withoutStrays entry) = hasId entry := by
  unfold hasId
  rw [get_withoutStrays (by decide)]

/-- So does what is read besides the dependencies. -/
theorem specOf_withoutStrays : specOf (withoutStrays entry) = specOf entry := by
  funext dependencies
  unfold specOf
  rw [get_withoutStrays (by decide), get_withoutStrays (by decide), field?_withoutStrays (by decide)]

/-- The dependencies stay a list. -/
theorem isList_withoutStrays
    (hlist : ∀ value ∈ entry.field? "dependencies", value.isList = true) :
    ∀ value ∈ (withoutStrays entry).field? "dependencies", value.isList = true := by
  unfold withoutStrays
  rw [Json.field?_mapFields]
  intro value hvalue
  obtain ⟨given, hgiven, rfl⟩ := Option.map_eq_some_iff.mp hvalue
  cases given with
  | arr items => rfl
  | null | bool | int | float | str | obj => cases hlist _ hgiven

/-- What is left of the dependencies are the objects among them. -/
theorem itemsAt_withoutStrays
    (hlist : ∀ value ∈ entry.field? "dependencies", value.isList = true) :
    (withoutStrays entry).itemsAt "dependencies" =
      (entry.itemsAt "dependencies").filter Json.isObject := by
  rw [← List.map_id ((entry.itemsAt "dependencies").filter Json.isObject)]
  exact Json.itemsAt_mapFields hlist fun items => by simp [Json.keepItems]

/-- Specifications without an id are skipped; of the others stray dependencies can be left out. -/
theorem readSpec_cleans (htext : hasId entry = true → (entry.get "id").IsText)
    (hlist : ∀ value ∈ entry.field? "dependencies", value.isList = true) :
    Cleans readSpec hasId withoutStrays entry := by
  refine ⟨fun hid => ?_, fun hid found hfound => ?_⟩
  · obtain ⟨dependencies, hdependencies⟩ : ∃ dependencies,
        ((entry.itemsAt "dependencies").filter Json.isObject).mapM readDependency =
          .ok dependencies :=
      Checked.exists_mapM_eq_ok.mpr fun dependency hdependency =>
        exists_readDependency.mpr (List.mem_filter.mp hdependency).2
    have hclean : readSpec (withoutStrays entry) = .ok (some (specOf entry dependencies)) := by
      refine (readSpec_of_hasId (hasId_withoutStrays.trans hid) ?_
        (isList_withoutStrays hlist)).mpr ⟨dependencies, ?_, ?_⟩
      · rw [get_withoutStrays (by decide)]
        exact htext hid
      · rw [itemsAt_withoutStrays hlist]
        exact hdependencies
      · rw [specOf_withoutStrays]
    refine ⟨_, hclean, fun found hfound => ?_⟩
    obtain ⟨all, hall, rfl⟩ := (readSpec_of_hasId hid (htext hid) hlist).mp hfound
    -- The entry was read, so all of its dependencies are objects and none of them is a stray.
    have hobjects : (entry.itemsAt "dependencies").filter Json.isObject =
        entry.itemsAt "dependencies" :=
      List.filter_eq_self.mpr fun dependency hdependency =>
        exists_readDependency.mp (Checked.exists_mapM_eq_ok.mp ⟨all, hall⟩ dependency hdependency)
    rw [hobjects, hall, Except.ok.injEq] at hdependencies
    rw [hdependencies]
  · rw [readSpec_of_not_hasId (isObject_of_readSpec hfound) hid, Except.ok.injEq] at hfound
    exact hfound.symm

/-- A flow whose parts can be read is kept if its words exist, and skipped otherwise. -/
theorem readFlow_of_yields (hobject : entry.isObject = true) (hyields : Yields entry) :
    ∃ flow, readFlow entry = .ok (if hasWords entry then some flow else none) := by
  obtain ⟨entities, hentities⟩ := hyields "entities" (by simp)
  obtain ⟨relationships, hrelationships⟩ := hyields "relationships" (by simp)
  unfold readFlow DataFlow.ofJson DataFlow.eitherPart hasWords DataFlow.needMember
  simp only [Json.part_of_isObject hobject, Checked.ok_bind, hentities, hrelationships, hobject,
    Bool.true_and]
  cases htype : (Vocabulary.ofJson? ((entry.field? "flowType").getD
      ((entry.field? "flow_type").getD (.str "read"))) : Option FlowType) with
  | none => exact ⟨⟨.null, .null, [], .read, .optional, []⟩, rfl⟩
  | some flowType =>
    cases hstrength : (Vocabulary.ofJson? ((entry.field? "strength").getD (.str "optional")) :
        Option Strength) with
    | none => exact ⟨⟨.null, .null, [], .read, .optional, []⟩, rfl⟩
    | some strength => exact ⟨_, rfl⟩

/-- Nothing else is read as a flow. -/
theorem yields_of_readFlow {found : Option DataFlow} (h : readFlow entry = .ok found) :
    entry.isObject = true ∧ Yields entry := by
  by_cases hobject : entry.isObject = true
  · refine ⟨hobject, ?_⟩
    unfold readFlow DataFlow.ofJson DataFlow.eitherPart at h
    simp only [Json.part_of_isObject hobject, Checked.ok_bind] at h
    rcases Json.elements_cases ((entry.field? "entities").getD (.arr [])) with
      ⟨entities, hentities⟩ | hfault
    · rcases Json.elements_cases ((entry.field? "relationships").getD (.arr [])) with
        ⟨relationships, hrelationships⟩ | hfault
      · exact List.forall_mem_cons.mpr ⟨⟨entities, hentities⟩,
          List.forall_mem_singleton.mpr ⟨relationships, hrelationships⟩⟩
      · rw [hentities, hfault] at h
        cases h
    · rw [hfault] at h
      cases h
  · exfalso
    cases entry with
    | obj fields => exact hobject rfl
    | null | bool | int | float | str | arr => cases h

/-- An entry for a flow is read or skipped if and only if its parts can be read. -/
theorem exists_readFlow :
    (∃ found, readFlow entry = .ok found) ↔ entry.isObject = true ∧ Yields entry := by
  constructor
  · intro hgiven
    obtain ⟨_, hfound⟩ := hgiven
    exact yields_of_readFlow hfound
  · intro hgiven
    obtain ⟨hobject, hyields⟩ := hgiven
    obtain ⟨_, hread⟩ := readFlow_of_yields hobject hyields
    exact ⟨_, hread⟩

/-- Whatever keeps flows whose words exist, and no others, has its flows kept. -/
theorem readFlow_cleans {keep : Json → Bool} (hkeep : keep entry = true → Yields entry)
    (hwords : keep entry = hasWords entry) : Cleans readFlow keep id entry := by
  have hready : keep entry = true → entry.isObject = true ∧ Yields entry := by
    intro hkept
    refine ⟨?_, hkeep hkept⟩
    rw [hwords] at hkept
    exact (Bool.and_eq_true_iff.mp (Bool.and_eq_true_iff.mp hkept).1).1
  refine .of_ready (fun hready => ?_) (fun _ => yields_of_readFlow) hready
  rw [hwords]
  exact readFlow_of_yields hready.1 hready.2

/-- The parts of a flow can be read. -/
theorem yields_of_isFlow (h : isFlow entry = true) : Yields entry := by
  obtain ⟨hentities, hrelationships⟩ := Bool.and_eq_true_iff.mp (Bool.and_eq_true_iff.mp h).2
  have hlist : ∀ value : Json, value.isList = true → ∃ items, value.elements = .ok items := by
    intro value hvalue
    cases value with
    | arr items => exact ⟨items, rfl⟩
    | null | bool | int | float | str | obj => cases hvalue
  exact List.forall_mem_cons.mpr ⟨hlist _ hentities,
    List.forall_mem_singleton.mpr (hlist _ hrelationships)⟩

end ChangeImpact.Knowledge

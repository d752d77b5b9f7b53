import Mathlib.Data.List.Basic
import ChangeImpact.Proofs.Knowledge.Entries
import ChangeImpact.Proofs.Knowledge.Graph

/-!
# Malformed entries

A document of knowledge may hold entries that say nothing: modules and specifications without an id,
links without one of their ends, flows whose words do not exist. They are skipped, and what is loaded
is what would be loaded without them. Not so an entry that is no object: whatever part it stands in,
nothing is loaded. And the entities of a flow are whatever yields something, so that a text in their
place counts as its characters.

> `ofJson_cleaned`: the document without its malformed entries is always loaded; the document itself
> is loaded exactly if it is `Readable`, and gives the same exactly if its flows list what they share.
-/

namespace ChangeImpact.Knowledge

/-- A part of a document without its malformed entries. -/
def cleanedPart (name : String) (value : Json) : Json :=
  if name = "modules" then value.keepItems hasId
  else if name = "links" then value.keepItems hasEnds
  else if name = "specs" then (value.keepItems hasId).mapItems withoutStrays
  else if name = "flows" then value.keepItems isFlow
  else value

/-- The document without its malformed entries. -/
def cleaned (document : Json) : Json := document.mapFields cleanedPart

/-- The number of malformed entries of a document. -/
def malformed (document : Json) : Nat :=
  (document.itemsAt "modules").countP (!hasId ·) + (document.itemsAt "links").countP (!hasEnds ·) +
    (document.itemsAt "specs").countP (!hasId ·) + (document.itemsAt "flows").countP (!isFlow ·)

/-- The parts of the document are lists, the dependencies of its specifications too, ids are texts
and the imports are lists of texts. Nothing is said about the entries themselves. -/
structure Shaped (document : Json) : Prop where
  object : document.isObject = true
  parts : ∀ name ∈ ["modules", "links", "specs", "flows"], ∀ value ∈ document.field? name,
    value.isList = true
  dependencies : ∀ spec ∈ document.itemsAt "specs", ∀ value ∈ spec.field? "dependencies",
    value.isList = true
  ids : ∀ name ∈ ["modules", "specs"], ∀ entry ∈ document.itemsAt name, hasId entry = true →
    (entry.get "id").IsText
  imports : ∀ value ∈ document.field? "imports", ∃ fields, value = .obj fields ∧
    ∀ field ∈ fields, field.2.IsTexts

/-- Every entry is an object, and so is whatever a specification with an id depends on; what flows
share can be listed. -/
structure Readable (document : Json) : Prop where
  objects : ∀ name ∈ ["modules", "links", "specs", "flows"], ∀ entry ∈ document.itemsAt name,
    entry.isObject = true
  dependencies : ∀ spec ∈ document.itemsAt "specs", hasId spec = true →
    ∀ dependency ∈ spec.itemsAt "dependencies", dependency.isObject = true
  flows : ∀ flow ∈ document.itemsAt "flows", Yields flow

/-! ## Whole documents -/

/-- What the entries of all parts make up. -/
def gathered (modules : List Module) (links : List Link) (specs : List (Spec × List SpecDependency))
    (imports : List (String × List Name)) (flows : List DataFlow) : Knowledge where
  modules := modules.foldl (fun known m => putBy Module.id m known) []
  links := links
  specs := specs.foldl (fun known entry => putBy Spec.id entry.1 known) []
  specDependencies := specs.foldl (fun known entry => putBy Prod.fst (entry.1.id, entry.2) known) []
  imports := imports
  flows := flows

variable {document : Json}

namespace Shaped

/-- The parts of a shaped document have elements. -/
theorem elements (h : Shaped document) (name : String)
    (hname : name ∈ ["modules", "links", "specs", "flows"]) :
    ((document.field? name).getD (.arr [])).elements = .ok (document.itemsAt name) :=
  Json.elements_field? (h.parts name hname)

/-- The imports of a shaped document can be read. -/
theorem exists_imports (h : Shaped document) :
    ∃ imports, readImports ((document.field? "imports").getD (.obj [])) = .ok imports := by
  cases hfound : document.field? "imports" with
  | none => exact ⟨[], rfl⟩
  | some value =>
    obtain ⟨fields, rfl, htexts⟩ := h.imports value hfound
    unfold readImports
    split
    next => exact ⟨[], rfl⟩
    next =>
      refine Checked.exists_mapM_eq_ok.mpr fun field hfield => ?_
      obtain ⟨items, hitems, -⟩ := htexts field hfield
      obtain ⟨file, value⟩ := field
      cases hitems
      exact ⟨_, rfl⟩

/-- Its modules have ids that can be looked up. -/
theorem keys (h : Shaped document) {modules : List Module × Nat}
    (hmodules : readEntries readModule (document.itemsAt "modules") = .ok modules) :
    Json.needKeys (modules.1.map Module.id) = .ok () := by
  refine Checked.guardThat_eq_ok.mpr (List.all_eq_true.mpr fun id hid => ?_)
  obtain ⟨m, hm, rfl⟩ := List.mem_map.mp hid
  obtain ⟨entry, hentry, hread⟩ := exists_of_readEntries hmodules hm
  obtain ⟨found, hfound, heq⟩ := readModule_of_isObject (isObject_of_readModule hread)
  cases hhas : hasId entry with
  | true =>
    rw [hread, hhas, Except.ok.injEq, if_pos rfl, Option.some.injEq] at hfound
    obtain ⟨s, hs⟩ := h.ids "modules" (by simp) entry hentry hhas
    rw [hfound, heq, hs]
    rfl
  | false =>
    rw [hread, hhas] at hfound
    cases hfound

/-- Such a document is loaded if and only if its entries are read, and then it gathers them. -/
theorem ofJson_eq_ok (h : Shaped document) {imports : List (String × List Name)}
    (himports : readImports ((document.field? "imports").getD (.obj [])) = .ok imports)
    {loaded : Loaded} :
    ofJson document = .ok loaded ↔ ∃ modules links specs flows,
      readEntries readModule (document.itemsAt "modules") = .ok modules ∧
      readEntries readLink (document.itemsAt "links") = .ok links ∧
      readEntries readSpec (document.itemsAt "specs") = .ok specs ∧
      readEntries readFlow (document.itemsAt "flows") = .ok flows ∧
      loaded = ⟨gathered modules.1 links.1 specs.1 imports flows.1,
        modules.2 + links.2 + specs.2 + flows.2⟩ := by
  have hmodules := h.elements "modules" (by simp)
  have hlinks := h.elements "links" (by simp)
  have hspecs := h.elements "specs" (by simp)
  have hflows := h.elements "flows" (by simp)
  have hobject := h.object
  cases document with
  | obj fields =>
    unfold ofJson
    simp only [Json.part_of_isObject hobject, Checked.ok_bind, hmodules, hlinks, hspecs, hflows,
      himports, Checked.bind_eq_ok]
    constructor
    · intro hgiven
      obtain ⟨modules, hm, links, hl, specs, hs, flows, hf, ⟨⟩, -, hloaded⟩ := hgiven
      exact ⟨modules, links, specs, flows, hm, hl, hs, hf, (Checked.pure_eq_ok.mp hloaded).symm⟩
    · intro hgiven
      obtain ⟨modules, links, specs, flows, hm, hl, hs, hf, rfl⟩ := hgiven
      exact ⟨modules, hm, links, hl, specs, hs, flows, hf, (), h.keys hm, rfl⟩
  | null | bool | int | float | str | arr => cases hobject

/-- Its specifications are skipped or read as if stray dependencies were not there. -/
theorem readSpec_cleans (h : Shaped document) :
    ∀ entry ∈ document.itemsAt "specs", Cleans readSpec hasId withoutStrays entry := fun entry hentry =>
  Knowledge.readSpec_cleans (h.ids "specs" (by simp) entry hentry) (h.dependencies entry hentry)

/-- A document is loaded exactly if every entry of every part is read. -/
theorem exists_ofJson (h : Shaped document) :
    (∃ loaded, ofJson document = .ok loaded) ↔ Readable document := by
  obtain ⟨imports, himports⟩ := h.exists_imports
  -- a document is read if and only if each of its four parts is
  have hparts : (∃ loaded, ofJson document = .ok loaded) ↔
      (∃ modules, readEntries readModule (document.itemsAt "modules") = .ok modules) ∧
      (∃ links, readEntries readLink (document.itemsAt "links") = .ok links) ∧
      (∃ specs, readEntries readSpec (document.itemsAt "specs") = .ok specs) ∧
      ∃ flows, readEntries readFlow (document.itemsAt "flows") = .ok flows := by
    simp only [h.ofJson_eq_ok himports]
    constructor
    · rintro ⟨_, modules, links, specs, flows, hm, hl, hs, hf, -⟩
      exact ⟨⟨modules, hm⟩, ⟨links, hl⟩, ⟨specs, hs⟩, flows, hf⟩
    · rintro ⟨⟨modules, hm⟩, ⟨links, hl⟩, ⟨specs, hs⟩, flows, hf⟩
      exact ⟨_, modules, links, specs, flows, hm, hl, hs, hf, rfl⟩
  have hspecs := forall₂_congr fun entry (hentry : entry ∈ document.itemsAt "specs") =>
    exists_readSpec (h.ids "specs" (by simp) entry hentry) (h.dependencies entry hentry)
  rw [hparts, exists_readEntries, exists_readEntries, exists_readEntries, exists_readEntries, hspecs]
  simp only [exists_readModule, exists_readLink, exists_readFlow]
  constructor
  · rintro ⟨hmodule, hlink, hspec, hflow⟩
    refine ⟨?_, fun spec hmem => (hspec spec hmem).2, fun flow hmem => (hflow flow hmem).2⟩
    exact List.forall_mem_cons.mpr ⟨hmodule, List.forall_mem_cons.mpr ⟨hlink, List.forall_mem_cons.mpr
      ⟨fun spec hmem => (hspec spec hmem).1,
        List.forall_mem_singleton.mpr fun flow hmem => (hflow flow hmem).1⟩⟩⟩
  · intro hready
    have hobjects := hready.objects
    exact ⟨hobjects "modules" (by simp), hobjects "links" (by simp),
      fun spec hmem => ⟨hobjects "specs" (by simp) spec hmem, hready.dependencies spec hmem⟩,
      fun flow hmem => ⟨hobjects "flows" (by simp) flow hmem, hready.flows flow hmem⟩⟩

end Shaped

/-! ## The document without its malformed entries -/

/-- Cleaning a part leaves it a list. -/
theorem isList_cleanedPart {name : String} {value : Json} (h : value.isList = true) :
    (cleanedPart name value).isList = true := by
  cases value with
  | arr items =>
    unfold cleanedPart
    split_ifs <;> rfl
  | null | bool | int | float | str | obj => cases h

/-- Imports are not touched. -/
theorem field?_cleaned_imports : (cleaned document).field? "imports" = document.field? "imports" := by
  unfold cleaned
  rw [Json.field?_mapFields]
  cases document.field? "imports" <;> rfl

/-- What is left of a part are the entries that are kept, cleaned one by one. -/
theorem itemsAt_cleaned {name : String} {keep : Json → Bool} {clean : Json → Json}
    (h : Shaped document) (hname : name ∈ ["modules", "links", "specs", "flows"])
    (hpart : ∀ items, cleanedPart name (.arr items) = .arr ((items.filter keep).map clean)) :
    (cleaned document).itemsAt name = ((document.itemsAt name).filter keep).map clean :=
  Json.itemsAt_mapFields (h.parts name hname) hpart

namespace Shaped

/-- Of modules those with an id are left. -/
theorem cleaned_modules (h : Shaped document) :
    (cleaned document).itemsAt "modules" = ((document.itemsAt "modules").filter hasId).map id :=
  itemsAt_cleaned h (by simp) fun items => by rw [List.map_id]; rfl

/-- Of links those with both ends. -/
theorem cleaned_links (h : Shaped document) :
    (cleaned document).itemsAt "links" = ((document.itemsAt "links").filter hasEnds).map id :=
  itemsAt_cleaned h (by simp) fun items => by rw [List.map_id]; rfl

/-- Of specifications those with an id, without stray dependencies. -/
theorem cleaned_specs (h : Shaped document) : (cleaned document).itemsAt "specs" =
    ((document.itemsAt "specs").filter hasId).map withoutStrays :=
  itemsAt_cleaned h (by simp) fun items => rfl

/-- Of flows those whose words exist. -/
theorem cleaned_flows (h : Shaped document) : (cleaned document).itemsAt "flows" =
    ((document.itemsAt "flows").filter isFlow).map id :=
  itemsAt_cleaned h (by simp) fun items => by rw [List.map_id]; rfl

/-- A cleaned document has the same shape. -/
theorem cleaned (h : Shaped document) : Shaped (cleaned document) where
  object := (Json.isObject_mapFields _).trans h.object
  parts := by
    intro name hname value hvalue
    unfold Knowledge.cleaned at hvalue
    rw [Json.field?_mapFields] at hvalue
    obtain ⟨given, hgiven, rfl⟩ := Option.map_eq_some_iff.mp hvalue
    exact isList_cleanedPart (h.parts name hname given hgiven)
  dependencies := by
    intro spec hspec
    rw [h.cleaned_specs] at hspec
    obtain ⟨entry, hentry, rfl⟩ := List.mem_map.mp hspec
    exact isList_withoutStrays (h.dependencies entry (List.mem_of_mem_filter hentry))
  ids := by
    refine List.forall_mem_cons.mpr ⟨fun entry hentry => ?_,
      List.forall_mem_singleton.mpr fun spec hspec => ?_⟩
    · -- entries of modules stay as they are; those of specifications lose their stray dependencies
      rw [h.cleaned_modules, List.map_id] at hentry
      exact h.ids "modules" (by simp) entry (List.mem_of_mem_filter hentry)
    · rw [h.cleaned_specs] at hspec
      obtain ⟨entry, hentry, rfl⟩ := List.mem_map.mp hspec
      rw [hasId_withoutStrays, get_withoutStrays (by decide)]
      exact h.ids "specs" (by simp) entry (List.mem_of_mem_filter hentry)
  imports := by
    rw [field?_cleaned_imports]
    exact h.imports

end Shaped

/-- Every flow whose words exist lists what it shares. -/
def ListsShared (document : Json) : Prop :=
  ∀ flow ∈ document.itemsAt "flows", hasWords flow = true → hasLists flow = true

/-- Where lists are shared a flow counts by its words alone. -/
theorem isFlow_eq_hasWords (h : ListsShared document) :
    ∀ flow ∈ document.itemsAt "flows", isFlow flow = hasWords flow := by
  intro flow hflow
  unfold isFlow
  cases hwords : hasWords flow with
  | true => exact h flow hflow hwords
  | false => rfl

/-- If no fewer flows are sound than have words that exist, they are the same flows. -/
theorem listsShared_of_length
    (h : ((document.itemsAt "flows").filter isFlow).length =
      ((document.itemsAt "flows").filter hasWords).length) : ListsShared document := by
  have hsub : ((document.itemsAt "flows").filter isFlow).Sublist
      ((document.itemsAt "flows").filter hasWords) :=
    List.monotone_filter_right _ fun flow hflow => (Bool.and_eq_true_iff.mp hflow).1
  intro flow hflow hwords
  have hmem : flow ∈ (document.itemsAt "flows").filter isFlow :=
    hsub.eq_of_length h ▸ List.mem_filter.mpr ⟨hflow, hwords⟩
  exact (Bool.and_eq_true_iff.mp (List.mem_filter.mp hmem).2).2

/-- The flows of a document without its malformed entries, and what they have to do with those that
are read of the document itself. -/
theorem readEntries_flows (document : Json) :
    ∃ values, readEntries readFlow ((document.itemsAt "flows").filter isFlow) = .ok (values, 0) ∧
      ∀ flows, readEntries readFlow (document.itemsAt "flows") = .ok flows →
        (flows.1 = values ↔ ListsShared document) ∧
          (ListsShared document → flows.2 = (document.itemsAt "flows").countP (!isFlow ·)) := by
  have hread : ∀ entry ∈ (document.itemsAt "flows").filter isFlow,
      ∃ flow, readFlow entry = .ok (some flow) := by
    intro entry hentry
    have hflow := (List.mem_filter.mp hentry).2
    have hwords := (Bool.and_eq_true_iff.mp hflow).1
    obtain ⟨flow, heq⟩ := readFlow_of_yields
      (Bool.and_eq_true_iff.mp (Bool.and_eq_true_iff.mp hwords).1).1 (yields_of_isFlow hflow)
    rw [if_pos hwords] at heq
    exact ⟨flow, heq⟩
  obtain ⟨values, hvalues, hlength⟩ := readEntries_all hread
  refine ⟨values, hvalues, fun flows hflows => ?_⟩
  -- All flows are read here, so whether one is skipped depends on its words alone.
  have hcleans : ∀ entry ∈ document.itemsAt "flows", Cleans readFlow hasWords id entry := by
    intro entry hentry
    obtain ⟨found, hfound⟩ := exists_readEntries.mp ⟨flows, hflows⟩ entry hentry
    exact readFlow_cleans (fun _ => (yields_of_readFlow hfound).2) rfl
  obtain ⟨worded, hworded, hsame⟩ := readEntries_clean hcleans
  rw [List.map_id] at hworded
  obtain rfl := hsame flows hflows
  refine ⟨⟨fun heq => listsShared_of_length ?_, fun hshared => ?_⟩, fun hshared => ?_⟩
  · have hcount := length_readEntries hworded
    rw [← hlength, ← hcount, Nat.add_zero]
    exact congrArg List.length heq.symm
  · rw [List.filter_congr (isFlow_eq_hasWords hshared), hworded, Except.ok.injEq] at hvalues
    exact congrArg Prod.fst hvalues
  · exact List.countP_congr fun flow hflow => by rw [isFlow_eq_hasWords hshared flow hflow]

/-- **Malformed entries.** The document without its malformed entries is loaded, and nothing of it is
skipped. The document itself is loaded exactly if all entries are objects, so are the dependencies of
its specifications, and its flows yield what they share. What is then known is what is known without
the malformed entries exactly if every flow whose words exist lists what it shares, and then as many
entries are skipped as are malformed. -/
theorem ofJson_cleaned (h : Shaped document) :
    ((∃ loaded, ofJson document = .ok loaded) ↔ Readable document) ∧
      ∃ k, ofJson (cleaned document) = .ok ⟨k, 0⟩ ∧
        ∀ loaded, ofJson document = .ok loaded → (loaded.knowledge = k ↔ ListsShared document) ∧
          (ListsShared document → loaded.skipped = malformed document) := by
  obtain ⟨imports, himports⟩ := h.exists_imports
  have himports' : readImports (((cleaned document).field? "imports").getD (.obj [])) =
      .ok imports := by
    rw [field?_cleaned_imports]
    exact himports
  -- part by part, the cleaned entries are read as the others were
  obtain ⟨modules, hmodules, hsameModules⟩ := readEntries_clean fun entry
    (_ : entry ∈ document.itemsAt "modules") => readModule_cleans entry
  obtain ⟨links, hlinks, hsameLinks⟩ := readEntries_clean fun entry
    (_ : entry ∈ document.itemsAt "links") => readLink_cleans entry
  obtain ⟨specs, hspecs, hsameSpecs⟩ := readEntries_clean h.readSpec_cleans
  obtain ⟨flows, hflows, hsameFlows⟩ := readEntries_flows document
  rw [← h.cleaned_modules] at hmodules
  rw [← h.cleaned_links] at hlinks
  rw [← h.cleaned_specs] at hspecs
  rw [← List.map_id ((document.itemsAt "flows").filter isFlow), ← h.cleaned_flows] at hflows
  refine ⟨h.exists_ofJson, gathered modules links specs imports flows,
    (h.cleaned.ofJson_eq_ok himports').mpr ⟨_, _, _, _, hmodules, hlinks, hspecs, hflows, rfl⟩,
    fun loaded hloaded => ?_⟩
  obtain ⟨ms, ls, ss, fs, hms, hls, hss, hfs, rfl⟩ := (h.ofJson_eq_ok himports).mp hloaded
  obtain rfl := hsameModules ms hms
  obtain rfl := hsameLinks ls hls
  obtain rfl := hsameSpecs ss hss
  obtain ⟨hvalues, hcount⟩ := hsameFlows fs hfs
  refine ⟨?_, fun hshared => ?_⟩
  · rw [← hvalues]
    exact ⟨congrArg Knowledge.flows, fun heq => heq ▸ rfl⟩
  · show _ + _ + _ + fs.2 = _
    rw [hcount hshared]
    rfl

/-- A module without an id, a link without a target, a specification without an id and a flow of no
known type, each beside a sound entry. -/
def patchwork : Json := .obj
  [("modules", .arr [.obj [("id", "users")], .obj [("name", "nobody")]]),
    ("links", .arr [.obj [("source", "orders")], .obj [("source", "orders"), ("target", "users")]]),
    ("specs", .arr [.obj [("id", "login"), ("dependencies", .arr [.obj [("spec", "signup")]])],
      .obj [("id", ""), ("dependencies", .arr [.null])]]),
    ("imports", .obj [("order.py", .arr ["user.py"])]),
    ("flows", .arr [.obj [("from", "users"), ("to", "orders"), ("entities", .arr ["User"])],
      .obj [("flowType", "sideways"), ("entities", "User")]])]

theorem ofJson_cleaned_patchwork :
    Shaped patchwork ∧ ∃ loaded, ofJson patchwork = .ok loaded ∧ loaded.skipped = 4 ∧
      ofJson (cleaned patchwork) = .ok ⟨loaded.knowledge, 0⟩ := by
  have hshaped : Shaped patchwork := by
    refine ⟨rfl, by decide +kernel, by decide +kernel, by decide +kernel, fun value hvalue => ?_⟩
    cases hvalue
    exact ⟨_, rfl, List.forall_mem_singleton.mpr ⟨_, rfl, by decide⟩⟩
  obtain ⟨hloads, k, hclean, hsame⟩ := ofJson_cleaned hshaped
  have hready : Readable patchwork := by
    refine ⟨by decide +kernel, by decide +kernel, List.forall_mem_cons.mpr
      ⟨List.forall_mem_cons.mpr ⟨⟨_, rfl⟩, List.forall_mem_singleton.mpr ⟨_, rfl⟩⟩,
        List.forall_mem_singleton.mpr (List.forall_mem_cons.mpr ⟨⟨_, rfl⟩,
          List.forall_mem_singleton.mpr ⟨_, rfl⟩⟩)⟩⟩
  obtain ⟨loaded, hloaded⟩ := hloads.mpr hready
  have hshared : ListsShared patchwork := by
    unfold ListsShared
    decide +kernel
  obtain ⟨hknown, hskipped⟩ := hsame loaded hloaded
  refine ⟨hshaped, loaded, hloaded, ?_, ?_⟩
  · rw [hskipped hshared]
    decide +kernel
  · rw [hknown.mpr hshared]
    exact hclean

/-- A number among the modules: nothing is loaded, though nothing else is wrong and without it all
would be. -/
theorem ofJson_number_among_modules :
    Shaped (.obj [("modules", .arr [.int 5])]) ∧
      ofJson (.obj [("modules", .arr [.int 5])]) = .error .noSuchPart ∧
      cleaned (.obj [("modules", .arr [.int 5])]) = .obj [("modules", .arr [])] ∧
      ofJson (.obj [("modules", .arr [])]) = .ok ⟨.empty, 0⟩ := by
  refine ⟨⟨rfl, by decide +kernel, by decide +kernel, by decide +kernel, fun value hvalue => ?_⟩,
    by decide +kernel, by decide +kernel, by decide +kernel⟩
  cases hvalue

end ChangeImpact.Knowledge

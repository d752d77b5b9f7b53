import ChangeImpact.Proofs.Knowledge.Graph
import ChangeImpact.Proofs.Scope.Layers
import ChangeImpact.Scope.Detection

/-!
# How a dependent module was found

A dependent module comes with the way that an expansion took to it and with the last step in words.
Both can be relied on:

> `detect_tracesModules`: the way starts at a primary module or at the specification of the change and
> goes on by links, or first by a dependency, that the project has; the reason names the last of them;
> and every module on the way was listed before, with the part of the way that leads to it.

`Trail` is such a way with its reason. The starts of an expansion are trails, and every step makes a
trail longer.
-/

namespace ChangeImpact

open Traversal

namespace Knowledge

/-- The words name a link on which an expansion goes from `a` to `b`: one from `b` to `a`, by its type,
or one by which `a` depends on `b`. -/
def NamesLink (k : Knowledge) (a b : Name) (words : String) : Prop :=
  (∃ link ∈ k.links, link.source = b ∧ link.target = a ∧
      words = s!"{link.type.display} {a.display}") ∨
    ∃ link ∈ k.links, link.source = a ∧ link.target = b ∧ link.type = .str "depends_on" ∧
      words = s!"dependency of {a.display}"

/-- The words name a dependency of the specification on something in the module. -/
def NamesDependency (k : Knowledge) (specId id : Name) (words : String) : Prop :=
  specId.truthy = true ∧ ∃ dep ∈ k.dependenciesOf specId, dep.moduleId = id ∧
    words = s!"Spec {dep.relationship.display}: {dep.specId.display}"

/-- A way that leads to a module, with the words for its last step. It starts with a link of a primary
module, or with a dependency of the specification, and goes on from module to module by links. -/
inductive Trail (k : Knowledge) (primary : List Name) (specId : Name) :
    List Name → Name → String → Prop
  | ofPrimary {a b : Name} {words : String} (start : a ∈ primary) (link : k.NamesLink a b words) :
      Trail k primary specId [a] b words
  | ofSpec {b : Name} {words : String} (dependency : k.NamesDependency specId b words) :
      Trail k primary specId [.str s!"spec:{specId.display}"] b words
  | onwards {way : List Name} {a b : Name} {before words : String}
      (trail : Trail k primary specId way a before) (link : k.NamesLink a b words) :
      Trail k primary specId (way ++ [a]) b words

variable {k : Knowledge}

/-- What an expansion finds next to a module comes with the name of a link. -/
theorem namesLink_of_mem (ht : k.TextIds) {a : Name} {next : Name × String}
    (h : next ∈ Expansion.linkedModules k a) : k.NamesLink a next.1 next.2 := by
  rcases List.mem_append.mp h with hin | hout
  · obtain ⟨link, hlink, rfl⟩ := List.mem_map.mp hin
    obtain ⟨hmem, htarget⟩ := (mem_incoming ht).mp hlink
    exact Or.inl ⟨link, hmem, rfl, htarget, rfl⟩
  · obtain ⟨link, hlink, rfl⟩ := List.mem_map.mp hout
    obtain ⟨hlink, htype⟩ := List.mem_filter.mp hlink
    obtain ⟨hmem, hsource⟩ := (mem_outgoing ht).mp hlink
    exact Or.inr ⟨link, hmem, hsource, rfl, of_decide_eq_true htype, rfl⟩

end Knowledge

namespace Expansion

open Knowledge

variable {k : Knowledge} {primary : List Name} {specId : Name}

/-- What a step leads to has the node that it is made from at the end of its way, and a link from it
for its reason. -/
theorem namesLink_of_step (ht : k.TextIds) {visit next : Visit Name Approach}
    (h : next ∈ (moduleTerrain (some k)).steps visit) :
    next.note.path = visit.note.path ++ [visit.node] ∧
      k.NamesLink visit.node next.node next.note.reason := by
  obtain ⟨link, hlink, rfl⟩ := List.mem_map.mp h
  exact ⟨rfl, namesLink_of_mem ht (List.mem_filter.mp hlink).1⟩

/-- The first meetings of an expansion are one step along a trail. -/
theorem trail_of_first (ht : k.TextIds) {visit : Visit Name Approach}
    (h : visit ∈ specModules (some k) specId ++
      (startAt primary).flatMap (moduleTerrain (some k)).steps) :
    k.Trail primary specId visit.note.path visit.node visit.note.reason := by
  rcases List.mem_append.mp h with hspec | hlinked
  · unfold specModules at hspec
    dsimp only at hspec
    split at hspec
    next htruthy =>
      obtain ⟨dep, hdep, rfl⟩ := List.mem_map.mp hspec
      exact .ofSpec ⟨htruthy, dep, (List.mem_filter.mp hdep).1, rfl, rfl⟩
    next => cases hspec
  · obtain ⟨start, hstart, hstep⟩ := List.mem_flatMap.mp hlinked
    obtain ⟨id, hid, rfl⟩ := List.mem_map.mp hstart
    obtain ⟨hpath, hlink⟩ := namesLink_of_step ht hstep
    rw [hpath]
    exact .ofPrimary hid hlink

/-- Whatever stands in the layers was found along its trail. -/
theorem trail_of_mem_layer (ht : k.TextIds) {sources : Sources} (hmodules : sources.modules = some k)
    (hspecs : sources.specs = some k) {depth n : Nat} {layer : List (Visit Name Approach)}
    (hlayer : (moduleLayers sources depth primary specId)[n]? = some layer) :
    ∀ visit ∈ layer, k.Trail primary specId visit.note.path visit.node visit.note.reason := by
  unfold moduleLayers at hlayer
  rw [hmodules, hspecs] at hlayer
  refine layers_note (P := fun _ visit =>
    k.Trail primary specId visit.note.path visit.node visit.note.reason) (i := 1) ?_ depth
    (fun visit hvisit => trail_of_first ht hvisit) n layer hlayer
  intro _ visit htrail next hnext
  obtain ⟨hpath, hlink⟩ := namesLink_of_step ht hnext
  rw [hpath]
  exact .onwards htrail hlink

theorem trail_of_mem_dependentModules (ht : k.TextIds) {sources : Sources}
    (hmodules : sources.modules = some k) (hspecs : sources.specs = some k) {depth : Nat}
    {m : ScopedModule} (hm : m ∈ dependentModules sources depth primary specId) :
    k.Trail primary specId m.path m.moduleId m.reason := by
  rw [dependentModules_eq] at hm
  obtain ⟨⟨visit, n⟩, hentry, rfl⟩ := List.mem_map.mp hm
  obtain ⟨layer, hlayer, hvisit⟩ := mem_numbered.mp hentry
  exact trail_of_mem_layer ht hmodules hspecs hlayer visit hvisit

/-- Every module that a way passes through is listed before the module that it leads to. -/
theorem exists_earlier_module (sources : Sources) {depth : Nat} {before after : List ScopedModule}
    {m : ScopedModule} (hsplit : dependentModules sources depth primary specId = before ++ m :: after)
    {i : Nat} (hpos : 0 < i) (hi : i < m.path.length) :
    ∃ other ∈ before, m.path[i]? = some other.moduleId ∧ other.path = m.path.take i := by
  rw [dependentModules_eq] at hsplit
  obtain ⟨entries, rest, hentries, rfl, hrest⟩ := List.map_eq_append_iff.mp hsplit
  obtain ⟨⟨visit, n⟩, later, rfl, rfl, -⟩ := List.map_eq_cons_iff.mp hrest
  have hentry : (visit, n) ∈ numbered (moduleLayers sources depth primary specId) := by
    rw [hentries]
    exact List.mem_append_right _ (List.mem_cons_self ..)
  obtain ⟨layer, hlayer, hvisit⟩ := mem_numbered.mp hentry
  obtain ⟨j, earlier, hj, hearlier, other, hother, hnode, hpath⟩ :=
    exists_earlier_of_mem_layer (extends_moduleTerrain sources.modules)
      (fun _ hvisit => length_path_of_firstModule hvisit) n layer hlayer visit hvisit i hpos hi
  have hbefore := numbered_before hentries (mem_numbered.mpr ⟨earlier, hearlier, hother⟩) hj
  exact ⟨_, List.mem_map_of_mem hbefore, hnode, hpath⟩

end Expansion

/-! ## Scopes -/

namespace Scope

open Knowledge

/-- Every dependent module of the scope was found along its trail, and every later stop on its way is a
dependent module listed before it, which was found along the part of the way up to there. -/
structure TracesModules (k : Knowledge) (specId : Name) (scope : Scope) : Prop where
  trails : ∀ m ∈ scope.dependentModules,
    k.Trail scope.primaryModules specId m.path m.moduleId m.reason
  earlier : ∀ before m after, scope.dependentModules = before ++ m :: after →
    ∀ i, 0 < i → i < m.path.length →
      ∃ other ∈ before, m.path[i]? = some other.moduleId ∧ other.path = m.path.take i

/-- **Ways are real.** With one project as what is known of modules and specifications, the scope of
any change traces its dependent modules. -/
theorem detect_tracesModules {k : Knowledge} (ht : k.TextIds) (imports flows : Option Knowledge)
    (reach : Reach) (change : Change) (parsed : Parsed) :
    (detect ⟨some k, some k, imports, flows⟩ reach change parsed).TracesModules k change.specId :=
  ⟨fun _ hm => Expansion.trail_of_mem_dependentModules ht rfl rfl hm,
    fun _ _ _ hsplit _ hpos hi => Expansion.exists_earlier_module _ hsplit hpos hi⟩

/-- A project in which a way from a primary module and one from a specification cross, with links that
are followed in both directions. -/
def relay : Knowledge where
  modules := [⟨"orders", "Orders", .arr []⟩, ⟨"billing", "Billing", .arr []⟩,
    ⟨"audit", "Audit", .arr []⟩, ⟨"mail", "Mail", .arr []⟩, ⟨"sms", "Sms", .arr []⟩]
  links := [⟨"billing", "orders", "uses"⟩, ⟨"mail", "audit", "depends_on"⟩,
    ⟨"audit", "billing", "calls"⟩, ⟨"sms", "audit", "calls"⟩]
  specs := []
  specDependencies := [("S-1", [⟨"S-2", "mail", "extends"⟩])]
  imports := []
  flows := []

theorem detect_tracesModules_relay :
    relay.TextIds ∧
    (detect (.all relay) .standard ⟨"", ["orders"], [], "S-1", none⟩
      ⟨[], [], [], .feature, .ofNat 0⟩).TracesModules relay "S-1" ∧
    (detect (.all relay) .standard ⟨"", ["orders"], [], "S-1", none⟩
      ⟨[], [], [], .feature, .ofNat 0⟩).dependentModules.map
        (fun m => (m.moduleId, m.path, m.reason)) =
      [(.str "mail", [.str "spec:S-1"], "Spec extends: S-2"),
        (.str "billing", [.str "orders"], "uses orders"),
        (.str "audit", [.str "spec:S-1", .str "mail"], "dependency of mail"),
        (.str "sms", [.str "spec:S-1", .str "mail", .str "audit"], "calls audit")] := by
  have hids : relay.TextIds := by
    refine ⟨?_, ?_⟩
    · simp [relay, Json.isText_str]
    · simp [relay, Json.isText_str]
  refine ⟨hids, ?_, by decide +kernel⟩
  exact detect_tracesModules hids (some relay) (some relay) .standard
    ⟨"", ["orders"], [], "S-1", none⟩ ⟨[], [], [], .feature, .ofNat 0⟩

end Scope

end ChangeImpact

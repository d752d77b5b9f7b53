import ChangeImpact.Scope.Expansion
import ChangeImpact.Knowledge.Document
import ChangeImpact.Proofs.Checked
import ChangeImpact.Proofs.Json.Names

/-!
# The module graph of a project

The links of a project's knowledge say where an impact on a module spreads: to the modules that
link to it in any way, and to those that it depends on. `Knowledge.Spreads` is this relation, and
`exists_mem_linkedModules_iff` says that the links which an expansion follows are exactly it.

Only modules that the knowledge knows take part. A module is known under an id that is not empty;
knowledge that was read from a document has no others (`ofJson_truthy_id`).
-/

namespace ChangeImpact.Knowledge

/-- Modules and the ends of links are named by texts. -/
structure TextIds (k : Knowledge) : Prop where
  modules : ∀ m ∈ k.modules, m.id.IsText
  links : ∀ link ∈ k.links, link.source.IsText ∧ link.target.IsText

/-- There is a module with that id, and the id is not empty. -/
def Knows (k : Knowledge) (id : Name) : Prop := id.truthy = true ∧ (k.module? id).isSome = true

/-- An impact on module `a` is one on the known module `b` as well, because `b` links to `a` or
because `a` depends on `b`. -/
def Spreads (k : Knowledge) (a b : Name) : Prop :=
  k.Knows b ∧ ((∃ link ∈ k.links, link.source = b ∧ link.target = a) ∨
    ∃ link ∈ k.links, link.source = a ∧ link.target = b ∧ link.type = .str "depends_on")

variable {k : Knowledge}

/-- A known module has a text for its id, if all modules have. -/
theorem TextIds.isText (ht : k.TextIds) {id : Name} (h : (k.module? id).isSome = true) :
    id.IsText := by
  obtain ⟨m, hm⟩ := Option.isSome_iff_exists.mp h
  have hid : (m.id == id) = true := by simpa using List.find?_some hm
  have hm := ht.modules m (List.mem_of_find?_eq_some hm)
  rw [← hm.eq_of_beq hid]
  exact hm

/-- The incoming links of an id are those whose target it is. -/
theorem mem_incoming (ht : k.TextIds) {link : Link} {id : Name} :
    link ∈ k.incoming id ↔ link ∈ k.links ∧ link.target = id := by
  unfold incoming
  rw [List.mem_filter]
  exact and_congr_right fun h => (ht.links link h).2.equals_iff

/-- The outgoing ones are those whose source it is. -/
theorem mem_outgoing (ht : k.TextIds) {link : Link} {id : Name} :
    link ∈ k.outgoing id ↔ link ∈ k.links ∧ link.source = id := by
  unfold outgoing
  rw [List.mem_filter]
  exact and_congr_right fun h => (ht.links link h).1.equals_iff

/-- The links that an expansion follows lead where an impact spreads. -/
theorem exists_mem_linkedModules_iff (ht : k.TextIds) {a b : Name} (hb : k.Knows b) :
    (∃ next ∈ Expansion.linkedModules k a, next.1 = b) ↔ k.Spreads a b := by
  unfold Expansion.linkedModules Spreads
  constructor
  · intro hgiven
    obtain ⟨next, hnext, rfl⟩ := hgiven
    refine ⟨hb, ?_⟩
    rcases List.mem_append.mp hnext with hin | hout
    · obtain ⟨link, hlink, rfl⟩ := List.mem_map.mp hin
      obtain ⟨hmem, htarget⟩ := (mem_incoming ht).mp hlink
      exact Or.inl ⟨link, hmem, rfl, htarget⟩
    · obtain ⟨link, hlink, rfl⟩ := List.mem_map.mp hout
      obtain ⟨hlink, htype⟩ := List.mem_filter.mp hlink
      obtain ⟨hmem, hsource⟩ := (mem_outgoing ht).mp hlink
      exact Or.inr ⟨link, hmem, hsource, rfl, of_decide_eq_true htype⟩
  · intro hgiven
    rcases hgiven with ⟨-, ⟨link, hmem, rfl, htarget⟩ | ⟨link, hmem, hsource, rfl, htype⟩⟩
    · have hlink := (mem_incoming ht).mpr ⟨hmem, htarget⟩
      exact ⟨_, List.mem_append_left _ (List.mem_map_of_mem hlink), rfl⟩
    · have hlink := (List.mem_filter (p := fun link => decide (link.type = .str "depends_on"))).mpr
        ⟨(mem_outgoing ht).mpr ⟨hmem, hsource⟩, decide_eq_true htype⟩
      exact ⟨_, List.mem_append_right _ (List.mem_map_of_mem hlink), rfl⟩

/-! ## Knowledge from documents -/

/-- A module that was read has an id that is not empty. -/
theorem readModule_truthy_id {entry : Json} {m : Module} (h : readModule entry = .ok (some m)) :
    m.id.truthy = true := by
  unfold readModule at h
  obtain ⟨id, -, h⟩ := Checked.bind_eq_ok.mp h
  split at h
  next => simp at h
  next hid =>
    obtain ⟨paths, -, h⟩ := Checked.bind_eq_ok.mp h
    obtain ⟨name, -, h⟩ := Checked.bind_eq_ok.mp h
    rw [Checked.pure_eq_ok, Option.some.injEq] at h
    subst h
    simpa using hid

/-- What is put in the place of its key is the only thing that is new. -/
theorem mem_putBy {α β : Type} [BEq β] {key : α → β} {value x : α} {known : List α}
    (h : x ∈ putBy key value known) : x = value ∨ x ∈ known := by
  induction known with
  | nil => simpa [putBy] using h
  | cons other rest ih =>
    unfold putBy at h
    split at h
    next =>
      rcases List.mem_cons.mp h with rfl | hrest
      · exact Or.inl rfl
      · exact Or.inr (List.mem_cons_of_mem _ hrest)
    next =>
      rcases List.mem_cons.mp h with rfl | hrest
      · exact Or.inr (List.mem_cons_self ..)
      · exact (ih hrest).imp_right (List.mem_cons_of_mem _)

/-- Of many values each thing is one of them, or was there before. -/
theorem mem_foldl_putBy {α β : Type} [BEq β] {key : α → β} {x : α} (values : List α) :
    ∀ {known : List α}, x ∈ values.foldl (fun known value => putBy key value known) known →
      x ∈ values ∨ x ∈ known := by
  induction values with
  | nil => intro known h; exact Or.inr h
  | cons value rest ih =>
    intro known h
    rcases ih h with hrest | hput
    · exact Or.inl (List.mem_cons_of_mem _ hrest)
    · rcases mem_putBy hput with rfl | hknown
      · exact Or.inl (List.mem_cons_self ..)
      · exact Or.inr hknown

/-- Every entry that was kept is what its document entry was read as. -/
theorem exists_of_readEntries {α : Type} {read : Json → Checked (Option α)} {entries : List Json}
    {found : List α × Nat} (h : readEntries read entries = .ok found) {a : α}
    (ha : a ∈ found.1) : ∃ entry ∈ entries, read entry = .ok (some a) := by
  unfold readEntries at h
  obtain ⟨results, hresults, h⟩ := Checked.bind_eq_ok.mp h
  rw [Checked.pure_eq_ok] at h
  subst h
  obtain ⟨result, hresult, rfl⟩ := List.mem_filterMap.mp ha
  exact (Checked.mem_mapM hresults).mp hresult

/-- Every module of knowledge from a document has an id that is not empty. -/
theorem ofJson_truthy_id {document : Json} {loaded : Loaded} (h : ofJson document = .ok loaded) :
    ∀ m ∈ loaded.knowledge.modules, m.id.truthy = true := by
  intro m hm
  unfold ofJson at h
  split at h
  next =>
    -- of what is read one after the other only the modules matter here
    simp only [Checked.bind_eq_ok, Checked.pure_eq_ok] at h
    obtain ⟨entries, -, ⟨modules, noModule⟩, hmodules, _, -, _, -, _, -, _, -, _, -, _, -, _, -, _, -, _, -,
      rfl⟩ := h
    rcases mem_foldl_putBy (modules : List Module) hm with hread | hnil
    · obtain ⟨entry, -, hentry⟩ := exists_of_readEntries hmodules hread
      exact readModule_truthy_id hentry
    · cases hnil
  next => simp [throw, throwThe, MonadExceptOf.throw] at h

end ChangeImpact.Knowledge

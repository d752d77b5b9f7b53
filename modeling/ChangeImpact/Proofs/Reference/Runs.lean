import ChangeImpact.Proofs.Reference.Mentions

/-!
# Runs of a store

A run starts with an empty store and takes any number of actions in any order: references are
created one by one, many at once or from the mentions of a text, they are deleted by id or by link,
the store is opened again, and time passes. Looking for a reference is no action, as it leaves the
store as it is.

> `run_actsAsMap`: after every run no two rows have one id and no two rows have one link, and every
> operation acts as on a finite map from links to records.

What carries the induction is `Store.Sound`: `Sound.apply` is the step, `run_sound` the run.
-/

namespace ChangeImpact

open ReferenceTable

namespace Store

/-- What an operation on a finite map from links to records does. -/
structure ActsAsMap [IdSource] (store : Store) : Prop where
  /-- Creating what is there changes no row and answers the stored record. -/
  create_present : ∀ (r : LinkRequest), ∀ row ∈ store.table.rows, row.link = r.link →
    (store.create r.request).1.table = store.table ∧
      ∃ ref, row.reference = .ok ref ∧ (store.create r.request).2 = .ok ref
  /-- Creating what is not there adds one row, which records the answer. -/
  create_absent : ∀ r : LinkRequest, r.Fits → r.link ∉ store.table.links →
    ∃ row ref, (store.create r.request).1.table.rows = store.table.rows ++ [row] ∧
      (store.create r.request).2 = .ok ref ∧ Row.Records row ref ∧ row.link = r.link ∧
      ref = (store.issuer.issue store.creator r.request).1
  /-- Creating many adds a row for each link that is not there. -/
  createAll : ∀ requests : List LinkRequest, (∀ r ∈ requests, r.Fits) →
    ∃ refs, (store.createAll (requests.map LinkRequest.request)).2 = .ok refs ∧
      store.AddsFor requests (store.createAll (requests.map LinkRequest.request)).1 refs
  /-- Linking mentions adds a row for each link that is not there. -/
  linkFrom : ∀ self text createdBy,
    LinkRequest.mentions self text createdBy = [] ∨ self.IsProper →
    ∃ refs, (store.linkFrom self text createdBy).2 = .ok refs ∧
      store.AddsFor (LinkRequest.mentions self text createdBy)
        (store.linkFrom self text createdBy).1 refs
  /-- Linking mentions to an entity that is not in order changes nothing. -/
  linkFrom_fault : ∀ self text createdBy,
    ¬ (LinkRequest.mentions self text createdBy = [] ∨ self.IsProper) →
    ∃ fault, store.linkFrom self text createdBy = (store, .error fault)
  /-- Deleting a stored row takes out this row and no other. -/
  delete_present : ∀ row ∈ store.table.rows,
    (store.delete (.str row.id)).2 = .ok true ∧
      (store.delete (.str row.id)).1.table.rows = store.table.rows.erase row
  /-- Deleting by an id that is not there changes nothing. -/
  delete_absent : ∀ id ∉ store.table.ids, store.delete (.str id) = (store, .ok false)
  /-- Deleting a stored link takes out its row and no other. -/
  deleteLink_present : ∀ row ∈ store.table.rows,
    (store.deleteLink row.link).2 = .ok true ∧
      (store.deleteLink row.link).1.table.rows = store.table.rows.erase row
  /-- Deleting a link that is not there changes nothing. -/
  deleteLink_absent : ∀ link ∉ store.table.links, store.deleteLink link = (store, .ok false)
  /-- A stored record is found by its id and by its link. -/
  get_stored : ∀ row ∈ store.table.rows, ∃ ref, row.reference = .ok ref ∧
    store.get (.str row.id) = .ok (some ref) ∧ store.getLink row.link = .ok (some ref)
  /-- By any other id nothing is found. -/
  get_absent : ∀ id ∉ store.table.ids, store.get (.str id) = .ok none
  /-- By any other link nothing is found. -/
  getLink_absent : ∀ link ∉ store.table.links, store.getLink link = .ok none
  /-- Opening the store again changes no row. -/
  reopen : ∀ creator, (store.close.reopen creator).table = store.table

variable {store : Store} {name : String}

/-- Where no two rows have one key, taking out a key takes out one row. -/
theorem without_rows {α : Type} [DecidableEq α] {key : Row → α}
    (hnodup : (store.table.rows.map key).Nodup) {row : Row} (hrow : row ∈ store.table.rows) :
    (store.without key (key row)).table.rows = store.table.rows.erase row := by
  show (store.table.rows.filter fun other => key other ≠ key row) = _
  rw [hnodup.of_map.erase_eq_filter]
  refine List.filter_congr fun other hother => ?_
  have hinj := List.inj_on_of_nodup_map hnodup
  rw [Bool.eq_iff_iff, decide_eq_true_iff, bne_iff_ne]
  constructor
  · intro hne heq
    exact hne (congrArg key heq)
  · intro hne hkey
    exact hne (hinj hother hrow hkey)

/-- Taking out a key that is not there takes out nothing. -/
theorem without_eq_self {α : Type} [DecidableEq α] {key : Row → α} {a : α}
    (h : a ∉ store.table.rows.map key) : store.without key a = store := by
  have hrows : (store.table.rows.filter fun row => key row ≠ a) = store.table.rows := by
    refine List.filter_eq_self.mpr fun row hrow => decide_eq_true fun hkey => ?_
    exact h (List.mem_map.mpr ⟨row, hrow, hkey⟩)
  unfold without
  rw [hrows]

/-- **Maps.** A sound store acts as a finite map from links to records. -/
theorem Sound.actsAsMap [IdSource] (h : store.Sound name) : store.ActsAsMap where
  create_present r row hrow hlink := by
    obtain ⟨htable, -, href⟩ := Store.create_present h hrow hlink
    exact ⟨htable, href⟩
  create_absent r hfits hlink := (Store.create_absent h hfits hlink).2
  createAll requests hfits := (createAll_adds h hfits).2
  linkFrom self text createdBy hself := (linkFrom_adds h hself).2
  linkFrom_fault self text createdBy hself := Store.linkFrom_fault store hself
  delete_present row hrow := by
    rw [delete_eq h.isOpen]
    exact ⟨congrArg Except.ok (decide_eq_true (List.mem_map_of_mem hrow)),
      without_rows h.keeps.ids hrow⟩
  delete_absent id hid := by
    rw [delete_eq h.isOpen, without_eq_self hid, decide_eq_false hid]
  deleteLink_present row hrow := by
    rw [deleteLink_eq h.isOpen]
    exact ⟨congrArg Except.ok (decide_eq_true (List.mem_map_of_mem hrow)),
      without_rows h.keeps.links hrow⟩
  deleteLink_absent link hlink := by
    rw [deleteLink_eq h.isOpen, without_eq_self hlink, decide_eq_false hlink]
  get_stored row hrow := Store.get_stored h hrow
  get_absent id hid := Store.get_absent h hid
  getLink_absent link hlink := Store.getLink_absent h hlink
  reopen _ := rfl

end Store

/-! ## Actions -/

/-- What may be done with a store. -/
inductive Action where
  | create (r : LinkRequest)
  | createAll (requests : List LinkRequest)
  | linkFrom (self : EntityKey) (text : String) (createdBy : Option String)
  | delete (id : String)
  | deleteLink (link : LinkKey)
  | reopen (creator : String)
  | clock (time : Int)

namespace Action

/-- The store after an action. -/
def apply [IdSource] (store : Store) : Action → Store
  | .create r => (store.create r.request).1
  | .createAll requests => (store.createAll (requests.map LinkRequest.request)).1
  | .linkFrom self text createdBy => (store.linkFrom self text createdBy).1
  | .delete id => (store.delete (.str id)).1
  | .deleteLink link => (store.deleteLink link).1
  | .reopen creator => store.close.reopen (.str creator)
  | .clock time => { store with issuer := store.issuer.atTime time }

/-- Metadata can be read from a document, and the clock stays within sixty-four bits of
milliseconds. -/
def Fits : Action → Prop
  | .create r => r.Fits
  | .createAll requests => ∀ r ∈ requests, r.Fits
  | .clock time => fitsWord time = true
  | .linkFrom .. | .delete _ | .deleteLink _ | .reopen _ => True

instance : DecidablePred Fits
  | .create r => inferInstanceAs (Decidable r.Fits)
  | .createAll requests => inferInstanceAs (Decidable (∀ r ∈ requests, r.Fits))
  | .clock time => inferInstanceAs (Decidable (fitsWord time = true))
  | .linkFrom .. | .delete _ | .deleteLink _ | .reopen _ => inferInstanceAs (Decidable True)

end Action

namespace Store

variable {store : Store} {name : String}

/-- **One action.** A sound store stays sound. -/
theorem Sound.apply [IdSource] (h : store.Sound name) {action : Action} (hfits : action.Fits) :
    ∃ name, Sound (action.apply store) name := by
  cases action with
  | create r =>
    refine ⟨name, ?_⟩
    show Sound (store.create r.request).1 name
    by_cases hlink : r.link ∈ store.table.links
    · obtain ⟨row, hrow, hlink⟩ := List.mem_map.mp hlink
      exact (create_present h hrow hlink).2.1
    · exact (create_absent h hfits hlink).1
  | createAll requests => exact ⟨name, (createAll_adds h hfits).1⟩
  | linkFrom self text createdBy =>
    refine ⟨name, ?_⟩
    show Sound (store.linkFrom self text createdBy).1 name
    -- without a proper record nothing is looked for, and the store is left as it is
    by_cases hself : LinkRequest.mentions self text createdBy = [] ∨ self.IsProper
    · exact (linkFrom_adds h hself).1
    · obtain ⟨fault, hfault⟩ := Store.linkFrom_fault store hself
      rw [hfault]
      exact h
  | delete id =>
    refine ⟨name, ?_⟩
    show Sound (store.delete (.str id)).1 name
    rw [delete_eq h.isOpen]
    exact h.without Row.id id
  | deleteLink link =>
    refine ⟨name, ?_⟩
    show Sound (store.deleteLink link).1 name
    rw [deleteLink_eq h.isOpen]
    exact h.without Row.link link
  | reopen creator => exact ⟨creator, rfl, rfl, h.clock, h.keeps⟩
  | clock time =>
    -- the next id does not depend on the clock, so that it stays fresh
    have hclock : fitsWord (store.issuer.atTime time).time = true := by
      rw [Issuer.time_atTime]
      exact hfits
    exact ⟨name, h.isOpen, h.creator, hclock, h.keeps.later (store.issuer.atTime time) (Nat.le_refl _)⟩

/-- An empty store, with ids that were not used yet. -/
def fresh (creator : String) : Store := ⟨.empty, .start, .str creator, true⟩

/-- The store after a run that starts with an empty one. -/
def run [IdSource] (creator : String) (actions : List Action) : Store :=
  actions.foldl Action.apply (fresh creator)

/-- **A whole run.** A sound store is sound after any actions. -/
theorem foldl_sound [IdSource] {actions : List Action} (hfits : ∀ action ∈ actions, action.Fits)
    (h : store.Sound name) : ∃ name, Sound (actions.foldl Action.apply store) name := by
  induction actions generalizing store name with
  | nil => exact ⟨name, h⟩
  | cons action actions ih =>
    obtain ⟨hfit, hrest⟩ := List.forall_mem_cons.mp hfits
    obtain ⟨name', h'⟩ := h.apply hfit
    exact ih hrest h'

/-- So every run that starts with an empty store ends with a sound one. -/
theorem run_sound [IdSource] (creator : String) {actions : List Action}
    (hfits : ∀ action ∈ actions, action.Fits) : ∃ name, Sound (run creator actions) name := by
  have hclock : fitsWord Issuer.start.time = true := by decide
  exact foldl_sound hfits ⟨rfl, rfl, hclock, keeps_empty _⟩

/-- **Every run of a store.** After any actions the ids of the rows are distinct and so are their
links, and every operation acts as on a finite map from links to records. -/
theorem run_actsAsMap [IdSource] (creator : String) {actions : List Action}
    (hfits : ∀ action ∈ actions, action.Fits) :
    (run creator actions).table.ids.Nodup ∧ (run creator actions).table.links.Nodup ∧
      (run creator actions).ActsAsMap := by
  obtain ⟨name, h⟩ := run_sound creator hfits
  exact ⟨h.keeps.ids, h.keeps.links, h.actsAsMap⟩

/-- A link is asked for twice, deleted and asked for again among others, with a pause and a new
creator in between. -/
def story : List Action :=
  [.create ⟨⟨⟨"task", "T-1"⟩, ⟨"rule", "R-1"⟩, "governed_by"⟩, .obj [("why", .str "audit")], none⟩,
    .create ⟨⟨⟨"task", "T-1"⟩, ⟨"rule", "R-1"⟩, "governed_by"⟩, .null, some "alice"⟩,
    .clock 2000000, .deleteLink ⟨⟨"task", "T-1"⟩, ⟨"rule", "R-1"⟩, "governed_by"⟩, .reopen "ci",
    .createAll [⟨⟨⟨"task", "T-1"⟩, ⟨"task", "T-2"⟩, "blocks"⟩, .null, none⟩,
      ⟨⟨⟨"task", "T-1"⟩, ⟨"rule", "R-1"⟩, "governed_by"⟩, .null, none⟩,
      ⟨⟨⟨"task", "T-1"⟩, ⟨"task", "T-2"⟩, "blocks"⟩, .arr [.int 1], none⟩]]

theorem run_actsAsMap_story :
    (∀ action ∈ story, action.Fits) ∧ (run "system" story).table.ids.length = 2 ∧
      (run "system" story).table.ids.Nodup ∧ (run "system" story).table.links.Nodup ∧
      (run "system" story).ActsAsMap := by
  have hfits : ∀ action ∈ story, action.Fits := by decide
  exact ⟨hfits, by decide, run_actsAsMap "system" hfits⟩

end Store

end ChangeImpact

import ChangeImpact.Proofs.Reference.Insertion

/-!
# A store as a finite map

In an open store whose table keeps what tables keep (`Sound`), every operation on texts acts as on a
finite map from links to records.

> `create_present`: a request for a link that is there is answered with the stored record;
> `create_absent`: for any other link one row is added, and it records the answer;
> `delete_eq`, `deleteLink_eq`: the row is taken out, and the answer says whether there was one;
> `get_stored`, `get_absent`: a record is found by its id and by its link exactly if it is stored.

Every operation leaves a sound store behind.
-/

namespace ChangeImpact.Store

open ReferenceTable

/-- The store is open, has a text for its creator and a time that fits, and its table keeps what
tables keep. -/
structure Sound [IdSource] (store : Store) (name : String) : Prop where
  isOpen : store.isOpen = true
  creator : store.creator = .str name
  clock : fitsWord store.issuer.time = true
  keeps : Keeps store.table store.issuer

variable {store : Store} {name : String} {r : LinkRequest}

/-- A store with a later issuer of the same time and another table that keeps what tables keep. -/
theorem Sound.update [IdSource] (h : store.Sound name) {table : ReferenceTable} {later : Issuer}
    (htime : later.time = store.issuer.time) (hkeeps : Keeps table later) :
    Sound { store with issuer := later, table } name :=
  ⟨h.isOpen, h.creator, htime ▸ h.clock, hkeeps⟩

/-! ## Looking -/

/-- The link by its texts. -/
def getLink (store : Store) (link : LinkKey) : Checked (Option Reference) :=
  store.getByLink (.str link.source.type) (.str link.source.id) (.str link.target.type)
    (.str link.target.id) (.str link.relationship)

/-- Where keys differ a row is found by its key. -/
theorem find_eq_some {α : Type} [DecidableEq α] {key : Row → α} {rows : List Row}
    (hnodup : (rows.map key).Nodup) {row : Row} (hrow : row ∈ rows) :
    rows.find? (fun other => key other = key row) = some row := by
  have hinj := List.inj_on_of_nodup_map hnodup
  cases hfound : rows.find? fun other => key other = key row with
  | none => exact absurd (decide_eq_true rfl) (List.find?_eq_none.mp hfound row hrow)
  | some other =>
    have hother := List.mem_of_find?_eq_some hfound
    have hsame := List.find?_some hfound
    rw [hinj hother hrow (of_decide_eq_true hsame)]

/-- A key that no row has is not found. -/
theorem find_eq_none {α : Type} [DecidableEq α] {key : Row → α} {rows : List Row} {a : α}
    (h : a ∉ rows.map key) : rows.find? (fun other => key other = a) = none :=
  List.find?_eq_none.mpr fun row hrow hsame =>
    h (List.mem_map.mpr ⟨row, hrow, of_decide_eq_true hsame⟩)

/-- An open store gets a reference from the row with its id. -/
theorem get_eq (h : store.isOpen = true) (id : String) :
    store.get (.str id) = (store.table.byId? id).mapM Row.reference := by
  unfold get
  rw [needOpen_eq h]
  rfl

/-- It gets one by its link from the row with that link. -/
theorem getLink_eq (h : store.isOpen = true) (link : LinkKey) :
    store.getLink link = (store.table.byLink? link).mapM Row.reference := by
  unfold getLink getByLink
  rw [needOpen_eq h]
  rfl

/-- A stored record is found by its id and by its link. -/
theorem get_stored [IdSource] (h : store.Sound name) {row : Row} (hrow : row ∈ store.table.rows) :
    ∃ ref, row.reference = .ok ref ∧ store.get (.str row.id) = .ok (some ref) ∧
      store.getLink row.link = .ok (some ref) := by
  obtain ⟨ref, href⟩ := h.keeps.readable row hrow
  refine ⟨ref, href, ?_, ?_⟩
  · rw [get_eq h.isOpen]
    unfold byId?
    rw [find_eq_some h.keeps.ids hrow, Option.mapM_some, href]
    rfl
  · rw [getLink_eq h.isOpen]
    unfold byLink?
    rw [find_eq_some h.keeps.links hrow, Option.mapM_some, href]
    rfl

/-- Nothing is found by an id that is not stored. -/
theorem get_absent [IdSource] (h : store.Sound name) {id : String} (hid : id ∉ store.table.ids) :
    store.get (.str id) = .ok none := by
  rw [get_eq h.isOpen]
  unfold byId?
  rw [find_eq_none hid]
  rfl

/-- Nothing is found by a link that is not stored. -/
theorem getLink_absent [IdSource] (h : store.Sound name) {link : LinkKey}
    (hlink : link ∉ store.table.links) :
    store.getLink link = .ok none := by
  rw [getLink_eq h.isOpen]
  unfold byLink?
  rw [find_eq_none hlink]
  rfl

/-! ## Creating -/

/-- The rows of the store become those of the other one by adding some for the requests, and the
references are the answer. -/
def AddsFor [IdSource] (store : Store) (requests : List LinkRequest) (after : Store)
    (refs : List Reference) : Prop :=
  ∃ added, after.table.rows = store.table.rows ++ added ∧
    ∃ name, store.creator = .str name ∧
      Adds store.table name store.issuer.time requests added refs

/-- A request for a link that is there changes no row and is answered with the stored record. -/
theorem create_present [IdSource] (h : store.Sound name) {row : Row} (hrow : row ∈ store.table.rows)
    (hlink : row.link = r.link) :
    (store.create r.request).1.table = store.table ∧ Sound (store.create r.request).1 name ∧
      ∃ ref, row.reference = .ok ref ∧ (store.create r.request).2 = .ok ref := by
  set later : Issuer := store.issuer.next
  have hsound : Sound { store with issuer := later } name :=
    h.update rfl (h.keeps.later later (Nat.le_succ _))
  obtain ⟨ref, href, -, hget⟩ := get_stored hsound hrow
  have hstorable : r.Storable store.creator store.issuer.time :=
    h.creator ▸ r.storable_of_fitsWord name h.clock
  have hnone := insert_known hstorable (List.mem_map.mpr ⟨row, hrow, hlink⟩)
  have hcreate : store.create r.request = ({ store with issuer := later }, .ok ref) := by
    rw [create_of_none rfl h.isOpen hnone]
    show (_, (Store.getLink { store with issuer := later } r.link).map _) = _
    rw [← hlink, hget]
    rfl
  rw [hcreate]
  exact ⟨rfl, hsound, ref, href, rfl⟩

/-- A request for any other link adds one row, which records the answer. -/
theorem create_absent [IdSource] (h : store.Sound name) (hfits : r.Fits)
    (hlink : r.link ∉ store.table.links) :
    Sound (store.create r.request).1 name ∧ ∃ row ref,
      (store.create r.request).1.table.rows = store.table.rows ++ [row] ∧
      (store.create r.request).2 = .ok ref ∧ Row.Records row ref ∧ row.link = r.link ∧
      ref = (store.issuer.issue store.creator r.request).1 := by
  obtain ⟨row, hsome, hrecords, hrow, hkeeps⟩ := insert_absent h.keeps hfits h.clock hlink
  rw [← h.creator] at hsome
  rw [create_of_some rfl h.isOpen hsome]
  exact ⟨h.update rfl hkeeps, row, _, rfl, rfl, h.creator ▸ hrecords, hrow, rfl⟩

/-- Many requests at once are answered with what was added for them. -/
theorem createAll_adds [IdSource] (h : store.Sound name) {requests : List LinkRequest}
    (hfits : ∀ r ∈ requests, r.Fits) :
    Sound (store.createAll (requests.map LinkRequest.request)).1 name ∧ ∃ refs,
      (store.createAll (requests.map LinkRequest.request)).2 = .ok refs ∧
      store.AddsFor requests (store.createAll (requests.map LinkRequest.request)).1 refs := by
  obtain ⟨later, added, refs, heq, htime, hkeeps, hadds⟩ :=
    @insertAll_adds store.table store.issuer name _ requests hfits h.keeps h.clock
  have hcreate : store.createAll (requests.map LinkRequest.request) =
      ({ store with issuer := later, table := ⟨store.table.rows ++ added⟩ }, .ok refs) := by
    refine createAll_of_ok h.isOpen ?_
    rw [h.creator]
    exact heq
  rw [hcreate]
  exact ⟨h.update htime hkeeps, refs, rfl, added, rfl, name, h.creator, hadds⟩

/-! ## Deleting -/

/-- The deletion of the link by its texts. -/
def deleteLink (store : Store) (link : LinkKey) : Store × Checked Bool :=
  store.deleteByLink (.str link.source.type) (.str link.source.id) (.str link.target.type)
    (.str link.target.id) (.str link.relationship)

/-- The store without the rows for which the key has a value. -/
def without {α : Type} [DecidableEq α] (store : Store) (key : Row → α) (a : α) : Store :=
  { store with table := ⟨store.table.rows.filter fun row => key row ≠ a⟩ }

/-- A sound store stays sound when rows are taken out by some key. -/
theorem Sound.without [IdSource] {α : Type} [DecidableEq α] (h : store.Sound name) (key : Row → α) (a : α) :
    Sound (store.without key a) name := by
  have hkeeps := h.keeps.erase fun row => key row = a
  simp only [ReferenceTable.erase, ← decide_not] at hkeeps
  exact h.update rfl hkeeps

/-- Deleting by a key takes out the rows with that key, and tells whether there were any. -/
theorem eraseWhere_eq {α : Type} [DecidableEq α] (h : store.isOpen = true) (key : Row → α) (a : α) :
    (store.eraseWhere (.ok fun row => some (key row) = some a)) =
      (store.without key a, .ok (decide (a ∈ store.table.rows.map key))) := by
  rw [eraseWhere_of_ok h]
  unfold without ReferenceTable.erase ReferenceTable.any
  simp only [Option.some.injEq, ← decide_not]
  congr 2
  rw [Bool.eq_iff_iff, List.any_eq_true, decide_eq_true_iff, List.mem_map]
  simp only [decide_eq_true_iff]

/-- Deleting by id takes out the row with the id, and says whether there was one. -/
theorem delete_eq (h : store.isOpen = true) (id : String) :
    store.delete (.str id) = (store.without Row.id id, .ok (decide (id ∈ store.table.ids))) :=
  eraseWhere_eq h Row.id id

/-- Deleting by link takes out the row with the link, and says whether there was one. -/
theorem deleteLink_eq (h : store.isOpen = true) (link : LinkKey) :
    store.deleteLink link =
      (store.without Row.link link, .ok (decide (link ∈ store.table.links))) :=
  eraseWhere_eq h Row.link link

end ChangeImpact.Store

import ChangeImpact.Proofs.Reference.Pages
import ChangeImpact.Proofs.Reference.Related

/-!
# What was inserted comes back

A reference that is inserted for a request has the metadata of the request, and every way of looking
for it gives it back as it was answered then: by its id, by its link, on the page of a query that it
is on, and among what is related to an entity near by.

> `run_recalls`: this holds after any run, for references that are created one by one or many at
> once, and it goes on holding whatever is done later, until the reference is deleted.

Metadata passes through a text and back (`Metadata.read_written`), which is why it has to be a value
that can be read from a document; an empty object is kept as null. That a row with the id of the
reference is still its row later rests on ids being issued once: `evolves_change` is the step,
`foldl_evolves` the run.
-/

namespace ChangeImpact

/-- The reference is one for the request: of its link, and with its metadata, or with null if the
metadata is an empty object. -/
structure Reference.IsMadeFor (ref : Reference) (r : LinkRequest) : Prop where
  link : ref.isFor r.link = true
  metadata : ∀ fields, r.metadata = .obj fields →
    ref.metadata = if fields = [] then .null else .obj fields

/-- What is issued for a request is made for it. -/
theorem LinkRequest.isMadeFor_issue [IdSource] (issuer : Issuer) (creator : Name) (r : LinkRequest) :
    (issuer.issue creator r.request).1.IsMadeFor r where
  link := by
    unfold Reference.isFor Issuer.issue request
    simp
  metadata fields hfields := by
    show (if r.metadata.truthy then r.metadata else .null) = _
    rw [hfields]
    cases fields with
    | nil => rfl
    | cons field fields => rfl

open ReferenceTable

namespace Store

/-! ## Ids are issued once -/

/-- The store `after` may be a later state of the store: its rows are rows from before or have ids
that were issued since. -/
structure Evolves [IdSource] (store after : Store) : Prop where
  issued : store.issuer.issued ≤ after.issuer.issued
  rows : ∀ row ∈ after.table.rows,
    row ∈ store.table.rows ∨ ∃ n, store.issuer.issued < n ∧ row.id = Issuer.idOf n

variable {store : Store} {name : String}

theorem Evolves.refl [IdSource] (store : Store) : store.Evolves store :=
  ⟨Nat.le_refl _, fun _ hrow => Or.inl hrow⟩

/-- A store evolves step by step. -/
theorem Evolves.trans [IdSource] {between after : Store} (h : store.Evolves between)
    (h' : between.Evolves after) : store.Evolves after := by
  refine ⟨h.issued.trans h'.issued, fun row hrow => ?_⟩
  rcases h'.rows row hrow with hbetween | ⟨n, hn, hid⟩
  · exact h.rows row hbetween
  · exact Or.inr ⟨n, h.issued.trans_lt hn, hid⟩

/-- **One change.** It takes rows out or adds one with an id that it issues. -/
theorem evolves_change [IdSource] {after : Store} (h : Change store after) : store.Evolves after := by
  cases h with
  | use => exact ⟨Nat.le_succ _, fun _ hrow => Or.inl hrow⟩
  | add hnumber hid =>
    refine ⟨Nat.le_succ _, List.forall_mem_append.mpr ⟨fun _ hrow => Or.inl hrow, ?_⟩⟩
    exact List.forall_mem_singleton.mpr (Or.inr ⟨_, Nat.lt_succ_self _, hid⟩)
  | erase p => exact ⟨Nat.le_refl _, fun _ hrow => Or.inl (List.mem_filter.mp hrow).1⟩
  | reopen => exact ⟨Nat.le_refl _, fun _ hrow => Or.inl hrow⟩

/-- **A whole run.** After any actions there are rows from before and rows with new ids. -/
theorem foldl_evolves [IdSource] (store : Store) (actions : List Action) :
    store.Evolves (actions.foldl Action.apply store) :=
  foldl_induction (fun hchange h => h.trans (evolves_change hchange))
    (fun _ h => ⟨h.issued, h.rows⟩) (.refl store) actions

/-- A stored row stays as it is, as long as a row has its id. -/
theorem Sound.mem_foldl [IdSource] (h : store.Sound name) {row : Row} (hrow : row ∈ store.table.rows)
    {actions : List Action} (hid : row.id ∈ (actions.foldl Action.apply store).table.ids) :
    row ∈ (actions.foldl Action.apply store).table.rows := by
  obtain ⟨later, hlater, hsame⟩ := List.mem_map.mp hid
  rcases (foldl_evolves store actions).rows later hlater with hold | ⟨n, hn, hnew⟩
  · exact List.inj_on_of_nodup_map h.keeps.ids hold hrow hsame ▸ hlater
  · -- the id was issued before, so it is not the one of a new row
    obtain ⟨m, hm, hissued⟩ := h.keeps.issued row hrow
    have := Issuer.idOf_injective (hnew.symm.trans (hsame.trans hissued))
    omega

/-! ## Every way of looking -/

/-- Whichever way one looks for the reference, which is one of the link, it is given back. -/
structure Returns (store : Store) (link : LinkKey) (ref : Reference) : Prop where
  /-- It is found by its id. -/
  get : store.get (.str ref.id) = .ok (some ref)
  /-- It is found by its link. -/
  getLink : store.getLink link = .ok (some ref)
  /-- It has a place among the references that are looked for, and every page over this place has
  it there. -/
  query : ∀ f : TextFilter, (∀ row : Row, row.link = link → f.Meets row) →
    ∃ place < store.table.rows.length, ∀ limit offset : Nat, limit ≤ 500 → offset ≤ place →
      place < offset + limit → fitsWord offset = true →
      ∃ page, store.query f.request (.int limit) (.int offset) = .ok page ∧
        page[place - offset]? = some ref
  /-- It is related to every entity that is less than `depth` hops from one of its ends. -/
  related : ∀ key v n (depth : Int), link.source = v ∨ link.target = v →
    store.table.HopsFrom key n v → n < depth →
    ∃ refs, store.related (.str key.type) (.str key.id) (.int depth) = .ok refs ∧ ref ∈ refs
  /-- No page of a query has anything else under its id. -/
  query_only : ∀ request limit offset page, store.query request limit offset = .ok page →
    ∀ other ∈ page, other.id = ref.id → other = ref
  /-- Nothing else is related under its id. -/
  related_only : ∀ (key : EntityKey) (depth : Int) refs,
    store.related (.str key.type) (.str key.id) (.int depth) = .ok refs →
    ∀ other ∈ refs, other.id = ref.id → other = ref

/-- Every page of a query is made of stored references. -/
theorem stored_of_query {request : FilterRequest} {limit offset : Json} {page : List Reference}
    (h : store.query request limit offset = .ok page) {ref : Reference} (href : ref ∈ page) :
    ∃ row ∈ store.table.rows, row.reference = .ok ref := by
  unfold query at h
  obtain ⟨clause, -, h⟩ := Checked.bind_eq_ok.mp h
  obtain ⟨-, -, h⟩ := Checked.bind_eq_ok.mp h
  obtain ⟨-, -, h⟩ := Checked.bind_eq_ok.mp h
  obtain ⟨-, -, h⟩ := Checked.bind_eq_ok.mp h
  obtain ⟨filter, -, h⟩ := Checked.bind_eq_ok.mp h
  obtain ⟨-, -, h⟩ := Checked.bind_eq_ok.mp h
  obtain ⟨rows, -, h⟩ := Checked.bind_eq_ok.mp h
  split at h
  next =>
    cases h
    cases href
  next =>
    obtain ⟨start, -, h⟩ := Checked.bind_eq_ok.mp h
    obtain ⟨row, hrow, hread⟩ := (Checked.mem_mapM h).mp href
    unfold ReferenceTable.query matching at hrow
    have hnewest := (List.mem_filter.mp (List.mem_of_mem_drop (List.mem_of_mem_take hrow))).1
    exact ⟨row, mem_newest.mp hnewest, hread⟩

/-- A stored reference with the id of a row is the reference of the row. -/
theorem Sound.eq_of_id [IdSource] (h : store.Sound name) {row : Row} (hrow : row ∈ store.table.rows)
    {ref : Reference} (href : row.reference = .ok ref) {other : Reference}
    (hother : ∃ row ∈ store.table.rows, row.reference = .ok other) (hid : other.id = ref.id) :
    other = ref := by
  obtain ⟨row', hrow', hread⟩ := hother
  rw [Row.reference_id hread, Row.reference_id href] at hid
  obtain rfl := List.inj_on_of_nodup_map h.keeps.ids hrow' hrow hid
  exact Except.ok.inj (hread.symm.trans href)

/-- A row has a place among those that meet a filter, and pages over it have its reference there. -/
theorem Sound.query_row [IdSource] (h : store.Sound name) {row : Row} (hrow : row ∈ store.table.rows)
    {ref : Reference} (href : row.reference = .ok ref) {f : TextFilter} (hmeets : f.Meets row) :
    ∃ place < store.table.rows.length, ∀ limit offset : Nat, limit ≤ 500 → offset ≤ place →
      place < offset + limit → fitsWord offset = true →
      ∃ page, store.query f.request (.int limit) (.int offset) = .ok page ∧
        page[place - offset]? = some ref := by
  obtain ⟨clause, filter, hclause, hbind, haccepts⟩ := f.exists_bind
  have hmem : row ∈ store.table.matching filter :=
    List.mem_filter.mpr ⟨mem_newest.mpr hrow, (haccepts row).mpr hmeets⟩
  obtain ⟨place, hplace⟩ := List.mem_iff_getElem?.mp hmem
  have hlength : (store.table.matching filter).length ≤ store.table.rows.length :=
    (List.length_filter_le _ _).trans (List.length_mergeSort _).le
  refine ⟨place, (List.getElem?_eq_some_iff.mp hplace).1.trans_le hlength, ?_⟩
  intro limit offset hmost hfrom hto hfits
  have hreadable : ∀ row ∈ ((store.table.matching filter).drop offset).take limit,
      ∃ ref, row.reference = .ok ref := by
    intro other hother
    have hin := (List.mem_filter.mp (List.mem_of_mem_drop (List.mem_of_mem_take hother))).1
    exact h.keeps.readable other (mem_newest.mp hin)
  obtain ⟨page, hread⟩ := Checked.exists_mapM_eq_ok.mpr hreadable
  refine ⟨page, (query_eq_ok h.isOpen hclause hbind (by omega) hmost).mpr ⟨hfits, hread⟩, ?_⟩
  have hthere : (((store.table.matching filter).drop offset).take limit)[place - offset]? =
      some row := by
    rw [List.getElem?_take_of_lt (by omega), List.getElem?_drop, Nat.add_sub_cancel' hfrom, hplace]
  obtain ⟨found, hfound, hsame⟩ := Checked.getElem?_mapM hread hthere
  rw [hfound, Except.ok.inj (hsame.symm.trans href)]

/-- A row near an entity is among what is related to the entity. -/
theorem Sound.related_row [IdSource] (h : store.Sound name) {row : Row} (hrow : row ∈ store.table.rows)
    {ref : Reference} (href : row.reference = .ok ref) {key v : EntityKey} {n : Nat} {depth : Int}
    (hend : row.link.source = v ∨ row.link.target = v) (hhops : store.table.HopsFrom key n v)
    (hn : n < depth) :
    ∃ refs, store.related (.str key.type) (.str key.id) (.int depth) = .ok refs ∧ ref ∈ refs := by
  have hdepth : ((depth.toNat : Nat) : Int) = depth := Int.toNat_of_nonneg (by omega)
  have hnear : row ∈ store.table.related key depth.toNat :=
    (mem_related h.keeps.ids).mpr ⟨hrow, v, n, hend, hhops, by omega⟩
  have hreadable : ∀ row ∈ store.table.related key depth.toNat, ∃ ref, row.reference = .ok ref :=
    fun other hother => h.keeps.readable other ((mem_related h.keeps.ids).mp hother).1
  obtain ⟨refs, hread⟩ := Checked.exists_mapM_eq_ok.mpr hreadable
  refine ⟨refs, ?_, (Checked.mem_mapM hread).mpr ⟨row, hnear, href⟩⟩
  rw [related_eq h.isOpen]
  exact hread

/-- What a row holds is given back. -/
theorem Sound.returns [IdSource] (h : store.Sound name) {row : Row} (hrow : row ∈ store.table.rows)
    {ref : Reference} (href : row.reference = .ok ref) : store.Returns row.link ref := by
  obtain ⟨found, hfound, hget, hgetLink⟩ := get_stored h hrow
  obtain rfl := Except.ok.inj (hfound.symm.trans href)
  refine ⟨Row.reference_id href ▸ hget, hgetLink, ?_, ?_, ?_, ?_⟩
  · intro f hmeets
    exact h.query_row hrow href (hmeets row rfl)
  · intro key v n depth hend hhops hn
    exact h.related_row hrow href hend hhops hn
  · intro request limit offset page hpage other hother hid
    exact h.eq_of_id hrow href (stored_of_query hpage hother) hid
  · intro key depth refs hrefs other hother hid
    rw [related_eq h.isOpen] at hrefs
    obtain ⟨near, hnear, hread⟩ := (Checked.mem_mapM hrefs).mp hother
    exact h.eq_of_id hrow href ⟨near, ((mem_related h.keeps.ids).mp hnear).1, hread⟩ hid

/-! ## From the insertion on -/

/-- The reference is stored, and after any actions it is given back as long as its id is. -/
structure Recalls [IdSource] (store : Store) (link : LinkKey) (ref : Reference) : Prop where
  stored : ref.id ∈ store.table.ids
  returned : ∀ actions : List Action, (∀ action ∈ actions, action.Fits) →
    ref.id ∈ (actions.foldl Action.apply store).table.ids →
    (actions.foldl Action.apply store).Returns link ref

/-- **What is stored is given back.** A sound store recalls whatever one of its rows holds. -/
theorem Sound.recalls [IdSource] (h : store.Sound name) {row : Row} (hrow : row ∈ store.table.rows)
    {ref : Reference} (href : row.reference = .ok ref) : store.Recalls row.link ref := by
  have hid := Row.reference_id href
  refine ⟨hid ▸ List.mem_map_of_mem hrow, ?_⟩
  intro actions hfits hthere
  obtain ⟨later, hlater⟩ := foldl_sound hfits h
  exact hlater.returns (h.mem_foldl hrow (hid ▸ hthere)) href

/-- **What was inserted comes back.** After any run, a request for a link that is not there is
answered with a reference of the request's metadata, and from then on this reference is given back
until it is deleted; so is every reference in the answer to many requests. -/
theorem run_recalls [IdSource] (creator : String) {before : List Action}
    (hbefore : ∀ action ∈ before, action.Fits) :
    (∀ r : LinkRequest, r.Fits → r.link ∉ (run creator before).table.links →
      ∃ ref, ((run creator before).create r.request).2 = .ok ref ∧ ref.IsMadeFor r ∧
        ((run creator before).create r.request).1.Recalls r.link ref) ∧
    ∀ requests : List LinkRequest, (∀ r ∈ requests, r.Fits) →
      ∃ refs, ((run creator before).createAll (requests.map LinkRequest.request)).2 = .ok refs ∧
        List.Forall₂ (fun r ref => ref.IsMadeFor r ∧
            ((run creator before).createAll (requests.map LinkRequest.request)).1.Recalls r.link ref)
          ((run creator before).table.absent requests) refs := by
  obtain ⟨name, h⟩ := run_sound creator hbefore
  refine ⟨?_, ?_⟩
  · intro r hfits hlink
    obtain ⟨hafter, row, ref, hrows, hanswer, hrecords, hrow, rfl⟩ := create_absent h hfits hlink
    refine ⟨_, hanswer, r.isMadeFor_issue _ _, hrow ▸ hafter.recalls ?_ hrecords.read⟩
    rw [hrows]
    exact List.mem_append_right _ (List.mem_singleton_self row)
  · intro requests hfits
    obtain ⟨hafter, refs, hanswer, added, hrows, name, -, hadds⟩ := createAll_adds h hfits
    have hread : added.mapM Row.reference = .ok refs :=
      Checked.mapM_eq_ok.mpr (hadds.recorded.imp fun _ _ hrecords => hrecords.read)
    have hrow : ∀ ref ∈ refs, ∃ row ∈ added, row.reference = .ok ref := fun ref href =>
      (Checked.mem_mapM hread).mp href
    have hboth := (List.forall₂_and_left _ _).mpr ⟨hrow, hadds.answered.flip⟩
    refine ⟨refs, hanswer, hboth.flip.imp ?_⟩
    rintro r ref ⟨⟨row, hmem, href⟩, issuer, -, rfl⟩
    have hmade := r.isMadeFor_issue issuer (.str name)
    -- the reference is one of a single link, which is the row's
    obtain ⟨metadata, -, hsame⟩ := Row.reference_eq_ok.mp href
    have hlink : row.link = r.link :=
      of_decide_eq_true (row.isFor_withMetadata metadata r.link ▸ hsame ▸ hmade.link)
    refine ⟨hmade, hlink ▸ hafter.recalls ?_ href⟩
    rw [hrows]
    exact List.mem_append_right _ hmem

/-- Metadata in several levels, with texts beyond ASCII and beyond sixteen bits. -/
def sample : Json :=
  .obj [("quote", .str "a \"né\" 𝄞"),
    ("deep", .arr [.null, .bool true, .int (-12), .obj [("", .arr []), ("b", .str "\n")]])]

/-- Two links that are not there, one of them asked for twice, and one that is. -/
def samples : List LinkRequest :=
  [⟨⟨⟨"task", "T-1"⟩, ⟨"rule", "R-1"⟩, "governed_by"⟩, sample, none⟩,
    ⟨⟨⟨"task", "T-1"⟩, ⟨"rule", "R-1"⟩, "governed_by"⟩, .obj [("n", .int 1)], none⟩,
    ⟨⟨⟨"task", "T-1"⟩, ⟨"task", "T-2"⟩, "blocks"⟩, .null, none⟩,
    ⟨⟨⟨"task", "T-2"⟩, ⟨"rule", "R-1"⟩, "governed_by"⟩, .obj [], some "me"⟩]

/-- A reference is created, and another one is deleted. -/
def opening : List Action :=
  [.create ⟨⟨⟨"task", "T-1"⟩, ⟨"task", "T-2"⟩, "blocks"⟩, .arr [.int 2], none⟩,
    .create ⟨⟨⟨"task", "T-1"⟩, ⟨"rule", "R-1"⟩, "governed_by"⟩, .null, none⟩,
    .delete "ref-0000000000000002", .clock 2000000]

theorem run_recalls_sample :
    (∀ action ∈ opening, action.Fits) ∧ (∀ r ∈ samples, r.Fits) ∧
      (∃ r ∈ samples, r.metadata = sample ∧ r.link ∉ (run "system" opening).table.links ∧
        ∃ ref, ((run "system" opening).create r.request).2 = .ok ref ∧ ref.metadata = sample ∧
          ((run "system" opening).create r.request).1.Recalls r.link ref) ∧
      ∃ refs, ((run "system" opening).createAll (samples.map LinkRequest.request)).2 = .ok refs ∧
        refs.map Reference.metadata = [sample, .null] ∧
        List.Forall₂ (fun r ref => ref.IsMadeFor r ∧
            ((run "system" opening).createAll
              (samples.map LinkRequest.request)).1.Recalls r.link ref)
          ((run "system" opening).table.absent samples) refs := by
  have hbefore : ∀ action ∈ opening, action.Fits := by decide
  have hfits : ∀ r ∈ samples, r.Fits := by decide
  obtain ⟨hone, hmany⟩ := run_recalls "system" hbefore
  refine ⟨hbefore, hfits, ⟨_, List.mem_cons_self .., rfl, by decide, ?_⟩, ?_⟩
  · obtain ⟨ref, hanswer, hmade, hrecalls⟩ := hone _ (hfits _ (List.mem_cons_self ..)) (by decide)
    exact ⟨ref, hanswer, hmade.metadata _ rfl, hrecalls⟩
  · obtain ⟨refs, hanswer, hall⟩ := hmany samples hfits
    have hmetadata : ((run "system" opening).createAll (samples.map LinkRequest.request)).2.map
        (List.map Reference.metadata) = .ok [sample, .null] := by rfl
    rw [hanswer] at hmetadata
    exact ⟨refs, hanswer, Except.ok.inj hmetadata, hall⟩

end Store

end ChangeImpact

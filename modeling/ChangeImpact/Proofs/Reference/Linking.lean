import ChangeImpact.Proofs.Reference.Batches
import ChangeImpact.Proofs.Reference.Mentions

/-!
# Linking what is mentioned

Whatever the rows of a table are, requests for different links add a row for each link that is not there,
so long as the ids still to be issued are not in the table (`insertAll_distinct`). A text mentions each
entity once, so that its requests are of that kind.

> `linkFrom_addsUnlinked`: linking what a text mentions adds a row for each entity that is mentioned and
> not linked yet, the entity itself excepted, and answers the references of these rows; after that, texts
> that mention no others add nothing.
-/

namespace ChangeImpact

/-- The link from an entity to one that its text mentions. -/
def LinkKey.mention (self key : EntityKey) : LinkKey := ⟨self, key, "mentions"⟩

theorem LinkKey.mention_injective (self : EntityKey) : Function.Injective (mention self) :=
  fun _ _ h => (LinkKey.mk.inj h).2.1

namespace LinkRequest

variable (self : EntityKey) (text : String) (createdBy : Option String)

/-- The links that are asked for, in the order of first mention. -/
theorem map_link_mentions : (mentions self text createdBy).map link =
    ((Mention.inText text).filter fun key => key ≠ self).map (LinkKey.mention self) := by
  unfold mentions
  rw [List.map_map]
  rfl

/-- No two requests of one text are for one link. -/
theorem links_mentions_nodup : ((mentions self text createdBy).map link).Nodup := by
  rw [map_link_mentions]
  exact ((Mention.inText_nodup text).filter _).map (LinkKey.mention_injective self)

/-- There is no metadata that a row could have no room for. -/
theorem fits_of_mem_mentions {r : LinkRequest} (h : r ∈ mentions self text createdBy) : r.Fits := by
  obtain ⟨key, -, rfl⟩ := List.mem_map.mp h
  rfl

end LinkRequest

namespace Store

open LinkRequest ReferenceTable

/-! ## Requests for different links -/

/-- **Different links.** Each of them that is not there gets a row, in the order of the requests, and the
references of these rows are the answer. -/
theorem insertAll_distinct [IdSource] {name : String} (requests : List LinkRequest) {table : ReferenceTable}
    {issuer : Issuer} (hfits : ∀ r ∈ requests, r.Fits) (hdistinct : (requests.map link).Nodup)
    (hfresh : issuer.FreshFor table) (htime : fitsWord issuer.time = true) :
    ∃ later added refs, insertAll (.str name) table issuer (requests.map LinkRequest.request) =
        (later, .ok (⟨table.rows ++ added⟩, refs)) ∧
      added.map Row.link = (requests.map link).filter (· ∉ table.links) ∧
      List.Forall₂ Row.Records added refs := by
  induction requests generalizing table issuer with
  | nil => exact ⟨issuer, [], [], by rw [List.append_nil]; rfl, rfl, .nil⟩
  | cons r rest ih =>
    obtain ⟨hfit, hrest⟩ := List.forall_mem_cons.mp hfits
    rw [List.map_cons, List.nodup_cons] at hdistinct
    obtain ⟨hnew, hothers⟩ := hdistinct
    -- a link that is there uses up an id; any other gets a row
    by_cases hlink : r.link ∈ table.links
    · obtain ⟨later, added, refs, hall, hlinks, hrecords⟩ := ih hrest hothers hfresh.next htime
      refine ⟨later, added, refs, ?_, ?_, hrecords⟩
      · rw [List.map_cons, insertAll_cons_of_none (insert_known (r.storable_of_fitsWord name htime) hlink)]
        exact hall
      · rw [List.map_cons, List.filter_cons_of_neg (by simpa using hlink), hlinks]
    · obtain ⟨row, hinsert, hrecord, hid, hrow⟩ :=
        @insert_fresh table issuer name r _ hfresh hfit htime hlink
      obtain ⟨later, added, refs, hall, hlinks, hrecords⟩ := ih hrest hothers (hfresh.append hid) htime
      rw [List.append_assoc, List.singleton_append] at hall
      refine ⟨later, row :: added, (issuer.issue (.str name) r.request).1 :: refs, ?_, ?_,
        .cons hrecord hrecords⟩
      · rw [List.map_cons, insertAll_cons_of_some hinsert hall]
        rfl
      · -- the new row has none of the other links, so that they are missing as before
        have hsame : (rest.map link).filter (· ∉ links ⟨table.rows ++ [row]⟩) =
            (rest.map link).filter (· ∉ table.links) := by
          refine List.filter_congr fun other hother => ?_
          have hne : other ≠ row.link := fun heq => hnew (hrow ▸ heq ▸ hother)
          simp [links, hne]
        rw [List.map_cons, List.map_cons, List.filter_cons_of_pos (by simpa using hlink), hrow, hlinks,
          hsame]

/-! ## What a text mentions -/

/-- The store is open, its default creator is a text, and a row has room for its time. -/
structure IsUsable (store : Store) : Prop where
  isOpen : store.isOpen = true
  creator : ∃ name, store.creator = .str name
  clock : fitsWord store.issuer.time = true

/-- The other entities that a text mentions and that an entity is not linked to yet. -/
def unlinked (store : Store) (self : EntityKey) (text : String) : List EntityKey :=
  (Mention.inText text).filter fun key =>
    key ≠ self ∧ LinkKey.mention self key ∉ store.table.links

variable {store : Store} {self : EntityKey}

/-- The missing ones of the links that are asked for. -/
theorem missing_links (store : Store) (self : EntityKey) (text : String) (createdBy : Option String) :
    ((mentions self text createdBy).map link).filter (· ∉ store.table.links) =
      (store.unlinked self text).map (LinkKey.mention self) := by
  rw [map_link_mentions, List.filter_map, List.filter_filter]
  unfold unlinked
  congr 1
  refine List.filter_congr fun key _ => ?_
  rw [Bool.eq_iff_iff]
  simp [and_comm]

/-- Nothing is added for a text all of whose mentions are linked. -/
theorem linkFrom_known [IdSource] (h : store.IsUsable) (hself : self.IsProper) {text : String}
    (hlinks : ∀ key ∈ Mention.inText text, key ≠ self → LinkKey.mention self key ∈ store.table.links)
    (createdBy : Option String) :
    (store.linkFrom self text createdBy).2 = .ok [] ∧
      (store.linkFrom self text createdBy).1.table = store.table := by
  obtain ⟨name, hcreator⟩ := h.creator
  rw [linkFrom_eq h.isOpen (Or.inr hself)]
  refine createAll_known h.isOpen (fun r _ => ?_) fun r hr => ?_
  · rw [hcreator]
    exact r.storable_of_fitsWord name h.clock
  · obtain ⟨key, hkey, rfl⟩ := List.mem_map.mp hr
    obtain ⟨hmentioned, hne⟩ := List.mem_filter.mp hkey
    exact hlinks key hmentioned (of_decide_eq_true hne)

/-- **What is mentioned is linked.** Linking the mentions of a text does not fault. The rows stay and are
followed by one for each entity that is mentioned and not linked yet, in the order of first mention, and
the references of these rows are answered. The store can be used on, and with the table as it is then, a
text that mentions only some of these entities is answered with nothing, and adds nothing. -/
theorem linkFrom_addsUnlinked [IdSource] (h : store.IsUsable) (hfresh : store.issuer.FreshFor store.table)
    (hself : self.IsProper) (text : String) (createdBy : Option String) :
    ∃ added refs,
      (store.linkFrom self text createdBy).2 = .ok refs ∧
      (store.linkFrom self text createdBy).1.table.rows = store.table.rows ++ added ∧
      added.map Row.link = (store.unlinked self text).map (LinkKey.mention self) ∧
      (added.map Row.link).Nodup ∧
      List.Forall₂ Row.Records added refs ∧
      (store.linkFrom self text createdBy).1.IsUsable ∧
      ∀ later : Store, later.IsUsable → later.table = (store.linkFrom self text createdBy).1.table →
        ∀ (again : String) (createdBy' : Option String),
          Mention.inText again ⊆ Mention.inText text →
            (later.linkFrom self again createdBy').2 = .ok [] ∧
              (later.linkFrom self again createdBy').1.table = later.table := by
  obtain ⟨name, hcreator⟩ := h.creator
  have hdistinct := links_mentions_nodup self text createdBy
  obtain ⟨issuer, added, refs, hall, hlinks, hrecords⟩ := @insertAll_distinct _ name
    (mentions self text createdBy) store.table store.issuer
    (fun r hr => fits_of_mem_mentions self text createdBy hr) hdistinct hfresh h.clock
  have hlink : store.linkFrom self text createdBy =
      ({ store with issuer, table := ⟨store.table.rows ++ added⟩ }, .ok refs) := by
    rw [linkFrom_eq h.isOpen (Or.inr hself)]
    refine createAll_of_ok h.isOpen ?_
    rw [hcreator, hall]
  have hadded : added.map Row.link = (store.unlinked self text).map (LinkKey.mention self) :=
    hlinks.trans (missing_links store self text createdBy)
  -- linking takes no time, so that the store can be used as before
  have htime : issuer.time = store.issuer.time := by
    obtain ⟨count, -, hlater⟩ := exists_issued_insertAll (.str name) store.table store.issuer
      ((mentions self text createdBy).map LinkRequest.request)
    rw [hall] at hlater
    rw [show issuer = { store.issuer with issued := count } from hlater]
    rfl
  rw [hlink]
  refine ⟨added, refs, rfl, rfl, hadded, hlinks ▸ hdistinct.filter _, hrecords,
    ⟨h.isOpen, h.creator, htime ▸ h.clock⟩, ?_⟩
  intro later hlater htable again createdBy' hagain
  refine linkFrom_known hlater hself (fun key hkey hne => ?_) createdBy'
  rw [htable]
  show LinkKey.mention self key ∈ (store.table.rows ++ added).map Row.link
  rw [List.map_append, hadded, List.mem_append]
  by_cases hold : LinkKey.mention self key ∈ store.table.links
  · exact Or.inl hold
  · refine Or.inr (List.mem_map_of_mem (List.mem_filter.mpr ⟨hagain hkey, ?_⟩))
    simp [hne, hold]

/-- A store with a link that was taken over from elsewhere. -/
def inherited : Store where
  table := ⟨[⟨7, "imported", ⟨⟨"task", "T-1"⟩, ⟨"rule", "R-1"⟩, "mentions"⟩, none, 5, none⟩]⟩
  issuer := { Issuer.start with issued := 3, seconds := 2000 }
  creator := "system"
  isOpen := true

/-- Two entities to be linked, one of them twice, between one that is linked, the entity itself and one
of no known type. -/
def minutes : String :=
  "[[rule:R-1]] for [[ task : T-1 ]]: [[task:T-2]], [[planet:X]], [[rule:R 3]] and [[task:T-2]]"

theorem linkFrom_addsUnlinked_inherited :
    inherited.IsUsable ∧ inherited.issuer.FreshFor inherited.table ∧
    EntityKey.IsProper ⟨"task", "T-1"⟩ ∧
    inherited.unlinked ⟨"task", "T-1"⟩ minutes = [⟨"task", "T-2"⟩, ⟨"rule", "R 3"⟩] ∧
    ∃ added refs,
      (inherited.linkFrom ⟨"task", "T-1"⟩ minutes none).2 = .ok refs ∧
      (inherited.linkFrom ⟨"task", "T-1"⟩ minutes none).1.table.rows = inherited.table.rows ++ added ∧
      added.map Row.link = [⟨⟨"task", "T-1"⟩, ⟨"task", "T-2"⟩, "mentions"⟩,
        ⟨⟨"task", "T-1"⟩, ⟨"rule", "R 3"⟩, "mentions"⟩] ∧
      List.Forall₂ Row.Records added refs ∧
      Mention.inText "[[rule:R 3]], [[rule:R-1]]" ⊆ Mention.inText minutes ∧
      ((inherited.linkFrom ⟨"task", "T-1"⟩ minutes none).1.linkFrom ⟨"task", "T-1"⟩
        "[[rule:R 3]], [[rule:R-1]]" (some "me")).2 = .ok [] := by
  have husable : inherited.IsUsable := ⟨rfl, ⟨"system", rfl⟩, by decide⟩
  have hfresh : inherited.issuer.FreshFor inherited.table := Issuer.freshFor_of_foreign (by decide)
  have hself : EntityKey.IsProper ⟨"task", "T-1"⟩ := by decide
  have hunlinked : inherited.unlinked ⟨"task", "T-1"⟩ minutes = [⟨"task", "T-2"⟩, ⟨"rule", "R 3"⟩] := by
    decide +kernel
  have hagain : Mention.inText "[[rule:R 3]], [[rule:R-1]]" ⊆ Mention.inText minutes := by
    decide +kernel
  obtain ⟨added, refs, hrefs, hrows, hlinks, -, hrecords, hafter, hlater⟩ :=
    linkFrom_addsUnlinked husable hfresh hself minutes none
  refine ⟨husable, hfresh, hself, hunlinked, added, refs, hrefs, hrows, ?_, hrecords, hagain, ?_⟩
  · rw [hlinks, hunlinked]
    rfl
  · exact (hlater _ hafter rfl _ _ hagain).1

end Store

end ChangeImpact

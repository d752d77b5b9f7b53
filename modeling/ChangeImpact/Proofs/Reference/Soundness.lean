import ChangeImpact.Proofs.Reference.Creating
import ChangeImpact.Proofs.Reference.Mentions

/-!
# Tables without improper rows

A store takes in whatever it is given. What its table is worth rests on what is asked of it: a link
that was checked joins two entities of known types with ids by a known relationship (`IsProper`), and
a store that is only asked for such links has only such links, each of them once (`IsSound`).

> `isProper_of_checked`: a link that was checked is in order;
> `ofRecord_linkFields`: its record describes the request with its metadata;
> `isCareful_create`, `isCareful_linkMentions`, `isCareful_delete`, `isCareful_deleteByLink`: what
> commands do with a store keeps its table sound, and a fault leaves the table as it is.
-/

namespace ChangeImpact

/-- Both entities are in order, and the relationship is a known one. -/
structure LinkKey.IsProper (link : LinkKey) : Prop where
  source : link.source.IsProper
  target : link.target.IsProper
  relationship : link.relationship ∈ relationships

/-- Every row has a link that is in order, and no two rows have one link. -/
structure ReferenceTable.IsSound (table : ReferenceTable) : Prop where
  proper : ∀ row ∈ table.rows, row.link.IsProper
  links : table.links.Nodup

/-! ## What is checked -/

namespace NewReference

/-- The record of a checked link with all its fields. -/
def linkFields (link : LinkKey) (metadata createdBy : Json) : List (String × Json) :=
  [("source_type", .str link.source.type), ("source_id", .str link.source.id),
    ("target_type", .str link.target.type), ("target_id", .str link.target.id),
    ("relationship", .str link.relationship), ("metadata", metadata), ("created_by", createdBy)]

/-- Its words are known exactly if the types and the relationship are. -/
theorem admits_linkFields {link : LinkKey} {metadata createdBy : Json}
    (h : ∀ choice ∈ schema.choices, choice.Admits
      ((Json.lookup choice.field (linkFields link metadata createdBy)).getD .null)) :
    link.source.type ∈ entityTypes ∧ link.target.type ∈ entityTypes ∧
      link.relationship ∈ relationships := by
  have hsource : Json.lookup "source_type" (linkFields link metadata createdBy) =
    some (.str link.source.type) := rfl
  have htarget : Json.lookup "target_type" (linkFields link metadata createdBy) =
    some (.str link.target.type) := rfl
  have hrelationship : Json.lookup "relationship" (linkFields link metadata createdBy) =
    some (.str link.relationship) := rfl
  simp only [schema, List.forall_mem_cons, hsource, htarget, hrelationship, Schema.Choice.Admits,
    Option.getD_some, Bool.false_eq_true, false_and, false_or, LinkRequest.exists_str_eq] at h
  obtain ⟨hsourceType, htargetType, hknown, -⟩ := h
  exact ⟨hsourceType, htargetType, hknown⟩

/-- **What is checked.** A link that was checked is in order, and what is asked for is the link. -/
theorem isProper_of_checked {link : LinkKey} {metadata : Json} {createdBy : Option String}
    {request : NewReference}
    (h : checked link metadata (Json.ofOption Json.str createdBy) = .ok request) :
    link.IsProper ∧ request.link? = .ok (some link) := by
  unfold checked build at h
  obtain ⟨_, hbuild, heq⟩ := Checked.bind_eq_ok.mp h
  obtain ⟨record, hrecord, hids⟩ := Checked.bind_eq_ok.mp hbuild
  obtain ⟨⟨⟩, hguard, hsame⟩ := Checked.bind_eq_ok.mp hids
  obtain ⟨-, fields, hfields, hadmits, rfl⟩ := Schema.build_eq_ok.mp hrecord
  obtain rfl : linkFields link metadata (Json.ofOption Json.str createdBy) = fields :=
    Except.ok.inj hfields
  obtain rfl := Checked.pure_eq_ok.mp hsame
  obtain ⟨hsource, htarget, hrelationship⟩ := admits_linkFields hadmits
  have htruthy : (link.source.id != "" && link.target.id != "") = true :=
    Checked.guardThat_eq_ok.mp hguard
  obtain ⟨hsourceId, htargetId⟩ := Bool.and_eq_true_iff.mp htruthy
  obtain rfl := Checked.pure_eq_ok.mp heq
  exact ⟨⟨⟨hsource, bne_iff_ne.mp hsourceId⟩, ⟨htarget, bne_iff_ne.mp htargetId⟩, hrelationship⟩, rfl⟩

/-- A record whose metadata can be read from a document describes the request with that metadata. -/
theorem ofRecord_linkFields {r : LinkRequest} (h : r.Fits) :
    ofRecord (.obj (linkFields r.link r.metadata (Json.ofOption Json.str r.createdBy))) = r.request := by
  show { r.request with metadata := Payload.of r.metadata } = r.request
  rw [Payload.of_eq_document h]
  rfl

end NewReference

/-- A link to an entity that a text mentions is in order if the entity that is linked is. -/
theorem LinkRequest.isProper_of_mem_mentions {self : EntityKey} {text : String}
    {createdBy : Option String} (hself : mentions self text createdBy = [] ∨ self.IsProper)
    {r : LinkRequest} (hr : r ∈ mentions self text createdBy) : r.link.IsProper := by
  rcases hself with hnone | hself
  · rw [hnone] at hr
    cases hr
  · obtain ⟨key, hkey, rfl⟩ := List.mem_map.mp hr
    exact ⟨hself, Mention.isProper_of_mem (List.mem_filter.mp hkey).1,
      show "mentions" ∈ relationships by decide⟩

/-! ## What is stored -/

namespace ReferenceTable

variable {table after : ReferenceTable}

theorem isSound_empty : IsSound .empty := ⟨List.forall_mem_nil _, .nil⟩

/-- A table stays sound when rows are taken out. -/
theorem IsSound.erase (h : table.IsSound) (p : Row → Bool) : (table.erase p).IsSound := by
  have hrows : (table.erase p).rows.Sublist table.rows := List.filter_sublist
  exact ⟨fun row hrow => h.proper row (hrows.subset hrow), h.links.sublist (hrows.map _)⟩

/-- A row that gets into a table has a link that was not there. -/
theorem IsSound.insert (h : table.IsSound) {row : Row} (hrow : row.link.IsProper)
    (hinsert : table.insert? row = some after) : after.IsSound := by
  by_cases hlink : row.link ∈ table.links
  · rw [insert_eq_none hlink] at hinsert
    cases hinsert
  · unfold insert? at hinsert
    split at hinsert
    next => cases hinsert
    next =>
      cases hinsert
      refine ⟨List.forall_mem_append.mpr ⟨h.proper, List.forall_mem_singleton.mpr hrow⟩, ?_⟩
      show ((table.rows ++ [row]).map Row.link).Nodup
      rw [List.map_append]
      exact h.links.append (List.nodup_singleton _) (List.disjoint_singleton.mpr hlink)

end ReferenceTable

namespace Store

variable {table after : ReferenceTable} {issuer : Issuer} {creator : Name} {request : NewReference}
  {link : LinkKey}

/-- So it does when a proper link is inserted. -/
theorem isSound_insert [IdSource] (h : table.IsSound) (hlink : request.link? = .ok (some link))
    (hproper : link.IsProper)
    (hinsert : insert? table request (issuer.issue creator request).1 = .ok (some after)) :
    after.IsSound := by
  obtain ⟨-, row?, hrow, hsome⟩ := insert_eq_ok.mp hinsert
  obtain ⟨row, rfl, hadded⟩ := Option.bind_eq_some_iff.mp hsome
  obtain rfl : link = row.link := Option.some.inj (Except.ok.inj (hlink.symm.trans (link_of_written hrow)))
  exact h.insert hproper hadded

/-- And so it does when several are. -/
theorem isSound_insertAll [IdSource] {requests : List LinkRequest} (hproper : ∀ r ∈ requests, r.link.IsProper)
    {refs : List Reference} (h : table.IsSound)
    (hall : (insertAll creator table issuer (requests.map LinkRequest.request)).2 =
      .ok (after, refs)) : after.IsSound := by
  induction requests generalizing table issuer refs with
  | nil =>
    cases hall
    exact h
  | cons r rest ih =>
    obtain ⟨hr, hrest⟩ := List.forall_mem_cons.mp hproper
    rw [List.map_cons] at hall
    cases hstored : insert? table r.request (issuer.issue creator r.request).1 with
    | error fault =>
      rw [insertAll_cons_of_error hstored] at hall
      cases hall
    | ok stored =>
      cases stored with
      | none =>
        rw [insertAll_cons_of_none hstored] at hall
        exact ih hrest h hall
      | some found =>
        rw [insertAll_cons_of_some hstored rfl] at hall
        obtain ⟨⟨_, _⟩, hothers, heq⟩ := Checked.map_eq_ok.mp hall
        cases heq
        exact ih hrest (isSound_insert h rfl hr hstored) hothers

/-! ## What commands do with a store -/

/-- Whatever the store, its table stays sound, and is as it was if there is a fault. -/
structure IsCareful {α : Type} (use : Store → Store × Checked α) : Prop where
  sound : ∀ store, store.table.IsSound → (use store).1.table.IsSound
  refused : ∀ store fault, (use store).2 = .error fault → (use store).1.table = store.table

/-- Looking into a store changes nothing. -/
theorem isCareful_look {α : Type} (look : Store → Checked α) :
    IsCareful fun store => (store, look store) :=
  ⟨fun _ h => h, fun _ _ _ => rfl⟩

/-- Creating a reference with a proper link is careful. -/
theorem isCareful_create [IdSource] (hlink : request.link? = .ok (some link)) (hproper : link.IsProper) :
    IsCareful fun store => store.create request := by
  refine ⟨fun store h => ?_, fun store fault => create_refused⟩
  rcases create_cases store rfl with ⟨fault, hcreate⟩ | ⟨-, -, hcreate⟩ | ⟨table, hstored, hcreate⟩
  · rwa [hcreate]
  · rwa [hcreate]
  · rw [hcreate]
    exact isSound_insert h hlink hproper hstored

/-- So is creating several at once. -/
theorem isCareful_createAll [IdSource] {requests : List LinkRequest}
    (hproper : ∀ r ∈ requests, r.link.IsProper) :
    IsCareful fun store => store.createAll (requests.map LinkRequest.request) := by
  refine ⟨fun store h => ?_, fun store fault => createAll_refused⟩
  rcases createAll_cases store (requests.map LinkRequest.request) with
    hend | ⟨later, fault, -, hend⟩ | ⟨-, later, table, refs, hall, hend⟩
  · rwa [hend]
  · rwa [hend]
  · rw [hend]
    exact isSound_insertAll hproper h (congrArg Prod.snd hall)

/-- The requests are made before the store is touched: with an entity that is not in order there are
none. -/
theorem isCareful_linkMentions [IdSource] (self : EntityKey) (text : String) (createdBy : Option String) :
    IsCareful fun store => store.linkFrom self text createdBy := by
  unfold linkFrom linkMentions Mention.ofName
  dsimp only
  rw [Checked.ok_bind]
  cases hrequests : mentionRequests (.str self.type) (.str self.id) (Mention.inText text)
      (Json.ofOption Json.str createdBy) with
  | error fault => exact ⟨fun _ h => h, fun _ _ _ => rfl⟩
  | ok requests =>
    obtain ⟨hself, rfl⟩ := mentionRequests_eq_ok.mp hrequests
    have hcareful := isCareful_createAll fun r hr => LinkRequest.isProper_of_mem_mentions hself hr
    cases hmentions : (LinkRequest.mentions self text createdBy).map LinkRequest.request with
    | nil => exact ⟨fun _ h => h, fun _ _ _ => rfl⟩
    | cons request rest =>
      rw [hmentions] at hcareful
      exact hcareful

/-- So is deleting, whatever the condition. -/
theorem isCareful_eraseWhere (condition : Checked (Row → Bool)) :
    IsCareful fun store => store.eraseWhere condition := by
  refine ⟨fun store h => ?_, fun store fault hfault => ?_⟩
  · rcases eraseWhere_cases store condition with ⟨fault, herase⟩ | ⟨p, herase⟩
    · rwa [herase]
    · rw [herase]
      exact h.erase p
  · rcases eraseWhere_cases store condition with ⟨fault, herase⟩ | ⟨p, herase⟩
    · rw [herase]
    · rw [herase] at hfault
      cases hfault

theorem isCareful_delete (id : Name) : IsCareful fun store => store.delete id :=
  isCareful_eraseWhere _

theorem isCareful_deleteByLink (sourceType sourceId targetType targetId relationship : Name) :
    IsCareful fun store =>
      store.deleteByLink sourceType sourceId targetType targetId relationship :=
  isCareful_eraseWhere _

end Store

end ChangeImpact

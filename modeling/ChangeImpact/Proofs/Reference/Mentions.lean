import ChangeImpact.Proofs.Distinct
import ChangeImpact.Proofs.Record
import ChangeImpact.Proofs.Reference.Operations
import ChangeImpact.Proofs.Text.Scan
import ChangeImpact.Reference.Linking

/-!
# Links to what a text mentions

A text mentions entities of known types with ids that are not empty, so that a request for a link to
one of them is in order exactly if the entity that is linked is (`IsProper`).

> `linkFrom_adds`: linking the mentions of a text creates the references from the entity to each
> of them, itself excepted; with an entity that is not in order and a text that mentions another one
> there is a fault, and the store stays as it is.
-/

namespace ChangeImpact

/-! ## What is mentioned -/

/-- The entity has a known type and an id. -/
def EntityKey.IsProper (key : EntityKey) : Prop := key.type ∈ entityTypes ∧ key.id ≠ ""

instance (key : EntityKey) : Decidable key.IsProper := inferInstanceAs (Decidable (_ ∧ _))

namespace Mention

/-- No mention has an empty id. -/
theorem idOf_ne_nil {cs id after : List Char} (h : idOf? cs = some (id, after)) : id ≠ [] := by
  unfold idOf? at h
  split at h
  next =>
    split at h
    next => cases h
    next hid =>
      cases h
      exact hid
  next => cases h

/-- The id of a mention is the id of what stands behind its colon. -/
theorem exists_idOf {before : Option Char} {cs : List Char} {key : EntityKey} {length : Nat}
    (h : mention before cs = some (key, length)) :
    ∃ inside id after, idOf? inside = some (id, after) ∧ key.id = String.ofList id := by
  unfold mention at h
  split at h
  next =>
    dsimp only at h
    split at h
    next =>
      obtain ⟨⟨id, after⟩, hid, hkey⟩ := Option.map_eq_some_iff.mp h
      cases hkey
      exact ⟨_, id, after, hid, rfl⟩
    next => cases h
  next => cases h

/-- Nor has the entity that is read from it. -/
theorem id_ne_empty {before : Option Char} {cs : List Char} {key : EntityKey} {length : Nat}
    (h : mention before cs = some (key, length)) : key.id ≠ "" := by
  obtain ⟨_, id, _, hid, hkey⟩ := exists_idOf h
  rw [hkey]
  exact fun hempty => idOf_ne_nil hid (String.ofList_eq_empty_iff.mp hempty)

/-- Whatever a text mentions has a known type and an id. -/
theorem isProper_of_mem {text : String} {key : EntityKey} (h : key ∈ inText text) :
    key.IsProper := by
  unfold inText inChars at h
  obtain ⟨hfound, htype⟩ := List.mem_filter.mp (List.mem_eraseDups.mp h)
  obtain ⟨_, _, _, hmention⟩ := Text.exists_of_mem_findAllFrom hfound
  exact ⟨List.contains_iff_mem.mp htype, id_ne_empty hmention⟩

/-- No entity is listed twice. -/
theorem inText_nodup (text : String) : (inText text).Nodup := eraseDups_nodup _

end Mention

/-! ## The requests -/

namespace LinkRequest

/-- The request for a link to an entity that is mentioned. -/
def mention (self : EntityKey) (createdBy : Option String) (key : EntityKey) : LinkRequest :=
  ⟨⟨self, key, "mentions"⟩, .null, createdBy⟩

/-- The requests for the links of an entity to those that a text mentions. -/
def mentions (self : EntityKey) (text : String) (createdBy : Option String) : List LinkRequest :=
  ((Mention.inText text).filter fun key => key ≠ self).map (mention self createdBy)

/-- The record of a request for a link to an entity that is mentioned. -/
def mentionRecord (self : EntityKey) (createdBy : Option String) (key : EntityKey) : Json := .obj
  [("source_type", .str self.type), ("source_id", .str self.id), ("target_type", .str key.type),
    ("target_id", .str key.id), ("relationship", .str "mentions"),
    ("created_by", Json.ofOption Json.str createdBy)]

/-- The record with all the fields of a request. -/
def mentionFields (self : EntityKey) (createdBy : Option String) (key : EntityKey) :
    List (String × Json) :=
  [("source_type", .str self.type), ("source_id", .str self.id), ("target_type", .str key.type),
    ("target_id", .str key.id), ("relationship", .str "mentions"), ("metadata", .null),
    ("created_by", Json.ofOption Json.str createdBy)]

/-- The fields of a request that is made for a mention. -/
theorem mapM_fieldOf (self : EntityKey) (createdBy : Option String) (key : EntityKey) :
    NewReference.schema.fields.mapM (Schema.fieldOf
      [("source_type", .str self.type), ("source_id", .str self.id), ("target_type", .str key.type),
        ("target_id", .str key.id), ("relationship", .str "mentions"),
        ("created_by", Json.ofOption Json.str createdBy)]) =
      .ok (mentionFields self createdBy key) := rfl

theorem known_fields (a b c d e f : Json) :
    ∀ field ∈ [("source_type", a), ("source_id", b), ("target_type", c), ("target_id", d),
      ("relationship", e), ("created_by", f)],
      ∃ known ∈ NewReference.schema.fields, known.name = field.1 := by
  simp [NewReference.schema, Schema.Field.required, Schema.Field.optional]

theorem exists_str_eq {words : List String} {text : String} :
    (∃ word ∈ words, Json.str text = .str word) ↔ text ∈ words := by
  constructor
  · intro hgiven
    obtain ⟨word, hword, heq⟩ := hgiven
    cases heq
    exact hword
  · intro h
    exact ⟨text, h, rfl⟩

/-- Both types have to be known; the relationship is. -/
theorem admits_iff (self : EntityKey) (createdBy : Option String) (key : EntityKey) :
    (∀ choice ∈ NewReference.schema.choices, choice.Admits
      ((Json.lookup choice.field (mentionFields self createdBy key)).getD .null)) ↔
      self.type ∈ entityTypes ∧ key.type ∈ entityTypes := by
  have hsource : Json.lookup "source_type" (mentionFields self createdBy key) =
    some (.str self.type) := rfl
  have htarget : Json.lookup "target_type" (mentionFields self createdBy key) =
    some (.str key.type) := rfl
  have hrelationship : Json.lookup "relationship" (mentionFields self createdBy key) =
    some (.str "mentions") := rfl
  have hmentions : "mentions" ∈ relationships := by decide
  simp only [NewReference.schema, List.forall_mem_cons, hsource, htarget, hrelationship,
    Schema.Choice.Admits, Option.getD_some, Bool.false_eq_true, false_and, false_or, exists_str_eq,
    hmentions, true_and]
  simp

/-- Both ends of such a request are given if and only if neither id is empty. -/
theorem truthy_ids (self : EntityKey) (createdBy : Option String) (key : EntityKey) :
    (((Json.obj (mentionFields self createdBy key)).get "source_id").truthy &&
      ((Json.obj (mentionFields self createdBy key)).get "target_id").truthy) = true ↔
      self.id ≠ "" ∧ key.id ≠ "" := by
  show (self.id != "" && key.id != "") = true ↔ _
  rw [Bool.and_eq_true, bne_iff_ne, bne_iff_ne]

/-- A request for a link between two entities is built exactly if both are in order. -/
theorem build_eq_ok {self key : EntityKey} {createdBy : Option String} {record : Json} :
    NewReference.build (mentionRecord self createdBy key) = .ok record ↔
      (self.IsProper ∧ key.IsProper) ∧ record = .obj (mentionFields self createdBy key) := by
  unfold NewReference.build mentionRecord EntityKey.IsProper
  simp only [Checked.bind_eq_ok, Checked.pure_eq_ok, Schema.build_eq_ok, mapM_fieldOf,
    Except.ok.injEq]
  constructor
  · intro hgiven
    obtain ⟨_, ⟨-, _, rfl, hadmits, rfl⟩, ⟨⟩, hguard, rfl⟩ := hgiven
    obtain ⟨hself, hkey⟩ := (admits_iff self createdBy key).mp hadmits
    obtain ⟨hselfId, hkeyId⟩ :=
      (truthy_ids self createdBy key).mp (Checked.guardThat_eq_ok.mp hguard)
    exact ⟨⟨⟨hself, hselfId⟩, hkey, hkeyId⟩, rfl⟩
  · intro hgiven
    obtain ⟨⟨⟨hself, hselfId⟩, hkey, hkeyId⟩, rfl⟩ := hgiven
    refine ⟨_, ⟨known_fields _ _ _ _ _ _, _, rfl, (admits_iff _ _ _).mpr ⟨hself, hkey⟩, rfl⟩, (),
      Checked.guardThat_eq_ok.mpr ?_, rfl⟩
    exact (truthy_ids self createdBy key).mpr ⟨hselfId, hkeyId⟩

/-- The record is that of the request. -/
theorem ofRecord_mentionFields (self : EntityKey) (createdBy : Option String) (key : EntityKey) :
    NewReference.ofRecord (.obj (mentionFields self createdBy key)) =
      (mention self createdBy key).request := rfl

end LinkRequest

namespace Store

open LinkRequest

/-- The requests for the mentions of a text are made exactly if the entity is in order, or if there
is no other one to link it to. -/
theorem mentionRequests_eq_ok {self : EntityKey} {text : String} {createdBy : Option String}
    {requests : List NewReference} :
    mentionRequests (.str self.type) (.str self.id) (Mention.inText text)
        (Json.ofOption Json.str createdBy) = .ok requests ↔
      (mentions self text createdBy = [] ∨ self.IsProper) ∧
        requests = (mentions self text createdBy).map LinkRequest.request := by
  have hfilter : ((Mention.inText text).filter fun key =>
      !(Json.str self.type = .str key.type && Json.str self.id = .str key.id)) =
      (Mention.inText text).filter fun key => key ≠ self := by
    refine List.filter_congr fun key _ => ?_
    obtain ⟨type, id⟩ := key
    obtain ⟨selfType, selfId⟩ := self
    simp [eq_comm]
  -- a mentioned entity is always in order, so that only the one it is linked to matters
  have hrequest : ∀ key ∈ (Mention.inText text).filter fun key => key ≠ self, ∀ request,
      (do return NewReference.ofRecord (← NewReference.build (mentionRecord self createdBy key))) =
        (.ok request : Checked NewReference) ↔
      self.IsProper ∧ request = (mention self createdBy key).request := by
    intro key hkey request
    have hproper := Mention.isProper_of_mem (List.mem_filter.mp hkey).1
    simp only [Checked.bind_eq_ok, build_eq_ok, Checked.pure_eq_ok]
    constructor
    · intro hgiven
      obtain ⟨_, ⟨⟨hself, -⟩, rfl⟩, rfl⟩ := hgiven
      exact ⟨hself, ofRecord_mentionFields self createdBy key⟩
    · intro hgiven
      obtain ⟨hself, rfl⟩ := hgiven
      exact ⟨_, ⟨⟨hself, hproper⟩, rfl⟩, ofRecord_mentionFields self createdBy key⟩
  unfold mentionRequests mentions
  rw [hfilter, List.map_map, List.map_eq_nil_iff]
  exact Checked.mapM_eq_ok_of_forall hrequest

/-- Linking mentions, with an entity that is named by texts. -/
def linkFrom [IdSource] (store : Store) (self : EntityKey) (text : String) (createdBy : Option String) :
    Store × Checked (List Reference) :=
  store.linkMentions (.str self.type) (.str self.id) (.str text) (Json.ofOption Json.str createdBy)

variable {store : Store} {name : String} {self : EntityKey} {text : String}
  {createdBy : Option String}

/-- The links from an entity to those that a text mentions are created like any others. -/
theorem linkFrom_eq [IdSource] (hopen : store.isOpen = true)
    (hself : mentions self text createdBy = [] ∨ self.IsProper) :
    store.linkFrom self text createdBy =
      store.createAll ((mentions self text createdBy).map LinkRequest.request) := by
  have hrequests := mentionRequests_eq_ok.mpr ⟨hself, rfl⟩
  unfold linkFrom linkMentions Mention.ofName
  dsimp only
  rw [Checked.ok_bind, hrequests]
  cases mentions self text createdBy with
  | nil =>
    -- without requests the store stays as it is
    exact (createAll_of_ok hopen rfl).symm
  | cons r rest => rfl

/-- **Linking.** Mentions are linked as requests are that are created at once. -/
theorem linkFrom_adds [IdSource] (h : store.Sound name)
    (hself : mentions self text createdBy = [] ∨ self.IsProper) :
    Sound (store.linkFrom self text createdBy).1 name ∧ ∃ refs,
      (store.linkFrom self text createdBy).2 = .ok refs ∧
      store.AddsFor (mentions self text createdBy) (store.linkFrom self text createdBy).1 refs := by
  rw [linkFrom_eq h.isOpen hself]
  refine createAll_adds h ?_
  intro r hr
  obtain ⟨key, -, rfl⟩ := List.mem_map.mp hr
  rfl

/-- With an entity that is not in order nothing changes, and there is a fault. -/
theorem linkFrom_fault [IdSource] (store : Store)
    (hself : ¬ (mentions self text createdBy = [] ∨ self.IsProper)) :
    ∃ fault, store.linkFrom self text createdBy = (store, .error fault) := by
  cases hrequests : mentionRequests (.str self.type) (.str self.id) (Mention.inText text)
      (Json.ofOption Json.str createdBy) with
  | ok requests => exact absurd (mentionRequests_eq_ok.mp hrequests).1 hself
  | error fault =>
    refine ⟨fault, ?_⟩
    unfold linkFrom linkMentions Mention.ofName
    dsimp only
    rw [Checked.ok_bind, hrequests]

end Store

end ChangeImpact

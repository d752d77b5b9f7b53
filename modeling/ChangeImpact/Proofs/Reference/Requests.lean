import ChangeImpact.Proofs.Json.Limits
import ChangeImpact.Proofs.Reference.Rows

/-!
# Requests by texts

A `LinkRequest` asks for a reference between entities that are named by texts. The reference that is
issued for it has a row, and the row is the reference: it has its id, its link, its time and its
creator, and a text that is read as metadata again.

> `exists_records`: a reference issued for a request has a row that records it.

Ids are counted, and no count gives the id of another one (`idOf_injective`).
-/

namespace ChangeImpact

/-! ## Ids -/

namespace Issuer

/-- No two counts give one id. -/
theorem idOf_injective [IdSource] {m n : Nat} (h : idOf m = idOf n) : m = n :=
  IdSource.injective m n (List.append_cancel_left (String.ofList_injective h))

/-- The issuer at a time tells that time. -/
@[simp] theorem time_atTime (issuer : Issuer) (time : Int) : (issuer.atTime time).time = time := by
  have hrest : ((time % 1000).toNat : Int) = time % 1000 :=
    Int.toNat_of_nonneg (Int.emod_nonneg time (by decide))
  show time / 1000 * 1000 + ((time % 1000).toNat : Int) = time
  rw [hrest]
  exact Int.ediv_mul_add_emod time 1000

end Issuer

/-! ## Rows that record references -/

namespace Row

/-- A reference that is not refused has a time and a creator that there is room for; if it has a row,
the row says what the reference says, under the number given. -/
theorem ofReference_eq_ok {ref : Reference} {number : Nat} {row? : Option Row}
    (h : ofReference ref number = .ok row?) :
    fitsWord ref.createdAt = true ∧ ∃ creator link?, ref.createdBy.cell 9 = .ok creator ∧
      row? = (link? : Option LinkKey).map fun link =>
        { number, id := ref.id, link, metadata := Metadata.written ref.metadata
          createdAt := ref.createdAt, createdBy := creator } := by
  unfold ofReference at h
  obtain ⟨sourceType, -, h⟩ := Checked.bind_eq_ok.mp h
  obtain ⟨sourceId, -, h⟩ := Checked.bind_eq_ok.mp h
  obtain ⟨targetType, -, h⟩ := Checked.bind_eq_ok.mp h
  obtain ⟨targetId, -, h⟩ := Checked.bind_eq_ok.mp h
  obtain ⟨relationship, -, h⟩ := Checked.bind_eq_ok.mp h
  obtain ⟨⟨⟩, htime, h⟩ := Checked.bind_eq_ok.mp h
  obtain ⟨creator, hcreator, h⟩ := Checked.bind_eq_ok.mp h
  exact ⟨Checked.guardThat_eq_ok.mp htime, creator, _, hcreator, (Checked.pure_eq_ok.mp h).symm⟩

/-- The row is the one of the reference, and it is read as the reference again. -/
structure Records (row : Row) (ref : Reference) : Prop where
  written : ofReference ref row.number = .ok (some row)
  read : row.reference = .ok ref

end Row

/-! ## Metadata -/

namespace Json

mutual

/-- What can be read from a document can be written as one. -/
theorem needWritable_of_fits : ∀ (value : Json) (room : Nat), value.fits room = true →
    value.needWritable room = .ok ()
  | .null, _, _ | .bool _, _, _ | .float _, _, _ | .str _, _, _ => rfl
  | .int _, _, h => Checked.guardThat_eq_ok.mpr h
  | .arr items, room, h => by
    obtain ⟨hroom, hitems⟩ := fits_arr.mp h
    rw [needWritable, Checked.guardThat_eq_ok.mpr (decide_eq_true hroom), Checked.ok_bind]
    exact needWritableItems_of_fits items (room - 1) hitems
  | .obj fields, room, h => by
    obtain ⟨hroom, -, hfields⟩ := fits_obj.mp h
    rw [needWritable, Checked.guardThat_eq_ok.mpr (decide_eq_true hroom), Checked.ok_bind]
    exact needWritableFields_of_fits fields (room - 1) hfields

theorem needWritableItems_of_fits : ∀ (items : List Json) (room : Nat), fitsItems room items = true →
    needWritableItems room items = .ok ()
  | [], _, _ => rfl
  | item :: rest, room, h => by
    obtain ⟨hitem, hrest⟩ := Bool.and_eq_true_iff.mp h
    rw [needWritableItems, needWritable_of_fits item room hitem, Checked.ok_bind]
    exact needWritableItems_of_fits rest room hrest

theorem needWritableFields_of_fits : ∀ (fields : List (String × Json)) (room : Nat),
    fitsFields room fields = true → needWritableFields room fields = .ok ()
  | [], _, _ => rfl
  | (_, value) :: rest, room, h => by
    obtain ⟨hvalue, hrest⟩ := Bool.and_eq_true_iff.mp h
    rw [needWritableFields, needWritable_of_fits value room hvalue, Checked.ok_bind]
    exact needWritableFields_of_fits rest room hrest

end

end Json

/-- Metadata that can be read from a document is a document. -/
theorem Payload.of_eq_document {metadata : Json} (h : metadata.fits Json.maxNesting = true) :
    Payload.of metadata = .document metadata := by
  unfold of
  rw [Json.needWritable_of_fits metadata _ h]

/-- Metadata that can be read from a document is read back from its own text. -/
theorem Metadata.read_written {metadata : Json} (h : metadata.fits Json.maxNesting = true)
    (htruthy : metadata = .null ∨ metadata.truthy = true) :
    Metadata.read (Metadata.written metadata) = .ok metadata := by
  rcases htruthy with rfl | htruthy
  · rfl
  · have hline : metadata.spaced ≠ "" := by
      obtain ⟨c, cs, hcs, -⟩ := Json.beginsValue_line " " metadata
      intro hempty
      rw [show metadata.line " " = "" from hempty] at hcs
      cases hcs
    unfold Metadata.written
    rw [if_pos htruthy]
    unfold Metadata.read
    dsimp only
    rw [if_neg hline, Json.read_spaced h]

/-- A request for a reference between entities that are named by texts. -/
structure LinkRequest where
  link : LinkKey
  metadata : Json
  createdBy : Option String

namespace LinkRequest

/-- The request, as a store takes it. -/
def request (r : LinkRequest) : NewReference where
  sourceType := .str r.link.source.type
  sourceId := .str r.link.source.id
  targetType := .str r.link.target.type
  targetId := .str r.link.target.id
  relationship := .str r.link.relationship
  metadata := .document r.metadata
  createdBy := Json.ofOption Json.str r.createdBy

/-- The metadata is a value that can be read from a document. -/
def Fits (r : LinkRequest) : Prop := r.metadata.fits Json.maxNesting = true

instance (r : LinkRequest) : Decidable r.Fits := inferInstanceAs (Decidable (_ = true))

/-- Metadata that was read from a text is one. -/
theorem fits_of_read {r : LinkRequest} {text : String} (h : Json.read text = .ok r.metadata) :
    r.Fits := Json.fits_of_read h

/-- The creator of a reference is the one of its request or the default one. -/
theorem exists_creator (r : LinkRequest) (name : String) :
    ∃ creator, (if r.request.createdBy.truthy then r.request.createdBy else .str name) =
      Json.str creator := by
  split
  next htruthy =>
    unfold request at htruthy ⊢
    cases hcreator : r.createdBy with
    | none =>
      rw [hcreator] at htruthy
      cases htruthy
    | some creator => exact ⟨creator, rfl⟩
  next => exact ⟨name, rfl⟩

variable {issuer : Issuer} {name : String}

/-- A row has room for the time and for the creator of the request's reference. -/
def Storable (creator : Name) (time : Int) (r : LinkRequest) : Prop :=
  fitsWord time = true ∧
    ∃ text, (if r.request.createdBy.truthy then r.request.createdBy else creator).cell 9 = .ok text

/-- A storable request has a row under every number, with the next id and its link. -/
theorem Storable.exists_row [IdSource] {creator : Name} {r : LinkRequest}
    (h : r.Storable creator issuer.time) (number : Nat) :
    ∃ row, Row.ofReference (issuer.issue creator r.request).1 number = .ok (some row) ∧
      row.id = Issuer.idOf (issuer.issued + 1) ∧ row.link = r.link := by
  obtain ⟨htime, text, htext⟩ := h
  refine ⟨{ number, id := Issuer.idOf (issuer.issued + 1), link := r.link
            metadata := Metadata.written (if r.metadata.truthy then r.metadata else .null)
            createdAt := issuer.time, createdBy := text }, ?_, rfl, rfl⟩
  unfold Issuer.issue Row.ofReference
  dsimp only
  rw [htime, htext]
  rfl

/-- With a text as the default creator, a request is storable at every time that there is room for. -/
theorem storable_of_fitsWord (r : LinkRequest) (name : String) {time : Int}
    (htime : fitsWord time = true) : r.Storable (.str name) time := by
  obtain ⟨creator, hcreator⟩ := r.exists_creator name
  exact ⟨htime, some creator, by rw [hcreator]; rfl⟩

/-- A reference that is issued has a row under every number, which has the next id and the link of
the request. -/
theorem exists_row [IdSource] (r : LinkRequest) (htime : fitsWord issuer.time = true)
    (number : Nat) : ∃ row, Row.ofReference (issuer.issue (.str name) r.request).1 number =
      .ok (some row) ∧ row.number = number ∧ row.id = Issuer.idOf (issuer.issued + 1) ∧
        row.link = r.link ∧
        row.metadata = Metadata.written (issuer.issue (.str name) r.request).1.metadata ∧
        ∀ metadata, row.withMetadata metadata =
          { (issuer.issue (.str name) r.request).1 with metadata } := by
  obtain ⟨creator, hcreator⟩ := r.exists_creator name
  refine ⟨{ number, id := Issuer.idOf (issuer.issued + 1), link := r.link
            metadata := Metadata.written (if r.metadata.truthy then r.metadata else .null)
            createdAt := issuer.time, createdBy := some creator }, ?_, rfl, rfl, rfl, rfl, ?_⟩
  · unfold Issuer.issue Row.ofReference
    dsimp only
    rw [hcreator, htime]
    rfl
  · intro metadata
    unfold Issuer.issue Row.withMetadata
    dsimp only
    rw [hcreator]
    rfl

/-- What is issued has the metadata of the request, unless that is empty. -/
theorem metadata_issue [IdSource] (issuer : Issuer) (creator : Name) (r : LinkRequest) :
    (issuer.issue creator r.request).1.metadata = .null ∨
      (issuer.issue creator r.request).1.metadata = r.metadata ∧ r.metadata.truthy = true := by
  show (if r.metadata.truthy then r.metadata else .null) = _ ∨
    (if r.metadata.truthy then r.metadata else .null) = _ ∧ _
  split
  next htruthy => exact Or.inr ⟨rfl, htruthy⟩
  next => exact Or.inl rfl

/-- So it is kept. -/
theorem kept_issue [IdSource] (issuer : Issuer) (creator : Name) (r : LinkRequest) :
    (issuer.issue creator r.request).1.metadata = .null ∨
      (issuer.issue creator r.request).1.metadata.truthy = true := by
  rcases r.metadata_issue issuer creator with hnull | ⟨hsame, htruthy⟩
  · exact Or.inl hnull
  · exact Or.inr (hsame ▸ htruthy)

theorem fits_issue [IdSource] {r : LinkRequest} (hfits : r.Fits) (creator : Name) :
    (issuer.issue creator r.request).1.metadata.fits Json.maxNesting = true := by
  rcases r.metadata_issue issuer creator with hnull | ⟨hsame, -⟩
  · rw [hnull]
    rfl
  · rw [hsame]
    exact hfits

/-- **What is issued is recorded.** A reference that is issued for a request within the limits has a
row under every number, with the next id and the link of the request. -/
theorem exists_records [IdSource] {r : LinkRequest} (hfits : r.Fits)
    (htime : fitsWord issuer.time = true) (number : Nat) :
    ∃ row, Row.Records row (issuer.issue (.str name) r.request).1 ∧ row.number = number ∧
      row.id = Issuer.idOf (issuer.issued + 1) ∧ row.link = r.link := by
  obtain ⟨row, hwritten, hnumber, hid, hlink, hmetadata, hwith⟩ :=
    @exists_row issuer name _ r htime number
  refine ⟨row, ⟨hnumber ▸ hwritten, ?_⟩, hnumber, hid, hlink⟩
  unfold Row.reference
  rw [hmetadata, Metadata.read_written (fits_issue hfits _) (r.kept_issue issuer _)]
  show Except.ok (row.withMetadata _) = _
  rw [hwith]

end LinkRequest

end ChangeImpact

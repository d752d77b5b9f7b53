import ChangeImpact.Proofs.Checked
import ChangeImpact.Reference.Store

/-!
# What a row holds

A row answers a reference unless its metadata cannot be read. Whatever its metadata is, the
reference has the row's id and names the row's link. Rows are looked at only while their store is
open.
-/

namespace ChangeImpact

/-- An open store can be used. -/
theorem Store.needOpen_eq {store : Store} (h : store.isOpen = true) : store.needOpen = .ok () :=
  Checked.guardThat_eq_ok.mpr h

/-- The reference is one of the link. -/
def Reference.isFor (ref : Reference) (link : LinkKey) : Bool :=
  ref.sourceType = .str link.source.type && ref.sourceId = .str link.source.id &&
    ref.targetType = .str link.target.type && ref.targetId = .str link.target.id &&
    ref.relationship = .str link.relationship

namespace Row

/-- What a row answers is a reference of its link and of no other. -/
theorem isFor_withMetadata (row : Row) (metadata : Json) (link : LinkKey) :
    (row.withMetadata metadata).isFor link = decide (row.link = link) := by
  obtain ⟨number, id, ⟨⟨sourceType, sourceId⟩, ⟨targetType, targetId⟩, relationship⟩, kept,
    createdAt, createdBy⟩ := row
  obtain ⟨⟨sourceType', sourceId'⟩, ⟨targetType', targetId'⟩, relationship'⟩ := link
  unfold Reference.isFor withMetadata
  rw [Bool.eq_iff_iff]
  simp [and_assoc]

/-- A row is read if its metadata are. -/
theorem reference_eq_ok {row : Row} {ref : Reference} :
    row.reference = .ok ref ↔
      ∃ metadata, Metadata.read row.metadata = .ok metadata ∧ row.withMetadata metadata = ref := by
  unfold reference
  exact Checked.map_eq_ok

/-- What is read from a row has its id. -/
theorem reference_id {row : Row} {ref : Reference} (h : row.reference = .ok ref) :
    ref.id = row.id := by
  obtain ⟨metadata, -, rfl⟩ := reference_eq_ok.mp h
  rfl

/-- Rows are answered with their ids. -/
theorem mapM_reference_ids {rows : List Row} {refs : List Reference}
    (h : rows.mapM reference = .ok refs) : refs.map Reference.id = rows.map Row.id := by
  have hall := Checked.mapM_eq_ok.mp h
  clear h
  induction hall with
  | nil => rfl
  | cons hfirst _ ih => rw [List.map_cons, List.map_cons, reference_id hfirst, ih]

end Row

end ChangeImpact

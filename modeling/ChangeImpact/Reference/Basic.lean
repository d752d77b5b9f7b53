import ChangeImpact.Mention
import ChangeImpact.Record
import ChangeImpact.Reference.Payload

/-!
# References between entities

A reference is a typed, directed link between two entities, with optional metadata, the
time of its creation and its creator.  A request for one names the link; it is checked
against the known entity types and relationships before it reaches a store.
-/

namespace ChangeImpact

/-- What identifies a reference: its two entities and the relationship between them. -/
structure LinkKey where
  source : EntityKey
  target : EntityKey
  relationship : String
deriving DecidableEq, Inhabited

/-- A reference, as it was asked for or as it was read. -/
structure Reference where
  id : String
  sourceType : Name
  sourceId : Name
  targetType : Name
  targetId : Name
  relationship : Name
  metadata : Json
  createdAt : Int
  createdBy : Name
deriving DecidableEq

namespace Reference

/-- The shape of a reference record. -/
def schema : Schema where
  fields := [.required "id", .required "source_type", .required "source_id",
    .required "target_type", .required "target_id", .required "relationship",
    .optional "metadata" .null, .optional "created_at" (.int 0), .optional "created_by" .null]
  choices := []

/-- The reference as a record. -/
def toJson (ref : Reference) : Json := .obj
  [("id", .str ref.id), ("source_type", ref.sourceType), ("source_id", ref.sourceId),
    ("target_type", ref.targetType), ("target_id", ref.targetId),
    ("relationship", ref.relationship), ("metadata", ref.metadata),
    ("created_at", .int ref.createdAt), ("created_by", ref.createdBy)]

/-- A link in one line. -/
def summaryOf (sourceType sourceId targetType targetId relationship : Name) : String :=
  s!"{sourceType.display}:{sourceId.display} -{relationship.display}-> {targetType.display}:{targetId.display}"

/-- The reference in one line. -/
def summary (ref : Reference) : String :=
  summaryOf ref.sourceType ref.sourceId ref.targetType ref.targetId ref.relationship

end Reference

/-- A request for a reference. -/
structure NewReference where
  sourceType : Name
  sourceId : Name
  targetType : Name
  targetId : Name
  relationship : Name
  metadata : Payload
  createdBy : Name
deriving DecidableEq

namespace NewReference

/-- The shape of a checked request's record. -/
def schema : Schema where
  fields := [.required "source_type", .required "source_id", .required "target_type",
    .required "target_id", .optional "relationship" (.str "related_to"),
    .optional "metadata" .null, .optional "created_by" .null]
  choices := [⟨"source_type", "entity type", entityTypes, false⟩,
    ⟨"target_type", "entity type", entityTypes, false⟩,
    ⟨"relationship", "relationship", relationships, false⟩]

/-- The record of a checked request: both entities need an id. -/
def build (given : Json) : Checked Json := do
  let record ← schema.build given
  guardThat ((record.get "source_id").truthy && (record.get "target_id").truthy)
    .incompleteReference
  return record

/-- The request that a record describes. -/
def ofRecord (record : Json) : NewReference where
  sourceType := record.get "source_type"
  sourceId := record.get "source_id"
  targetType := record.get "target_type"
  targetId := record.get "target_id"
  relationship := record.get "relationship"
  metadata := .of (record.get "metadata")
  createdBy := record.get "created_by"

/-- The shape of a request that is taken as it is. -/
def uncheckedSchema : Schema where
  fields := [.required "source_type", .required "source_id", .required "target_type",
    .required "target_id", .required "relationship", .optional "metadata" .null,
    .optional "created_by" .null]
  choices := []

/-- A request for a link between two entities, checked against the known words. -/
def checked (link : LinkKey) (metadata createdBy : Json) : Checked NewReference := do
  let record ← build (.obj
    [("source_type", .str link.source.type), ("source_id", .str link.source.id),
      ("target_type", .str link.target.type), ("target_id", .str link.target.id),
      ("relationship", .str link.relationship), ("metadata", metadata),
      ("created_by", createdBy)])
  return ofRecord record

end NewReference

end ChangeImpact

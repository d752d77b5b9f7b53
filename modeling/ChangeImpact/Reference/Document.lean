import ChangeImpact.Reference.Store

/-!
# Stores as documents

A table of references is kept between runs as a list of its rows, each one an object.
-/

namespace ChangeImpact

namespace Row

/-- A row as a record. -/
def toJson (row : Row) : Json := .obj
  [("number", .int row.number), ("id", .str row.id),
    ("source_type", .str row.link.source.type), ("source_id", .str row.link.source.id),
    ("target_type", .str row.link.target.type), ("target_id", .str row.link.target.id),
    ("relationship", .str row.link.relationship),
    ("metadata", Json.ofOption Json.str row.metadata), ("created_at", .int row.createdAt),
    ("created_by", Json.ofOption Json.str row.createdBy)]

/-- The row of a record; `none` if part of it is missing. -/
def ofJson? (record : Json) : Option Row := do
  let text (name : String) : Option String := (record.get name).text?
  match record.get "number", record.get "created_at" with
  | .int number, .int createdAt =>
    let link ← link? (text "source_type") (text "source_id") (text "target_type")
      (text "target_id") (text "relationship")
    return { number := number.toNat, id := ← text "id", link, metadata := text "metadata", createdAt,
             createdBy := text "created_by" }
  | _, _ => none

end Row

namespace ReferenceTable

/-- A table as a document. -/
def toJson (table : ReferenceTable) : Json := .arr (table.rows.map Row.toJson)

/-- The table of a document; rows that are no rows are left out. -/
def ofJson (document : Json) : ReferenceTable :=
  match document with
  | .arr rows => ⟨rows.filterMap Row.ofJson?⟩
  | _ => .empty

end ReferenceTable

end ChangeImpact

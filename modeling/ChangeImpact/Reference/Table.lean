import ChangeImpact.Json.Reader
import ChangeImpact.Json.Writer
import ChangeImpact.Reference.Basic
import ChangeImpact.Reference.Cell

/-!
# The table of references

A table keeps references in rows.  No two rows have one id or one link.  A row gets a number one
above the highest in use, so that rows are numbered in the order of insertion.

Rows are changed in transactions.  The statements of one work on a table of their own, which takes
the place of the committed one at the end, unless a fault ends the transaction.
-/

namespace ChangeImpact

namespace Metadata

/-- The text that a row keeps of some metadata; empty metadata is not kept. -/
def written (value : Json) : Option String := if value.truthy then some value.spaced else none

/-- The metadata that a row's text writes; a text that is no document is metadata as it
is, one beyond the limits of reading a fault. -/
def read : Option String → Checked Json
  | none => .ok .null
  | some text =>
    if text = "" then .ok .null
    else
      match Json.read text with
      | .ok value => .ok value
      | .error (.malformed _) => .ok (.obj [("raw", .str text)])
      | .error unread => .error (.ofUnread unread)

end Metadata

/-- A stored reference. -/
structure Row where
  number : Nat
  id : String
  link : LinkKey
  metadata : Option String
  createdAt : Int
  createdBy : Option String
deriving DecidableEq

namespace Row

/-- The reference that a row holds, with its metadata. -/
def withMetadata (row : Row) (metadata : Json) : Reference where
  id := row.id
  sourceType := .str row.link.source.type
  sourceId := .str row.link.source.id
  targetType := .str row.link.target.type
  targetId := .str row.link.target.id
  relationship := .str row.link.relationship
  metadata
  createdAt := row.createdAt
  createdBy := Json.ofOption Json.str row.createdBy

/-- The reference that a row holds; its metadata has to be readable. -/
def reference (row : Row) : Checked Reference := (Metadata.read row.metadata).map row.withMetadata

/-- The link between two entities, unless part of it is missing. -/
def link? (sourceType sourceId targetType targetId relationship : Option String) :
    Option LinkKey := do
  return ⟨⟨← sourceType, ← sourceId⟩, ⟨← targetType, ← targetId⟩, ← relationship⟩

/-- The row of a reference under a number; `none` if part of the link is null. -/
def ofReference (ref : Reference) (number : Nat) : Checked (Option Row) := do
  let sourceType ← ref.sourceType.cell 2
  let sourceId ← ref.sourceId.cell 3
  let targetType ← ref.targetType.cell 4
  let targetId ← ref.targetId.cell 5
  let relationship ← ref.relationship.cell 6
  guardThat (fitsWord ref.createdAt) .integerTooLarge
  let createdBy ← ref.createdBy.cell 9
  return (link? sourceType sourceId targetType targetId relationship).map fun link =>
    { number, id := ref.id, link, metadata := Metadata.written ref.metadata,
      createdAt := ref.createdAt, createdBy }

end Row

/-- The rows of a store, in the order of insertion. -/
structure ReferenceTable where
  rows : List Row
deriving DecidableEq

namespace ReferenceTable

/-- No rows. -/
def empty : ReferenceTable := ⟨[]⟩

/-- The number of the next row. -/
def nextNumber (table : ReferenceTable) : Nat :=
  (table.rows.map Row.number).foldl max 0 + 1

/-- The row with an id. -/
def byId? (table : ReferenceTable) (id : String) : Option Row :=
  table.rows.find? fun row => row.id = id

/-- The row with a link. -/
def byLink? (table : ReferenceTable) (link : LinkKey) : Option Row :=
  table.rows.find? fun row => row.link = link

/-- The table with a further row, unless its id or its link is taken. -/
def insert? (table : ReferenceTable) (row : Row) : Option ReferenceTable :=
  if table.rows.any fun other => other.id = row.id || other.link = row.link then none
  else some ⟨table.rows ++ [row]⟩

/-- The table without the rows that satisfy `p`. -/
def erase (table : ReferenceTable) (p : Row → Bool) : ReferenceTable :=
  ⟨table.rows.filter fun row => !p row⟩

/-- Whether a row satisfies `p`. -/
def any (table : ReferenceTable) (p : Row → Bool) : Bool := table.rows.any p

end ReferenceTable

/-- A transaction: the table as it was committed last, and the one that the statements have made of it,
once there was one that changes rows. -/
structure Transaction where
  committed : ReferenceTable
  working : Option ReferenceTable

namespace Transaction

/-- A transaction at its start. -/
def start (table : ReferenceTable) : Transaction := ⟨table, none⟩

/-- The table that the statements see. -/
def table (transaction : Transaction) : ReferenceTable :=
  transaction.working.getD transaction.committed

/-- The transaction after a statement that leaves such a table. -/
def put (transaction : Transaction) (table : ReferenceTable) : Transaction :=
  { transaction with working := some table }

/-- Takes out the rows that satisfy `p`, and says whether there was one. -/
def erase (transaction : Transaction) (p : Row → Bool) : Transaction × Bool :=
  (transaction.put (transaction.table.erase p), transaction.table.any p)

/-- The table that stays when a transaction has ended: what was made of it, or if a fault has ended the
transaction the one that was committed before. -/
def ended {α : Type} (transaction : Transaction) : Checked α → ReferenceTable
  | .ok _ => transaction.table
  | .error _ => transaction.committed

end Transaction

end ChangeImpact

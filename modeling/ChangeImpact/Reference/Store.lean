import ChangeImpact.Reference.Issuer
import ChangeImpact.Reference.Table

/-!
# The reference store

A store keeps references in a table.  A request for a link that is there already leaves the table as
it is.  Whatever changes rows does so in a transaction.

Every request uses an id up, whether or not a row comes of it.  A fault in a batch takes the whole batch
back, except for the ids that it used.

`create` and `createAll` are the operations `create_reference` and `create_references_bulk`, with
`_insert_ignore` as `insert`; `get`, `getByLink`, `delete` and `deleteByLink` are `get_reference`,
`get_reference_by_link`, `delete_reference` and `delete_reference_by_link`.
-/

namespace ChangeImpact

/-- A store in use: its rows, where ids come from, the default creator, and whether it is
open. -/
structure Store where
  table : ReferenceTable
  issuer : Issuer
  creator : Name
  isOpen : Bool
deriving DecidableEq

namespace Store

/-- Faults unless the store is open. -/
def needOpen (store : Store) : Checked Unit := guardThat store.isOpen .closedDatabase

/-- Runs the statements of a transaction, which may use up ids. -/
def transact {α : Type} (store : Store)
    (statements : Transaction → Issuer → Transaction × Issuer × Checked α) : Store × Checked α :=
  match store.needOpen with
  | .error fault => (store, .error fault)
  | .ok () =>
    let (transaction, issuer, result) := statements (.start store.table) store.issuer
    ({ store with issuer, table := transaction.ended result }, result)

/-- The table with the reference that was issued for a request; `none` if nothing was stored. -/
def insert? (table : ReferenceTable) (request : NewReference) (ref : Reference) :
    Checked (Option ReferenceTable) := do
  request.metadata.needDocument
  return (← Row.ofReference ref table.nextNumber).bind table.insert?

/-- Puts the reference that was issued for a request into the table, and says whether it was stored. -/
def insert (transaction : Transaction) (request : NewReference) (ref : Reference) :
    Transaction × Checked Bool :=
  match insert? transaction.table request ref with
  | .error fault => (transaction, .error fault)
  | .ok none => (transaction.put transaction.table, .ok false)
  | .ok (some table) => (transaction.put table, .ok true)

/-- The reference with a link, whose parts may be given in any form. -/
def getByLink (store : Store) (sourceType sourceId targetType targetId relationship : Name) :
    Checked (Option Reference) := do
  store.needOpen
  let link? := Row.link? (← sourceType.cell 1) (← sourceId.cell 2) (← targetType.cell 3)
    (← targetId.cell 4) (← relationship.cell 5)
  (link?.bind store.table.byLink?).mapM Row.reference

/-- The reference with an id. -/
def get (store : Store) (id : Name) : Checked (Option Reference) := do
  store.needOpen
  ((← id.cell 1).bind store.table.byId?).mapM Row.reference

/-- Creates a reference, or finds the one with its link; if neither is possible the answer is
the reference as it was asked for. -/
def create [IdSource] (store : Store) (request : NewReference) : Store × Checked Reference :=
  let (ref, issuer) := store.issuer.issue store.creator request
  let (store, inserted) := transact { store with issuer } fun transaction issuer =>
    let (transaction, inserted) := insert transaction request ref
    (transaction, issuer, inserted)
  match inserted with
  | .error fault => (store, .error fault)
  | .ok true => (store, .ok ref)
  | .ok false =>
    (store, (store.getByLink ref.sourceType ref.sourceId ref.targetType ref.targetId
      ref.relationship).map fun found => found.getD ref)

/-- Inserts the references of some requests, one after the other, and answers those that were stored. -/
def insertEach [IdSource] (creator : Name) (transaction : Transaction) (issuer : Issuer) :
    List NewReference → Transaction × Issuer × Checked (List Reference)
  | [] => (transaction, issuer, .ok [])
  | request :: rest =>
    let (ref, issuer) := issuer.issue creator request
    let (transaction, inserted) := insert transaction request ref
    match inserted with
    | .error fault => (transaction, issuer, .error fault)
    | .ok inserted =>
      let (transaction, issuer, created) := insertEach creator transaction issuer rest
      (transaction, issuer, created.map fun refs => if inserted then ref :: refs else refs)

/-- Creates many references at once and answers those that were stored; a fault takes back
all of them. -/
def createAll [IdSource] (store : Store) (requests : List NewReference) :
    Store × Checked (List Reference) :=
  store.transact fun transaction issuer => insertEach store.creator transaction issuer requests

/-- Deletes the rows that satisfy a condition, and says whether there was one. -/
def eraseWhere (store : Store) (condition : Checked (Row → Bool)) : Store × Checked Bool :=
  store.transact fun transaction issuer =>
    match condition with
    | .error fault => (transaction, issuer, .error fault)
    | .ok p =>
      let (transaction, removed) := transaction.erase p
      (transaction, issuer, .ok removed)

/-- Deletes the reference with an id, and says whether there was one. -/
def delete (store : Store) (id : Name) : Store × Checked Bool :=
  store.eraseWhere do
    let id ← id.cell 1
    return fun row => some row.id = id

/-- Deletes the reference with a link, and says whether there was one. -/
def deleteByLink (store : Store) (sourceType sourceId targetType targetId relationship : Name) :
    Store × Checked Bool :=
  store.eraseWhere do
    let link? := Row.link? (← sourceType.cell 1) (← sourceId.cell 2) (← targetType.cell 3)
      (← targetId.cell 4) (← relationship.cell 5)
    return fun row => some row.link = link?

/-- Puts a text in place of a row's metadata. -/
def putMetadata (store : Store) (id text : Name) : Store × Checked Unit :=
  match (do store.needOpen; return (← text.cell 1, ← id.cell 2)) with
  | .error fault => (store, .error fault)
  | .ok (metadata, id) =>
    let rows := store.table.rows.map fun row =>
      if some row.id = id then { row with metadata } else row
    ({ store with table := ⟨rows⟩ }, .ok ())

/-- Faults unless a value is a time that a store can wait: a number that the binary64
format has room for. -/
def checkWait (value : Json) : Checked Unit :=
  match value with
  | .int n => guardThat (Binary64.ofRat n).isFinite .integerBeyondNumbers
  | _ => value.needNumber

/-- The store after closing it. -/
def close (store : Store) : Store := { store with isOpen := false }

/-- The store opened again with a default creator. -/
def reopen (store : Store) (creator : Name) : Store := { store with isOpen := true, creator }

end Store

end ChangeImpact

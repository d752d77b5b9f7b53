import ChangeImpact.Reference.Store
import ChangeImpact.Reference.Where

/-!
# Looking for references

Rows come newest first: by time of creation, and the last inserted first where times agree.
A request for some of them is anchored on an entity, with a direction that says on which side the
entity has to be, or else compares each side by itself; a relationship filter comes on top of
either.  It becomes a clause, whose parameters are bound when the rows are looked for.

A query answers one page of the rows that meet its filter, of at most `maxLimit` rows.

`Store.query` and `Store.count` are the operations of these names, and `FilterRequest.clause` is
`_build_filters`.
-/

namespace ChangeImpact

namespace ReferenceTable

/-- Whether a row comes before another one. -/
def newerFirst (a b : Row) : Bool :=
  b.createdAt < a.createdAt || (a.createdAt == b.createdAt && b.number ≤ a.number)

/-- The rows, newest first. -/
def newest (table : ReferenceTable) : List Row := table.rows.mergeSort newerFirst

/-- The rows that meet a filter, newest first. -/
def matching (table : ReferenceTable) (filter : Filter) : List Row :=
  table.newest.filter filter.accepts

/-- The most rows that a query answers. -/
def maxLimit : Nat := 500

/-- One page of the rows that meet a filter. -/
def query (table : ReferenceTable) (filter : Filter) (limit offset : Nat) : List Row :=
  ((table.matching filter).drop offset).take (min limit maxLimit)

/-- The number of rows that meet a filter. -/
def count (table : ReferenceTable) (filter : Filter) : Nat := (table.matching filter).length

end ReferenceTable

/-- A filter as a request gives it. -/
structure FilterRequest where
  sourceType : Name
  sourceId : Name
  targetType : Name
  targetId : Name
  entityType : Name
  entityId : Name
  direction : Json
  relationship : Json
deriving DecidableEq

namespace FilterRequest

/-- The fields of a filter's record. -/
def fields : List Schema.Field :=
  [.optional "source_type" .null, .optional "source_id" .null, .optional "target_type" .null,
    .optional "target_id" .null, .optional "entity_type" .null, .optional "entity_id" .null,
    .optional "direction" (.str "both"), .optional "relationship" .null]

/-- The shape of a request to count. -/
def countSchema : Schema := ⟨fields, []⟩

/-- The shape of a request for a page. -/
def querySchema : Schema :=
  ⟨fields ++ [.optional "limit" (.int 100), .optional "offset" (.int 0)], []⟩

/-- The filter that a record describes. -/
def ofRecord (record : Json) : FilterRequest where
  sourceType := record.get "source_type"
  sourceId := record.get "source_id"
  targetType := record.get "target_type"
  targetId := record.get "target_id"
  entityType := record.get "entity_type"
  entityId := record.get "entity_id"
  direction := record.get "direction"
  relationship := record.get "relationship"

/-- Whether the filter is anchored on an entity. -/
def isAnchored (request : FilterRequest) : Bool :=
  request.entityType.truthy && request.entityId.truthy

/-- The condition on the entity, with its type and its id for each side; the direction has to be one that
there is. -/
def anchored (request : FilterRequest) : Checked (List (Condition × List Json)) :=
  let key := [request.entityType, request.entityId]
  match (Vocabulary.ofJson? request.direction : Option Direction) with
  | none => .error (.invalidChoice "direction" request.direction (Vocabulary.names Direction))
  | some .both => .ok [(.onSide .both, key ++ key)]
  | some direction => .ok [(.onSide direction, key)]

/-- The conditions on either side, of those that are given. -/
def strict (request : FilterRequest) : List (Condition × List Json) :=
  let asked : List (Column × Name) :=
    [(.sourceType, request.sourceType), (.sourceId, request.sourceId),
      (.targetType, request.targetType), (.targetId, request.targetId)]
  (asked.filter fun part => part.2.truthy).map fun part => (.equals part.1, [part.2])

/-- The condition on the relationship: it is a certain one, or one of a list. -/
def related (request : FilterRequest) : Checked (List (Condition × List Json)) :=
  if !request.relationship.truthy then .ok []
  else
    match request.relationship with
    | .str word => .ok [(.equals .relationship, [.str word])]
    | words => words.elements.map fun words => [(.among .relationship words.length, words)]

/-- The conditions on the entities. -/
def sides (request : FilterRequest) : Checked (List (Condition × List Json)) :=
  if request.isAnchored then request.anchored else .ok request.strict

/-- What rows have to meet. -/
def clause (request : FilterRequest) : Checked Clause := do
  return ⟨(← request.sides) ++ (← request.related)⟩

/-- A number of rows, none below zero and `most` at most; what is left has to be whole. -/
def rowCount (most : Option Nat) (value : Json) : Checked Nat :=
  let bounded (n : Int) : Checked Nat :=
    match most with
    | some most => .ok (min n.toNat most)
    | none => if fitsWord (max n 0) then .ok n.toNat else .error .integerTooLarge
  match value with
  | .int n => bounded n
  | .bool b => bounded (if b then 1 else 0)
  | .float x =>
    if x.isNaN || x.isNegative then .ok 0
    else
      match x.toRat?, most with
      | some r, none =>
        if r.den = 1 && fitsWord r.floor then .ok r.floor.toNat else .error .datatypeMismatch
      | some r, some most =>
        if r.den = 1 || (most : Rat) ≤ r then bounded r.floor else .error .datatypeMismatch
      | none, none => .error .datatypeMismatch
      | none, some most => .ok most
  | _ => .error .wrongType

/-- Faults on a whole number of rows to leave out that a parameter has no room for. -/
def checkOffset (offset : Json) : Checked Unit :=
  match offset with
  | .int n => guardThat (fitsWord (max n 0)) .integerTooLarge
  | _ => .ok ()

end FilterRequest

namespace Store

/-- One page of the references that meet a filter.  All parameters are bound first; then the
limit is looked at, and the offset only if there may be rows at all. -/
def query (store : Store) (request : FilterRequest) (limit offset : Json) :
    Checked (List Reference) := do
  let clause ← request.clause
  Json.needNumber limit
  Json.needNumber offset
  store.needOpen
  let filter ← clause.bind
  FilterRequest.checkOffset offset
  let limit ← FilterRequest.rowCount (some ReferenceTable.maxLimit) limit
  if limit = 0 then return []
  let offset ← FilterRequest.rowCount none offset
  (store.table.query filter limit offset).mapM Row.reference

/-- The number of references that meet a filter. -/
def count (store : Store) (request : FilterRequest) : Checked Nat := do
  let clause ← request.clause
  store.needOpen
  return store.table.count (← clause.bind)

end Store

end ChangeImpact

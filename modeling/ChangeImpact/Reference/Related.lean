import ChangeImpact.Reference.Query
import ChangeImpact.Traversal

/-!
# Related references

References join entities into a graph.  Everything related to an entity is found by going
outwards along references in either direction: the references at the entity itself, those
at the entities one hop away, and so on; each entity is looked at once and each reference
answered once.  What is as far away as the search goes is met but not looked at.

`Store.related` is the operation `get_related_entities`, and `touching` is `_edges_touching`.
-/

namespace ChangeImpact

namespace ReferenceTable

/-- The references at an entity, newest first. -/
def touching (table : ReferenceTable) (key : EntityKey) : List Row :=
  table.matching (.touching key .both)

/-- The other end of a reference at an entity. -/
def otherEnd (key : EntityKey) (row : Row) : EntityKey :=
  if row.link.source = key then row.link.target else row.link.source

/-- A visit to the entity. -/
def visitOf (key : EntityKey) : Visit EntityKey Unit := ⟨key, ()⟩

/-- Where one can go along the references of a table. -/
def terrain (table : ReferenceTable) : Terrain EntityKey Unit where
  steps visit := (table.touching visit.node).map fun row => visitOf (otherEnd visit.node row)
  known _ := true

/-- The rows without those whose id has been seen. -/
def distinct (seen : List String) : List Row → List Row
  | [] => []
  | row :: rest =>
    if row.id ∈ seen then distinct seen rest else row :: distinct (row.id :: seen) rest

/-- The references at the entities that are visited before the search has gone `depth` hops. -/
def around (table : ReferenceTable) (depth : Nat) (visits : List (Visit EntityKey Unit × Nat)) :
    List Row :=
  (visits.filter fun entry => entry.2 < depth).flatMap fun entry => table.touching entry.1.node

/-- The references with an end less than `depth` hops from an entity, closest first. -/
def related (table : ReferenceTable) (key : EntityKey) (depth : Nat) : List Row :=
  distinct [] (table.around depth (Traversal.explore table.terrain depth [visitOf key] []))

/-- The references related to a start that no entity is the same as.  At its own references it is
at neither end, so that the search goes on from the sources of them. -/
def relatedToStranger (table : ReferenceTable) (key : EntityKey) (depth : Nat) : List Row :=
  let first := table.touching key
  let met := Traversal.fresh [] (first.map fun row => visitOf row.link.source)
  distinct [] (first ++ table.around depth
    (Traversal.search table.terrain depth (met.map Visit.node) (met.map fun visit => (visit, 1))))

end ReferenceTable

namespace Store

/-- The references related to an entity, whose type and id may be given in any form.  One
that is not given as texts is not recognised when it is met again. -/
def related (store : Store) (type id depth : Json) : Checked (List Reference) := do
  Json.needKeys [type, id]
  Json.needNumber depth
  let depth : Nat :=
    match depth with
    | .int n => n.toNat
    | .bool b => if b then 1 else 0
    | .float x => x.wholeAbove.toNat
    | _ => 0
  if depth = 0 then return []
  store.needOpen
  match ← type.cell 1, ← id.cell 2 with
  | some typeText, some idText =>
    let key : EntityKey := ⟨typeText, idText⟩
    let rows :=
      if type.text?.isSome && id.text?.isSome then store.table.related key depth
      else store.table.relatedToStranger key depth
    rows.mapM Row.reference
  | _, _ => return []

end Store

end ChangeImpact

import ChangeImpact.Reference.Store

/-!
# Linking mentions

An entity whose text mentions others is linked to each of them by a reference, itself
excepted.

`Store.linkMentions` is the operation `link_mentions`.
-/

namespace ChangeImpact

namespace Store

/-- The requests for the entities that a text mentions. -/
def mentionRequests (type id : Name) (mentioned : List EntityKey) (createdBy : Name) :
    Checked (List NewReference) :=
  (mentioned.filter fun key => !(type = .str key.type && id = .str key.id)).mapM fun key => do
    let record ← NewReference.build (.obj
      [("source_type", type), ("source_id", id), ("target_type", .str key.type),
        ("target_id", .str key.id), ("relationship", .str "mentions"), ("created_by", createdBy)])
    return NewReference.ofRecord record

/-- Links an entity to those that a text mentions and answers the new references. -/
def linkMentions [IdSource] (store : Store) (type id text createdBy : Json) :
    Store × Checked (List Reference) :=
  match (do mentionRequests type id (← Mention.ofName text) createdBy) with
  | .error fault => (store, .error fault)
  | .ok [] => (store, .ok [])
  | .ok requests => store.createAll requests

end Store

end ChangeImpact

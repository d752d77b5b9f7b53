import ChangeImpact.Record
import ChangeImpact.Vocabulary

/-!
# Data flows

A `DataFlow` is a directed relationship between two modules over the entities that they
share.  Documents give its ends as `from` and `to` or as `source` and `target`.
-/

namespace ChangeImpact

/-- A flow of data from one module to another. -/
structure DataFlow where
  source : Name
  target : Name
  entities : List Name
  flowType : FlowType
  strength : Strength
  relationships : List Name
deriving DecidableEq

namespace DataFlow

/-- Whether two flows agree in every part. -/
def agrees (a b : DataFlow) : Bool :=
  a.source == b.source && a.target == b.target && a.entities == b.entities &&
    a.flowType = b.flowType && a.strength = b.strength && a.relationships == b.relationships

/-- The shape of a flow record. -/
def schema : Schema where
  fields := [.required "source", .required "target", .optional "entities" (.arr []),
    .optional "flow_type" (.str "read"), .optional "strength" (.str "optional"),
    .optional "relationships" (.arr [])]
  choices := [⟨"flow_type", "flow type", Vocabulary.names FlowType, false⟩,
    ⟨"strength", "flow strength", Vocabulary.names Strength, false⟩]

/-- The value of the first of two fields that an object has, or else the fallback. -/
def eitherPart (payload : Json) (first second : String) (fallback : Json) : Checked Json := do
  payload.part first (← payload.part second fallback)

/-- A word that has to be a member of its enumeration. -/
def needMember {α : Type} [Vocabulary α] (what : String) (value : Json) : Checked α :=
  match Vocabulary.ofJson? value with
  | some a => .ok a
  | none => .error (.invalidChoice what value (Vocabulary.names α))

/-- The flow that an object of a document describes. -/
def ofJson (payload : Json) : Checked DataFlow := do
  let source ← eitherPart payload "from" "source" (.str "")
  let target ← eitherPart payload "to" "target" (.str "")
  let entities ← (← payload.part "entities" (.arr [])).elements
  let flowType ← eitherPart payload "flowType" "flow_type" (.str "read")
  let strength ← payload.part "strength" (.str "optional")
  let relationships ← (← payload.part "relationships" (.arr [])).elements
  let flowType ← needMember "flow type" flowType
  let strength ← needMember "flow strength" strength
  return { source, target, entities, flowType, strength, relationships }

/-- The flow as a record. -/
def toJson (flow : DataFlow) : Json := .obj
  [("source", flow.source), ("target", flow.target), ("entities", .arr flow.entities),
    ("flow_type", Vocabulary.toJson flow.flowType), ("strength", Vocabulary.toJson flow.strength),
    ("relationships", .arr flow.relationships)]

end DataFlow

end ChangeImpact

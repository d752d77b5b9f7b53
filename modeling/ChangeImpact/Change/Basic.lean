import ChangeImpact.Record
import ChangeImpact.Vocabulary

/-!
# Changes and what is read out of them

A `Change` is a request: free text and, optionally, the modules, files and specification
that it is about.  A `Parsed` change is what the text was found to say: the entities it
names, the operations it asks for, its keywords, the type of change and how sure all that
is.
-/

namespace ChangeImpact

/-- A change request. -/
structure Change where
  description : Json
  targetModules : List Name
  targetFiles : List Name
  specId : Name
  changeType : Option ChangeType
deriving DecidableEq

namespace Change

/-- The shape of a change record. -/
def schema : Schema where
  fields := [.required "description", .optional "target_modules" (.arr []),
    .optional "target_files" (.arr []), .optional "spec_id" .null, .optional "change_type" .null]
  choices := [⟨"change_type", "change type", Vocabulary.names ChangeType, true⟩]

/-- The change that a record describes. -/
def ofRecord (record : Json) : Change where
  description := record.get "description"
  targetModules := record.itemsAt "target_modules"
  targetFiles := record.itemsAt "target_files"
  specId := record.get "spec_id"
  changeType := Vocabulary.ofJson? (record.get "change_type")

/-- The change as a record. -/
def toJson (change : Change) : Json := .obj
  [("description", change.description), ("target_modules", .arr change.targetModules),
    ("target_files", .arr change.targetFiles), ("spec_id", change.specId),
    ("change_type", Json.ofOption Vocabulary.toJson change.changeType)]

end Change

/-- Something that a change asks to be done to a target. -/
structure Operation where
  type : OperationType
  target : String
  description : String
deriving DecidableEq, Inhabited

namespace Operation

/-- The shape of an operation record. -/
def schema : Schema where
  fields := [.required "type", .required "target", .optional "description" (.str "")]
  choices := [⟨"type", "operation type", Vocabulary.names OperationType, false⟩]

/-- The operation that a record describes. -/
def ofRecord (record : Json) : Operation where
  type := (Vocabulary.ofJson? (record.get "type")).getD .add
  target := (record.get "target").display
  description := (record.get "description").display

/-- The operation as a record. -/
def toJson (operation : Operation) : Json := .obj
  [("type", Vocabulary.toJson operation.type), ("target", .str operation.target),
    ("description", .str operation.description)]

end Operation

/-- What the text of a change was found to say. -/
structure Parsed where
  entities : List Name
  operations : List Operation
  keywords : List Name
  changeType : ChangeType
  confidence : Binary64
deriving DecidableEq

namespace Parsed

/-- The shape of a parsed change record. -/
def schema : Schema where
  fields := [.optional "entities" (.arr []), .optional "operations" (.arr []),
    .optional "keywords" (.arr []), .optional "change_type" (.str "feature"),
    .optional "confidence" (.float .nought)]
  choices := [⟨"change_type", "change type", Vocabulary.names ChangeType, false⟩]

/-- The record of a parsed change, its operations built into records first. -/
def build (given : Json) : Checked Json := do
  match given with
  | .obj fields =>
    match Json.lookup "operations" fields with
    | some operations =>
      let records ← (← operations.elements).mapM Operation.schema.build
      schema.build (.obj (Json.setField "operations" (.arr records) fields))
    | none => schema.build given
  | _ => throw .wrongType

/-- The parsed change that a record describes. -/
def ofRecord (record : Json) : Parsed where
  entities := record.itemsAt "entities"
  operations := (record.itemsAt "operations").map Operation.ofRecord
  keywords := record.itemsAt "keywords"
  changeType := (Vocabulary.ofJson? (record.get "change_type")).getD .feature
  confidence :=
    match record.get "confidence" with
    | .float x => x
    | _ => .nought

/-- The parsed change as a record. -/
def toJson (parsed : Parsed) : Json := .obj
  [("entities", .arr parsed.entities), ("operations", .arr (parsed.operations.map Operation.toJson)),
    ("keywords", .arr parsed.keywords), ("change_type", Vocabulary.toJson parsed.changeType),
    ("confidence", .float parsed.confidence)]

end Parsed

end ChangeImpact

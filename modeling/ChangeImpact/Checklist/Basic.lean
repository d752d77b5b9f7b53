import ChangeImpact.Record
import ChangeImpact.Risk.Basic
import ChangeImpact.Vocabulary

/-!
# Entries of a checklist

A checklist says what to clear before, or while, a change is made.  An entry belongs to a
category, may block the change, and may come with a command that verifies it; it refers
back to the risk, the flow or the module that it is for.
-/

namespace ChangeImpact

/-- An entry of a checklist. -/
structure CheckItem where
  id : String
  title : String
  description : String
  category : CheckCategory
  status : CheckStatus
  isBlocking : Flag
  autoVerifiable : Bool
  verifyCommand : Option String
  expectedPattern : Option String
  riskId : Name
  flowId : Name
  moduleId : Name
deriving DecidableEq

namespace CheckItem

/-- The shape of an entry's record. -/
def schema : Schema where
  fields := [.required "id", .required "title", .required "description", .required "category",
    .optional "status" (.str "pending"), .optional "is_blocking" (.bool false),
    .optional "auto_verifiable" (.bool false), .optional "verify_command" .null,
    .optional "expected_pattern" .null, .optional "risk_id" .null, .optional "data_flow_id" .null,
    .optional "module_id" .null]
  choices := [⟨"category", "validation category", Vocabulary.names CheckCategory, false⟩,
    ⟨"status", "validation status", Vocabulary.names CheckStatus, false⟩]

/-- The entry that a record describes. -/
def ofRecord (record : Json) : CheckItem where
  id := (record.get "id").display
  title := (record.get "title").display
  description := (record.get "description").display
  category := (Vocabulary.ofJson? (record.get "category")).getD .manual
  status := (Vocabulary.ofJson? (record.get "status")).getD .pending
  isBlocking := record.get "is_blocking"
  autoVerifiable := (record.get "auto_verifiable").truthy
  verifyCommand := (record.get "verify_command").text?
  expectedPattern := (record.get "expected_pattern").text?
  riskId := record.get "risk_id"
  flowId := record.get "data_flow_id"
  moduleId := record.get "module_id"

/-- The entry as a record. -/
def toJson (item : CheckItem) : Json := .obj
  [("id", .str item.id), ("title", .str item.title), ("description", .str item.description),
    ("category", Vocabulary.toJson item.category), ("status", Vocabulary.toJson item.status),
    ("is_blocking", item.isBlocking), ("auto_verifiable", .bool item.autoVerifiable),
    ("verify_command", Json.ofOption Json.str item.verifyCommand),
    ("expected_pattern", Json.ofOption Json.str item.expectedPattern),
    ("risk_id", item.riskId), ("data_flow_id", item.flowId), ("module_id", item.moduleId)]

/-- Whether the entry blocks the change. -/
def blocks (item : CheckItem) : Bool := item.isBlocking.truthy

/-- The counts over some entries, as a record. -/
def statistics (items : List CheckItem) : Json := .obj
  [("total", .int items.length), ("by_category", Risk.tally (items.map CheckItem.category)),
    ("blocking", .int (items.countP CheckItem.blocks)),
    ("auto_verifiable", .int (items.countP CheckItem.autoVerifiable)),
    ("pending", .int (items.countP fun item => item.status = .pending)),
    ("passed", .int (items.countP fun item => item.status = .passed)),
    ("failed", .int (items.countP fun item => item.status = .failed))]

end CheckItem

end ChangeImpact

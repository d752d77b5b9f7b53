import ChangeImpact.Record
import ChangeImpact.Vocabulary

/-!
# Risks

A risk is what a rule found in a change: how bad it is and of what kind, which areas it
affects, what can be done about it and whether it has to be dealt with before anything
else.
-/

namespace ChangeImpact

/-- A risk that a rule found. -/
structure Risk where
  id : Name
  ruleId : Name
  name : Name
  category : RiskCategory
  severity : Severity
  description : Name
  affectedAreas : List Name
  mitigation : Name
  isBlocking : Flag
  mitigationApplied : Flag
deriving DecidableEq

/-- The place of a severity in a list that begins with the worst. -/
def Severity.rank : Severity → Nat
  | .critical => 0
  | .high => 1
  | .medium => 2
  | .low => 3

namespace Risk

/-- The shape of a risk record. -/
def schema : Schema where
  fields := [.required "id", .required "rule_id", .required "name", .required "category",
    .required "severity", .required "description", .optional "affected_areas" (.arr []),
    .optional "mitigation" (.str ""), .optional "is_blocking" (.bool false),
    .optional "mitigation_applied" (.bool false)]
  choices := [⟨"category", "risk category", Vocabulary.names RiskCategory, false⟩,
    ⟨"severity", "risk severity", Vocabulary.names Severity, false⟩]

/-- The risk that a record describes. -/
def ofRecord (record : Json) : Risk where
  id := record.get "id"
  ruleId := record.get "rule_id"
  name := record.get "name"
  category := (Vocabulary.ofJson? (record.get "category")).getD .deployment
  severity := (Vocabulary.ofJson? (record.get "severity")).getD .low
  description := record.get "description"
  affectedAreas := record.itemsAt "affected_areas"
  mitigation := record.get "mitigation"
  isBlocking := record.get "is_blocking"
  mitigationApplied := record.get "mitigation_applied"

/-- The risk as a record. -/
def toJson (risk : Risk) : Json := .obj
  [("id", risk.id), ("rule_id", risk.ruleId), ("name", risk.name),
    ("category", Vocabulary.toJson risk.category), ("severity", Vocabulary.toJson risk.severity),
    ("description", risk.description), ("affected_areas", .arr risk.affectedAreas),
    ("mitigation", risk.mitigation), ("is_blocking", risk.isBlocking),
    ("mitigation_applied", risk.mitigationApplied)]

/-- Whether the risk has to be dealt with before anything else. -/
def blocks (risk : Risk) : Bool := risk.isBlocking.truthy

/-- The risks from worst to mildest; those of one severity keep their order. -/
def sortBySeverity (risks : List Risk) : List Risk :=
  risks.mergeSort fun a b => a.severity.rank ≤ b.severity.rank

/-- How often each member of an enumeration occurs in a list, as a record. -/
def tally {α : Type} [Vocabulary α] [DecidableEq α] (values : List α) : Json :=
  .obj ((Vocabulary.all (α := α)).map fun a => (Vocabulary.name a, .int (values.count a)))

/-- The counts over some risks, as a record. -/
def statistics (risks : List Risk) : Json := .obj
  [("total", .int risks.length), ("by_severity", tally (risks.map Risk.severity)),
    ("by_category", tally (risks.map Risk.category)),
    ("blocking", .int (risks.countP Risk.blocks))]

end Risk

end ChangeImpact

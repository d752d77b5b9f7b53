import ChangeImpact.Change.Basic
import ChangeImpact.Flow.Impact
import ChangeImpact.PathName
import ChangeImpact.Risk.Basic

/-!
# Risk rules

A rule looks at a change, what its text says, its scope and the flows that it affects, and
if its condition holds there is a risk.  Conditions may fault; so may a rule whose category
or severity does not exist, but only when it finds something.

What a text says and a scope come from records, which may hold lists of anything, or no lists
at all.  A condition that cannot read a part of a record faults when it comes to that part.
-/

namespace ChangeImpact

/-- What rules look at: a change, what its text says, its scope and the flows that it affects.
The records are those that hold what the text says and the scope. -/
structure RiskContext where
  change : Change
  parsed : Parsed
  scope : Scope
  flows : List ImpactFlow
  parsedRecord : Json := parsed.toJson
  scopeRecord : Json := scope.toJson

namespace RiskContext

/-- The type of the change: the one that it gives, or else what its text says. -/
def changeType (ctx : RiskContext) : ChangeType := ctx.change.changeType.getD ctx.parsed.changeType

/-- Whether the change asks for an operation of one of some types. -/
def hasOperation (ctx : RiskContext) (types : List OperationType) : Bool :=
  ctx.parsed.operations.any fun op => types.contains op.type

/-- Whether one of some words is a keyword of the change. -/
def hasKeyword (ctx : RiskContext) (words : List String) : Bool :=
  ctx.parsed.keywords.any fun keyword => words.any fun word => keyword = .str word

/-- The context of a change, what its text says, its scope and the flows that it affects, by
their records. -/
def ofRecords (change parsed scope : Json) (flows : List Json) : RiskContext where
  change := .ofRecord change
  parsed := .ofRecord parsed
  scope := .ofRecord scope
  flows := flows.map .ofRecord
  parsedRecord := parsed
  scopeRecord := scope

/-- Whether one of some values is a keyword of the change, read from its record.  Values that
are told apart by key have to be compared with keywords that may be keys. -/
def readKeyword (ctx : RiskContext) (byKey : Bool) (words : Json) : Checked Bool := do
  (← ctx.parsedRecord.needItems "keywords").anyM fun keyword => do
    if byKey then Json.needKeys [keyword]
    words.holds keyword

/-- The areas that the change affects: its modules, the modules that depend on them
directly, its files and its entities. -/
def affectedAreas (ctx : RiskContext) : List String :=
  let modules := ctx.scope.primaryModules.map fun id => s!"module:{id.display}"
  let dependents := (ctx.scope.dependentModules.filter fun m => m.level.is .direct).map fun m =>
    s!"depends:{m.moduleName.display}"
  let files := ctx.scope.primaryFiles.map fun file =>
    String.ofList (PathName.fileName file.display.toList)
  let entities := ctx.parsed.entities.map fun entity => s!"entity:{entity.display}"
  (modules ++ dependents ++ files ++ entities).eraseDups

/-- Faults on records whose areas cannot be told: modules, files and entities have to be lists,
and files paths. -/
def checkAreas (ctx : RiskContext) : Checked Unit := do
  let _ ← ctx.scopeRecord.needItems "primary_modules"
  Json.needTexts (← ctx.scopeRecord.needItems "primary_files") .wrongType
  let _ ← ctx.parsedRecord.needItems "entities"

end RiskContext

/-- A rule that finds risks. -/
structure RiskRule where
  id : Name
  name : Name
  category : Tag RiskCategory
  severity : Tag Severity
  mitigation : Name
  isBlocking : Flag
  condition : RiskContext → Checked Bool

namespace RiskRule

/-- What a severity asks for. -/
def urgency : Severity → String
  | .critical => "This requires immediate attention and approval before proceeding."
  | .high => "This should be addressed before implementation."
  | .medium => "Consider addressing this during implementation."
  | .low => "This is informational and can be addressed if time permits."

/-- The description of a risk: at most three areas are listed, the others counted. -/
def describe (name : Name) (areas : List String) (severity : Severity) : String :=
  let more := if 3 < areas.length then s!" and {areas.length - 3} more" else ""
  s!"{name.display} detected. Affected areas: {Fault.listed (areas.take 3)}{more}. {urgency severity}"

/-- The risk that a rule of a category and severity finds. -/
def riskOf (rule : RiskRule) (category : RiskCategory) (severity : Severity) (ctx : RiskContext) :
    Risk :=
  let areas := ctx.affectedAreas
  { id := .str s!"risk-{rule.id.display}"
    ruleId := rule.id
    name := rule.name
    category := category
    severity := severity
    description := .str (describe rule.name areas severity)
    affectedAreas := areas.map Json.str
    mitigation := rule.mitigation
    isBlocking := rule.isBlocking
    mitigationApplied := false }

/-- The risk that a rule finds, if its condition holds. -/
def find (ctx : RiskContext) (rule : RiskRule) : Checked (Option Risk) := do
  if !(← rule.condition ctx) then return none
  ctx.checkAreas
  match rule.severity, rule.category with
  | .other value, _ => throw (if value.isKey then .missingKey else .wrongType)
  | .known _, .other value =>
    throw (.invalidChoice "risk category" value (Vocabulary.names RiskCategory))
  | .known severity, .known category => return some (rule.riskOf category severity ctx)

/-- The risks that some rules find, from worst to mildest and in the order of the rules
within one severity. -/
def assess (rules : List RiskRule) (ctx : RiskContext) : Checked (List Risk) := do
  return Risk.sortBySeverity ((← rules.mapM (find ctx)).filterMap fun found => found)

end RiskRule

end ChangeImpact

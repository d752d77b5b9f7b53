import ChangeImpact.Risk.Rule
import ChangeImpact.Text.Case
import ChangeImpact.Text.Search

/-!
# The built-in rules

Eight rules come with the library.  `BuiltInRule.applies` is the condition of each, a
plain predicate; `BuiltInRule.risks` are the risks that they find together.  `appliesIn` reads
the same condition from records, part by part in the order in which the parts decide it, and
faults at the first one that cannot be read.  Wherever it reads what `applies` says,
`RiskRule.assess` gives those risks (`assess_rules`).
-/

namespace ChangeImpact

/-- The rules that come with the library. -/
inductive BuiltInRule where
  | schemaChange | breakingApiChange | securitySensitive | crossModule | flowDisruption
  | performance | testCoverageGap | deletionWithDependents
deriving DecidableEq

namespace BuiltInRule

/-- The rules, in order. -/
def all : List BuiltInRule :=
  [.schemaChange, .breakingApiChange, .securitySensitive, .crossModule, .flowDisruption,
    .performance, .testCoverageGap, .deletionWithDependents]

/-- What shows that a path belongs to an API. -/
def apiMarkers : List String := ["/api/", "/routes/", "/endpoints/", ".controller.", ".route."]

/-- Whether a path belongs to an API. -/
def touchesApi (path : String) : Bool := apiMarkers.any fun marker => Text.contains marker path

/-- Words of security. -/
def securityWords : List String :=
  ["auth", "authentication", "authorization", "login", "logout",
    "password", "token", "session", "permission", "role", "access",
    "security", "credential", "oauth", "jwt", "secret", "encrypt"]

/-- Words of database schemas that name a target. -/
def schemaTargets : List String := ["schema", "database", "migration"]

/-- Words of database schemas. -/
def schemaWords : List String := ["schema", "migration", "database", "table", "column", "index"]

/-- Words of APIs. -/
def apiWords : List String := ["api", "endpoint", "route", "controller", "request", "response"]

/-- Words of performance. -/
def performanceWords : List String :=
  ["query", "database", "cache", "index", "bulk", "batch", "loop", "iteration", "recursive", "sync",
    "async"]

/-- Words of data that name a target. -/
def dataTargets : List String := ["database", "query"]

/-- Words of testing. -/
def testWords : List String := ["test", "spec", "coverage", "unit", "integration", "e2e"]

/-- Whether one of some words occurs in the lower-cased text. -/
def mentionsAny (words : List String) (text : String) : Bool :=
  let lowered := Text.lowerChars text.toList
  words.any fun word => Text.containsChars word.toList lowered

/-- Whether a value that stands for a path belongs to an API: a text by its pieces, a list by
its items and an object by its fields. -/
def touchesApiIn (path : Json) : Checked Bool := apiMarkers.anyM fun marker => path.holds (.str marker)

/-- Whether one of some words occurs in a value, which has to be a text. -/
def mentionsAnyIn (words : List String) (value : Json) : Checked Bool := do
  return mentionsAny words (← value.needText)

/-- Whether a text is about security. -/
def mentionsSecurity (text : Name) : Bool := mentionsAny securityWords text.display

/-- Whether a scope has more than ten affected files. -/
def manyFiles (ctx : RiskContext) : Bool := 10 < ctx.scope.affectedFiles.length

/-- Words as a list of values. -/
def wordList (words : List String) : Json := .arr (words.map Json.str)

/-- When a rule finds something. -/
def applies (ctx : RiskContext) : BuiltInRule → Bool
  | .schemaChange =>
    ((ctx.flows.any fun flow => flow.strength.is .critical && flow.validationRequired) &&
        ctx.hasOperation [.modify]) ||
      (ctx.parsed.operations.any fun op =>
        op.type = .migrate || mentionsAny schemaTargets op.target) ||
      (ctx.changeType = .migration && ctx.hasKeyword schemaWords)
  | .breakingApiChange =>
    (ctx.changeType = .refactor || ctx.hasOperation [.modify, .delete, .refactor]) &&
      ((ctx.scope.primaryFiles.any fun file => touchesApi file.display) ||
        ctx.hasKeyword apiWords)
  | .securitySensitive =>
    ctx.parsed.entities.any mentionsSecurity || ctx.hasKeyword securityWords ||
      ctx.scope.primaryFiles.any mentionsSecurity || ctx.scope.primaryModules.any mentionsSecurity
  | .crossModule => 2 < ctx.scope.primaryModules.length + ctx.scope.dependentModules.length
  | .flowDisruption =>
    ctx.flows.any fun flow => flow.strength.is .critical && flow.level.is .direct
  | .performance =>
    (ctx.hasKeyword performanceWords &&
        ctx.parsed.operations.any fun op => mentionsAny dataTargets op.target) || manyFiles ctx
  | .testCoverageGap =>
    (ctx.changeType = .feature || ctx.hasOperation [.add]) && !ctx.hasKeyword testWords
  | .deletionWithDependents =>
    (ctx.changeType = .deletion || ctx.hasOperation [.delete]) &&
      (!ctx.scope.dependentModules.isEmpty || !ctx.scope.affectedFiles.isEmpty)

/-- Whether the target of an operation of a record names one of some things. -/
def targetMentions (words : List String) (operation : Json) : Checked Bool :=
  mentionsAnyIn words (operation.get "target")

/-- Whether a rule finds something, read from the records of what a text says and of a scope. -/
def appliesIn (ctx : RiskContext) : BuiltInRule → Checked Bool
  | .schemaChange => do
    let critical := ctx.flows.any fun flow => flow.strength.is .critical && flow.validationRequired
    let onSchema ← (ctx.parsedRecord.itemsAt "operations").anyM fun op =>
      if (Operation.ofRecord op).type = .migrate then return true
      else targetMentions schemaTargets op
    if (critical && ctx.hasOperation [.modify]) || onSchema then return true
    if ctx.changeType = .migration then ctx.readKeyword true (wordList schemaWords) else return false
  | .breakingApiChange => do
    let onApi ← (← ctx.scopeRecord.needItems "primary_files").anyM touchesApiIn
    if ctx.changeType = .refactor || ctx.hasOperation [.modify, .delete, .refactor] then
      -- the keywords are only looked at when no file decides it
      if onApi then return true else ctx.readKeyword true (wordList apiWords)
    else return false
  | .securitySensitive => do
    if ← (← ctx.parsedRecord.needItems "entities").anyM (mentionsAnyIn securityWords) then return true
    if ← ctx.readKeyword false (wordList securityWords) then return true
    if ← (← ctx.scopeRecord.needItems "primary_files").anyM (mentionsAnyIn securityWords) then
      return true
    (← ctx.scopeRecord.needItems "primary_modules").anyM (mentionsAnyIn securityWords)
  | .crossModule => do
    let _ ← ctx.scopeRecord.needItems "primary_modules"
    return applies ctx .crossModule
  | .flowDisruption => return applies ctx .flowDisruption
  | .performance => do
    let onData ← (ctx.parsedRecord.itemsAt "operations").anyM (targetMentions dataTargets)
    if (← ctx.readKeyword true (wordList performanceWords)) && onData then return true
    return manyFiles ctx
  | .testCoverageGap => do
    if ctx.changeType = .feature || ctx.hasOperation [.add] then
      return !(← ctx.readKeyword true (wordList testWords))
    else return false
  | .deletionWithDependents => return applies ctx .deletionWithDependents

/-- The id of a rule. -/
def id : BuiltInRule → String
  | .schemaChange => "R001"
  | .breakingApiChange => "R002"
  | .securitySensitive => "R003"
  | .crossModule => "R004"
  | .flowDisruption => "R005"
  | .performance => "R006"
  | .testCoverageGap => "R007"
  | .deletionWithDependents => "R008"

/-- The name of a rule. -/
def name : BuiltInRule → String
  | .schemaChange => "Database Schema Change"
  | .breakingApiChange => "Breaking API Change"
  | .securitySensitive => "Security-Sensitive Change"
  | .crossModule => "Cross-Module Impact"
  | .flowDisruption => "Data Flow Disruption"
  | .performance => "Potential Performance Impact"
  | .testCoverageGap => "Test Coverage Gap"
  | .deletionWithDependents => "Deletion with Dependencies"

/-- The kind of damage that a rule is about. -/
def category : BuiltInRule → RiskCategory
  | .schemaChange | .flowDisruption => .dataCorruption
  | .breakingApiChange | .deletionWithDependents => .breakingChange
  | .securitySensitive => .security
  | .crossModule => .compatibility
  | .performance => .performance
  | .testCoverageGap => .testing

/-- How bad what a rule finds is. -/
def severity : BuiltInRule → Severity
  | .schemaChange | .securitySensitive => .critical
  | .breakingApiChange | .flowDisruption | .deletionWithDependents => .high
  | .crossModule | .performance | .testCoverageGap => .medium

/-- What to do about what a rule finds. -/
def mitigation : BuiltInRule → String
  | .schemaChange => "Create migration scripts with rollback capability. Test on staging data first."
  | .breakingApiChange =>
    "Add API versioning or maintain backward compatibility. Document breaking changes."
  | .securitySensitive =>
    "Security review required. Test authentication flows. Verify no credential exposure."
  | .crossModule =>
    "Coordinate with other module owners. Run integration tests across affected modules."
  | .flowDisruption => "Verify data integrity after change. Add data validation checks."
  | .performance => "Run performance benchmarks. Consider caching strategies."
  | .testCoverageGap =>
    "Add unit tests for new functionality. Update existing tests if behavior changes."
  | .deletionWithDependents =>
    "Update or remove all dependent code before deletion. Check for runtime references."

/-- Whether what a rule finds has to be dealt with first. -/
def isBlocking : BuiltInRule → Bool
  | .schemaChange | .securitySensitive | .deletionWithDependents => true
  | _ => false

/-- A built-in rule as a rule. -/
def rule (r : BuiltInRule) : RiskRule where
  id := .str r.id
  name := .str r.name
  category := .known r.category
  severity := .known r.severity
  mitigation := .str r.mitigation
  isBlocking := .bool r.isBlocking
  condition ctx := r.appliesIn ctx

/-- The built-in rules as rules. -/
def rules : List RiskRule := all.map rule

/-- The risk that a built-in rule finds. -/
def risk (ctx : RiskContext) (r : BuiltInRule) : Risk := r.rule.riskOf r.category r.severity ctx

/-- The risks that the built-in rules find, from worst to mildest. -/
def risks (ctx : RiskContext) : List Risk :=
  Risk.sortBySeverity ((all.filter (applies ctx)).map (risk ctx))

/-! ## Assessing by the built-in rules -/

theorem find_rule {ctx : RiskContext} {r : BuiltInRule} (read : r.appliesIn ctx = .ok (r.applies ctx))
    (areas : ctx.checkAreas = .ok ()) :
    r.rule.find ctx = .ok (if r.applies ctx then some (r.risk ctx) else none) := by
  cases happ : applies ctx r <;>
    simp [RiskRule.find, rule, risk, read, happ, areas, bind, Except.bind, pure, Except.pure]

/-- Assessing by the built-in rules gives the risks that they find, wherever the records say what
the rules look at. -/
theorem assess_rules {ctx : RiskContext}
    (read : ∀ r : BuiltInRule, r.appliesIn ctx = .ok (r.applies ctx))
    (areas : ctx.checkAreas = .ok ()) :
    RiskRule.assess rules ctx = .ok (risks ctx) := by
  have hmap : ∀ rs : List BuiltInRule, (rs.map rule).mapM (RiskRule.find ctx) =
      Except.ok (rs.map fun r => if r.applies ctx then some (r.risk ctx) else none) := by
    intro rs
    induction rs with
    | nil => rfl
    | cons r rs ih =>
      simp only [List.map_cons, List.mapM_cons, find_rule (read r) areas, ih]
      rfl
  have hfilter : ∀ rs : List BuiltInRule,
      (rs.map fun r => if r.applies ctx then some (r.risk ctx) else none).filterMap (fun found => found) =
        (rs.filter (applies ctx)).map (risk ctx) := by
    intro rs
    induction rs with
    | nil => rfl
    | cons r rs ih => cases h : applies ctx r <;> simp [h, ih]
  simp only [RiskRule.assess, rules, hmap, risks, bind, Except.bind, pure, Except.pure]
  rw [hfilter]

end BuiltInRule

end ChangeImpact

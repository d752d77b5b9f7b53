import ChangeImpact.Checklist.Basic
import ChangeImpact.Flow.Impact
import ChangeImpact.ModuleName
import ChangeImpact.Risk.BuiltIn

/-!
# The sections of a checklist

Entries come from four sides: the risks of a change, the tests of its modules and of those
that depend on them directly, the data flows to be validated, and the API files in its
scope.  `CheckSettings` says which of them take part and how tests are run.

`riskItems`, `moduleItems`, `flowItems` and `apiItems` are the operations `risk_validations`,
`module_test_validations`, `data_flow_validations` and `api_validations`.
-/

namespace ChangeImpact

/-- Which sections a checklist has, and how tests are run. -/
structure CheckSettings where
  moduleTests : Bool
  flowChecks : Bool
  apiChecks : Bool
  testCommand : String
  pathPrefix : String
deriving DecidableEq

namespace CheckSettings

/-- All sections. -/
def standard : CheckSettings := ⟨true, true, true, "pytest", "tests/"⟩

/-- The shape of a record of settings. -/
def schema : Schema where
  fields := [.optional "include_module_tests" (.bool true),
    .optional "include_data_flow_validations" (.bool true),
    .optional "include_api_validations" (.bool true), .optional "test_command" (.str "pytest"),
    .optional "module_path_prefix" (.str "tests/")]
  choices := []

/-- The settings that a record describes. -/
def ofRecord (record : Json) : CheckSettings where
  moduleTests := (record.get "include_module_tests").truthy
  flowChecks := (record.get "include_data_flow_validations").truthy
  apiChecks := (record.get "include_api_validations").truthy
  testCommand := (record.get "test_command").display
  pathPrefix := (record.get "module_path_prefix").display

/-- The command that runs the tests of a module. -/
def commandFor (settings : CheckSettings) (moduleId : Name) : String :=
  s!"{settings.testCommand} {settings.pathPrefix}{ModuleName.ofEntity moduleId.display}"

end CheckSettings

namespace Checklist

/-- What the output of tests that pass looks like. -/
def passPattern : String := "(passed|PASSED|0 failed)"

/-- An entry without anything optional. -/
def plainItem (title description : String) (category : CheckCategory) (isBlocking : Flag) :
    CheckItem where
  id := ""
  title := title
  description := description
  category := category
  status := .pending
  isBlocking := isBlocking
  autoVerifiable := false
  verifyCommand := none
  expectedPattern := none
  riskId := .null
  flowId := .null
  moduleId := .null

/-! ## Risks -/

/-- How a risk is checked: title, description, category, and whether that blocks. -/
def riskCheck (risk : Risk) : CheckItem :=
  let name := risk.name.display
  let description := risk.description.display
  match risk.category with
  | .dataCorruption =>
    plainItem s!"Verify data integrity after {name}"
      s!"{description}\n\nMitigation: {risk.mitigation.display}" .manual risk.isBlocking
  | .breakingChange =>
    plainItem s!"Check backward compatibility for {name}"
      s!"Verify that existing functionality is not broken.\n\n{description}" .test risk.isBlocking
  | .security =>
    plainItem s!"Security review: {name}"
      s!"{description}\n\nRequired checks:\n- No credential exposure\n- No injection vulnerabilities\n- Proper authentication/authorization"
      .review true
  | .performance =>
    plainItem s!"Performance check: {name}"
      s!"{description}\n\nVerify no significant performance degradation." .test false
  | .testing =>
    plainItem "Add tests for new functionality"
      s!"{description}\n\nEnsure adequate test coverage for changes." .test risk.isBlocking
  | .compatibility =>
    plainItem s!"Integration test for {name}"
      s!"{description}\n\nVerify integration across affected modules." .test risk.isBlocking
  | .deployment => plainItem s!"Review: {name}" description .manual risk.isBlocking

/-- The entry for a risk; integration is verified by a command. -/
def riskItem (settings : CheckSettings) (risk : Risk) : CheckItem :=
  let item := { riskCheck risk with riskId := risk.id }
  if risk.category = .compatibility then
    { item with
      autoVerifiable := true
      verifyCommand := some s!"{settings.testCommand} -m integration" }
  else item

/-- The entries for some risks. -/
def riskItems (settings : CheckSettings) (risks : List Risk) : List CheckItem :=
  risks.map (riskItem settings)

/-! ## Modules -/

/-- The entry for a module of the change. -/
def moduleItem (settings : CheckSettings) (id : Name) : CheckItem :=
  { plainItem s!"Run {id.display} module tests"
      s!"Execute all tests for the {id.display} module to ensure no regressions." .test true with
    autoVerifiable := true
    verifyCommand := some (settings.commandFor id)
    expectedPattern := some passPattern
    moduleId := id }

/-- The entry for a dependent module. -/
def dependentItem (settings : CheckSettings) (m : ScopedModule) : CheckItem :=
  let name := m.moduleName.display
  { plainItem s!"Run {name} dependent tests"
      s!"Test dependent module {name}. Reason: {m.reason}" .test false with
    autoVerifiable := true
    verifyCommand := some (settings.commandFor m.moduleId)
    expectedPattern := some passPattern
    moduleId := m.moduleId }

/-- The dependent modules with ids that have not been met, each id once. -/
def untested (met : List Name) : List ScopedModule → List ScopedModule
  | [] => []
  | m :: rest =>
    if met.contains m.moduleId then untested met rest else m :: untested (m.moduleId :: met) rest

/-- The direct dependents of a scope that are no modules of the change. -/
def directDependents (scope : Scope) : List ScopedModule :=
  untested scope.primaryModules (scope.dependentModules.filter fun m => m.level.is .direct)

/-- The entries for the tests of modules. -/
def moduleItems (settings : CheckSettings) (scope : Scope) : List CheckItem :=
  scope.primaryModules.eraseDups.map (moduleItem settings) ++
    (directDependents scope).map (dependentItem settings)

/-- Faults on the record of a scope with a module that cannot be compared or has no name. -/
def checkModules (scope : Json) : Checked Unit := do
  let modules ← scope.needItems "primary_modules"
  let dependents := (Scope.ofRecord scope).dependentModules.filter fun m => m.level.is .direct
  (modules ++ dependents.map ScopedModule.moduleId).forM fun id => do
    Json.needKeys [id]
    Json.needTexts [id] .noSuchPart

/-! ## Flows -/

/-- A text, or another one if it is empty. -/
def orElse (text other : String) : String := if text = "" then other else text

/-- Names joined by a separator. -/
def joined (separator : String) (names : List Name) : String :=
  separator.intercalate (names.map Json.display)

/-- The entry for a flow. -/
def flowItem (flow : ImpactFlow) : CheckItem :=
  let source := flow.source.display
  let target := flow.target.display
  let entities := orElse (joined " -> " flow.entities) "module"
  let relationships := joined ", " flow.relationships
  let tests := orElse (joined ", " flow.suggestedTests) "None specified"
  { plainItem s!"Verify {entities} data flow from {source} to {target}"
      s!"Manually verify that data flows correctly from {source} to {target}.\n\nRelationships: {relationships}\nSuggested tests: {tests}"
      .dataFlow (flow.strength.is .critical) with
    flowId := flow.id }

/-- The entries for the flows that have to be validated. -/
def flowItems (flows : List ImpactFlow) : List CheckItem :=
  (flows.filter ImpactFlow.validationRequired).map flowItem

/-- Faults on records of flows to be validated whose parts are no lists of texts. -/
def checkFlows (flows : List Json) : Checked Unit :=
  (flows.filter fun flow => (ImpactFlow.ofRecord flow).validationRequired).forM fun flow =>
    ["entities", "relationships", "suggested_tests"].forM fun part => do
      Json.needTexts (← flow.needItems part) .wrongType

/-! ## API files -/

/-- The files of a scope: those of the change, and those that are affected directly. -/
def closeFiles (scope : Scope) : List Name :=
  (scope.primaryFiles ++
    (scope.affectedFiles.filter fun f => f.level.is .direct).map ScopedFile.filePath).eraseDups

/-- The entries for the API files of a scope; none without such files. -/
def apiItems (settings : CheckSettings) (scope : Scope) : List CheckItem :=
  match (closeFiles scope).filter fun file => BuiltInRule.touchesApi file.display with
  | [] => []
  | files =>
    let listing := "\n".intercalate (files.map fun file => s!"- {file.display}")
    [plainItem "Test affected API endpoints"
        s!"Verify that all affected API endpoints work correctly.\n\nAffected files:\n{listing}"
        .api true,
      { plainItem "Run API integration tests"
          "Execute API integration tests to verify endpoint functionality." .api true with
        autoVerifiable := true
        verifyCommand := some s!"{settings.testCommand} -m api"
        expectedPattern := some passPattern }]

/-- Faults on the record of a scope with a file that is no path. -/
def checkApi (scope : Json) : Checked Unit := do
  let _ ← scope.needItems "primary_files"
  Json.needTexts (closeFiles (.ofRecord scope)) .wrongType

end Checklist

end ChangeImpact

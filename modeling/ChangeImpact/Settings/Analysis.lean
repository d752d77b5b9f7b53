import ChangeImpact.Checklist.Sections
import ChangeImpact.Scope.Expansion
import ChangeImpact.Settings.Section

/-!
# Settings of the analyses

How far a change reaches and which sections its checklist has are settings; whoever asks
for an analysis may give some of them, which then go on top of what is stored.
-/

namespace ChangeImpact.Settings

/-- The reach by the settings and what is given on top. -/
def reach (settings : StoredSettings) (given : List (String × Json)) : Checked Reach := do
  let fields ← withGiven settings "scope" given
  return {
    maxDepth := ← toInt (get fields "max_depth")
    includeIndirect := isGiven (get fields "include_indirect")
    expandImports := isGiven (get fields "expand_imports")
    expandDataFlows := isGiven (get fields "expand_data_flows") }

/-- The sections of checklists by the settings and what is given on top. -/
def checks (settings : StoredSettings) (given : List (String × Json)) : Checked CheckSettings := do
  let fields ← withGiven settings "validation" given
  return {
    moduleTests := isGiven (get fields "include_module_tests")
    flowChecks := isGiven (get fields "include_data_flow_validations")
    apiChecks := isGiven (get fields "include_api_validations")
    testCommand := (get fields "test_command").display
    pathPrefix := (get fields "module_path_prefix").display }

end ChangeImpact.Settings

import ChangeImpact.Risk.BuiltIn

/-!
# Assessors

An assessor has the rules that it starts with and those that have been added.  Added rules
must have a category and a severity that exist, and only added rules can be removed.

`add`, `remove` and `assess` are the operations `add_rule`, `remove_rule` and `assess`.
-/

namespace ChangeImpact

/-- The rules that risks are assessed by. -/
structure Assessor where
  initial : List RiskRule
  added : List RiskRule

namespace Assessor

/-- The assessor that starts with the built-in rules. -/
def standard : Assessor := ⟨BuiltInRule.rules, []⟩

/-- All rules, added ones last. -/
def rules (assessor : Assessor) : List RiskRule := assessor.initial ++ assessor.added

/-- Adds a rule; faults if its category or severity does not exist. -/
def add (assessor : Assessor) (rule : RiskRule) : Checked Assessor :=
  match rule.category, rule.severity with
  | .other value, _ => .error (.invalidMember "risk category" value)
  | .known _, .other value => .error (.invalidMember "risk severity" value)
  | .known _, .known _ => .ok { assessor with added := assessor.added ++ [rule] }

/-- Removes the first added rule with an id. -/
def remove (assessor : Assessor) (id : Name) : Assessor :=
  { assessor with added := assessor.added.eraseP fun rule => rule.id.equals id }

/-- Whether an added rule has an id. -/
def canRemove (assessor : Assessor) (id : Name) : Bool :=
  assessor.added.any fun rule => rule.id.equals id

/-- The risks that the rules find. -/
def assess (assessor : Assessor) (ctx : RiskContext) : Checked (List Risk) :=
  RiskRule.assess assessor.rules ctx

end Assessor

end ChangeImpact

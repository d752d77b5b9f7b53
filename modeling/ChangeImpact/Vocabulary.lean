import ChangeImpact.Json.Basic

/-!
# The words of change analysis

Each small set of words that documents choose from is an enumeration with one spelling
per member.  `Tag` is for the places where documents are not checked against their set:
it is a member or whatever else was written there.
-/

namespace ChangeImpact

/-- An enumeration whose members have names. -/
class Vocabulary (α : Type) where
  /-- The members, in the order in which they are listed. -/
  all : List α
  /-- How a member is written. -/
  name : α → String

namespace Vocabulary

/-- The names of the members, in order. -/
def names (α : Type) [Vocabulary α] : List String := (all (α := α)).map name

/-- The member that a value names. -/
def ofJson? {α : Type} [Vocabulary α] (value : Json) : Option α :=
  all.find? fun a => value = .str (name a)

/-- A member as a document writes it. -/
def toJson {α : Type} [Vocabulary α] (a : α) : Json := .str (name a)

end Vocabulary

/-- A member of an enumeration, or the value found in place of one. -/
inductive Tag (α : Type) where
  | known (a : α)
  | other (value : Json)
deriving DecidableEq

namespace Tag

/-- The member that a value names, or else the value itself. -/
def ofJson {α : Type} [Vocabulary α] (value : Json) : Tag α :=
  match Vocabulary.ofJson? value with
  | some a => known a
  | none => other value

/-- The value as the document has it. -/
def toJson {α : Type} [Vocabulary α] : Tag α → Json
  | known a => Vocabulary.toJson a
  | other value => value

/-- The member, if it is one. -/
def member? {α : Type} : Tag α → Option α
  | known a => some a
  | other _ => none

/-- Whether it is the given member. -/
def is {α : Type} [DecidableEq α] (tag : Tag α) (a : α) : Bool := tag = known a

end Tag

/-- What a change is about. -/
inductive ChangeType where
  | feature | bugfix | refactor | migration | deletion
deriving DecidableEq, Inhabited

instance : Vocabulary ChangeType where
  all := [.feature, .bugfix, .refactor, .migration, .deletion]
  name
    | .feature => "feature"
    | .bugfix => "bugfix"
    | .refactor => "refactor"
    | .migration => "migration"
    | .deletion => "deletion"

/-- What is done to the target of an operation. -/
inductive OperationType where
  | add | modify | delete | refactor | migrate
deriving DecidableEq, Inhabited

instance : Vocabulary OperationType where
  all := [.add, .modify, .delete, .refactor, .migrate]
  name
    | .add => "add"
    | .modify => "modify"
    | .delete => "delete"
    | .refactor => "refactor"
    | .migrate => "migrate"

/-- How closely something is affected, from closest to most remote. -/
inductive ImpactLevel where
  | direct | indirect | cascade
deriving DecidableEq, Inhabited

instance : Vocabulary ImpactLevel where
  all := [.direct, .indirect, .cascade]
  name
    | .direct => "direct"
    | .indirect => "indirect"
    | .cascade => "cascade"

/-- Which way data moves in a flow. -/
inductive FlowType where
  | read | write | bidirectional
deriving DecidableEq, Inhabited

instance : Vocabulary FlowType where
  all := [.read, .write, .bidirectional]
  name
    | .read => "read"
    | .write => "write"
    | .bidirectional => "bidirectional"

/-- How much depends on a flow, from least to most. -/
inductive Strength where
  | optional | important | critical
deriving DecidableEq, Inhabited

instance : Vocabulary Strength where
  all := [.optional, .important, .critical]
  name
    | .optional => "optional"
    | .important => "important"
    | .critical => "critical"

/-- How bad a risk is, from worst to mildest. -/
inductive Severity where
  | critical | high | medium | low
deriving DecidableEq, Inhabited

instance : Vocabulary Severity where
  all := [.critical, .high, .medium, .low]
  name
    | .critical => "critical"
    | .high => "high"
    | .medium => "medium"
    | .low => "low"

/-- What kind of damage a risk threatens. -/
inductive RiskCategory where
  | dataCorruption | breakingChange | performance | security | compatibility | testing
  | deployment
deriving DecidableEq, Inhabited

instance : Vocabulary RiskCategory where
  all := [.dataCorruption, .breakingChange, .performance, .security, .compatibility, .testing,
    .deployment]
  name
    | .dataCorruption => "data_corruption"
    | .breakingChange => "breaking_change"
    | .performance => "performance"
    | .security => "security"
    | .compatibility => "compatibility"
    | .testing => "testing"
    | .deployment => "deployment"

/-- How an entry of a checklist is cleared. -/
inductive CheckCategory where
  | test | dataFlow | api | migration | manual | review
deriving DecidableEq, Inhabited

instance : Vocabulary CheckCategory where
  all := [.test, .dataFlow, .api, .migration, .manual, .review]
  name
    | .test => "test"
    | .dataFlow => "data_flow"
    | .api => "api"
    | .migration => "migration"
    | .manual => "manual"
    | .review => "review"

/-- How far an entry of a checklist has come. -/
inductive CheckStatus where
  | pending | running | passed | failed | skipped
deriving DecidableEq, Inhabited

instance : Vocabulary CheckStatus where
  all := [.pending, .running, .passed, .failed, .skipped]
  name
    | .pending => "pending"
    | .running => "running"
    | .passed => "passed"
    | .failed => "failed"
    | .skipped => "skipped"

/-- On which side of a reference an entity is looked for. -/
inductive Direction where
  | forward | reverse | both
deriving DecidableEq, Inhabited

instance : Vocabulary Direction where
  all := [.forward, .reverse, .both]
  name
    | .forward => "forward"
    | .reverse => "reverse"
    | .both => "both"

/-- The kinds of entity that references join. -/
def entityTypes : List String :=
  ["task", "session", "knowledge", "capability", "impact", "ticket", "incident", "lesson",
    "rule", "skill"]

/-- The relationships that a reference may record. -/
def relationships : List String :=
  ["converts_to", "implemented_by", "analyzed_by", "requires_context", "governed_by", "creates",
    "discovers", "describes", "codified_from", "originates_from", "generates", "enables",
    "depends_on", "feeds_into", "blocks", "related_to", "mentions"]

end ChangeImpact

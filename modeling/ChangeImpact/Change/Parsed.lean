import ChangeImpact.Change.Entity
import ChangeImpact.Change.Keyword
import ChangeImpact.Change.Operation
import ChangeImpact.PathName

/-!
# Reading a change

`Change.text` joins what a change says: its description, the names of its files and its
modules.  `Parsed.ofChange` reads entities, operations and keywords out of that text.  The
type of change is the one that is given or else the one with the highest score, where each
word that occurs and each operation adds its weight.

`ofChange`, `ofTask` and `ofSpec` are the operations `parse`, `parse_from_task` and `parse_from_spec`.
`Change.text` is `_gather_text`, `inferredType` is `_infer_change_type`, and `hundredths` is
`_confidence` as a number of hundredths.
-/

namespace ChangeImpact

open Text

namespace Change

/-- The suffixes of files that are called by their stem. -/
def sourceSuffixes : List String :=
  [".py", ".pyi", ".ts", ".tsx", ".js", ".jsx", ".json", ".md", ".toml", ".yaml", ".yml"]

/-- What a file contributes to the text: its name, without the suffix of a source file. -/
def fileText (path : String) : List Char :=
  let name := PathName.fileName (PathName.withSlashes path.toList)
  if sourceSuffixes.contains (String.ofList (PathName.suffix name)) then PathName.stem name
  else name

/-- The text of a change: its description if it is not empty, its files and its modules,
with single spaces between. -/
def text (change : Change) : List Char :=
  joinWith [' ']
    ((if change.description.truthy then [change.description.display.toList] else []) ++
      change.targetFiles.map (fun file => fileText file.display) ++
      change.targetModules.map (fun module => module.display.toList))

/-- Faults unless the parts of a change record that make up its text are texts. -/
def checkText (record : Json) : Checked Unit := do
  let description := record.get "description"
  Json.needTexts (← record.needItems "target_files") .noSuchPart
  Json.needTexts (← record.needItems "target_modules") .wrongType
  guardThat (!description.truthy || description.text?.isSome) .wrongType

end Change

namespace Parsed

/-- The words that speak for a type of change, and the weight of each. -/
def cues : List (ChangeType × List String × Binary64) :=
  [(.feature, ["feature", "add", "new", "implement", "create", "build", "develop", "introduce"],
      .ofDecimal false 10 (-1)),
    (.bugfix, ["fix", "bug", "issue", "error", "crash", "broken", "wrong", "incorrect", "patch"],
      .ofDecimal false 12 (-1)),
    (.refactor, ["refactor", "restructure", "reorganize", "optimize", "clean", "simplify", "improve",
      "enhance"], .ofDecimal false 10 (-1)),
    (.migration, ["migrate", "migration", "upgrade", "database", "schema", "convert", "transform"],
      .ofDecimal false 13 (-1)),
    (.deletion, ["delete", "remove", "drop", "deprecate", "eliminate", "clean up", "remove unused"],
      .ofDecimal false 11 (-1))]

/-- How much an operation speaks for a type of change, if at all. -/
def bonus? : OperationType → ChangeType → Option Binary64
  | .add, .feature => some (.ofDecimal false 10 (-1))
  | .modify, .feature | .modify, .bugfix => some (.ofDecimal false 5 (-1))
  | .delete, .deletion | .refactor, .refactor => some (.ofDecimal false 10 (-1))
  | .migrate, .migration => some (.ofDecimal false 15 (-1))
  | _, _ => none

/-- The score of a type of change: the weights of its words that occur, then those of the
operations, added one after the other. -/
def score (lowered : List Char) (operations : List Operation) :
    ChangeType × List String × Binary64 → Binary64
  | (type, words, weight) =>
    let occurring := words.filter fun word => containsChars word.toList lowered
    (occurring.map (fun _ => weight) ++ operations.filterMap fun op => bonus? op.type type).foldl
      Binary64.add .nought

/-- The first type with the highest score; a feature if nothing scores. -/
def inferredType (text : List Char) (operations : List Operation) : ChangeType :=
  let lowered := lowerChars text
  (cues.foldl (fun (best : ChangeType × Binary64) entry =>
    let score := score lowered operations entry
    if best.2.lt score then (entry.1, score) else best) (.feature, .nought)).1

/-- How sure the reading is, in hundredths: fifty, and more for entities, operations, a
clause among them, and many keywords. -/
def hundredths (entities : Nat) (operations : List Operation) (keywords : Nat) : Nat :=
  50 + min (10 * entities) 20 + min (10 * operations.length) 20 +
    (if operations.any fun op => op.target != Operation.inferredTarget then 5 else 0) +
    (if 5 < keywords then 5 else 0)

/-- What the text of a change says, the type given apart. -/
def ofText (text : List Char) (given : Option ChangeType) : Parsed :=
  let entities := Entity.inText text
  let operations := Operation.inText text
  let keywords := Keyword.inText text
  { entities := entities.map Json.str
    operations := operations
    keywords := keywords.map Json.str
    changeType := given.getD (inferredType text operations)
    confidence := .ofRat (hundredths entities.length operations keywords.length / 100) }

/-- What a change says. -/
def ofChange (change : Change) : Parsed := ofText change.text change.changeType

/-- What the change of a record says. -/
def ofChangeRecord (record : Json) : Checked Parsed := do
  Change.checkText record
  return ofChange (Change.ofRecord record)

/-- A change that consists of a text and modules. -/
def plainChange (description : String) (modules : List Name) : Change where
  description := .str description
  targetModules := modules
  targetFiles := []
  specId := .null
  changeType := none

/-- What a task says: its title and its description. -/
def ofTask (title description : Json) : Parsed :=
  let body := if description.truthy then description.display else ""
  ofChange (plainChange (trim s!"{title.display}. {body}") [])

/-- What a specification says: its title, its content and the module that it belongs to. -/
def ofSpec (title content module : Json) : Checked Parsed := do
  let modules := if module.truthy then [module] else []
  Json.needTexts modules .wrongType
  return ofChange (plainChange s!"{title.display}. {content.display}" modules)

end Parsed

end ChangeImpact

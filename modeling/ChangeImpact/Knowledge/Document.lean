import ChangeImpact.Knowledge.Basic
import ChangeImpact.Text.Lines

/-!
# Knowledge documents

A knowledge document is an object with the parts `modules`, `links`, `specs`, `imports`
and `flows`, all of them optional.  Entries that lack what identifies them are skipped, and
so are flows whose type or strength does not exist; how many is counted.  Of two modules,
or specifications, with one id the last counts, in the place of the first.

`ofText` and `ofJson` are the operations `load` and `from_dict`.
-/

namespace ChangeImpact

/-- Knowledge read from a document, and the number of entries that were skipped. -/
structure Knowledge.Loaded where
  knowledge : Knowledge
  skipped : Nat
deriving DecidableEq

namespace Knowledge

/-- Reads the entries of a part one after the other; `none` skips an entry. -/
def readEntries {α : Type} (read : Json → Checked (Option α)) (entries : List Json) :
    Checked (List α × Nat) := do
  let found ← entries.mapM read
  return (found.filterMap id, found.countP Option.isNone)

/-- The pieces of a text between commas, trimmed, without empty ones. -/
def commaSeparated (text : String) : List String :=
  (((Text.splitAll ',' text.toList).map Text.trimChars).filter (· != [])).map String.ofList

/-- A module entry; skipped without an id. -/
def readModule (entry : Json) : Checked (Option Module) := do
  let id ← entry.part "id" .null
  if !id.truthy then return none
  let paths ← entry.part "paths" (.arr [])
  let paths :=
    match paths with
    | .str text => Json.arr ((commaSeparated text).map Json.str)
    | _ => paths
  return some { id, name := ← entry.part "name" id, paths }

/-- A link entry; skipped without both ends. -/
def readLink (entry : Json) : Checked (Option Link) := do
  let source ← entry.part "source" .null
  let target ← entry.part "target" .null
  if !source.truthy || !target.truthy then return none
  return some { source, target, type := ← entry.part "type" (.str "depends_on") }

/-- A dependency of a specification. -/
def readDependency (entry : Json) : Checked SpecDependency := do
  return {
    specId := ← entry.part "spec" (.str "")
    moduleId := ← entry.part "module" .null
    relationship := ← entry.part "relationship" (.str "depends_on") }

/-- A specification entry with its dependencies; skipped without an id. -/
def readSpec (entry : Json) : Checked (Option (Spec × List SpecDependency)) := do
  let id ← entry.part "id" .null
  if !id.truthy then return none
  let spec : Spec := { id, title := ← entry.part "title" (.str ""), moduleId := ← entry.part "module" .null }
  let dependencies ← (← (← entry.part "dependencies" (.arr [])).elements).mapM readDependency
  guardThat id.isKey .wrongType
  return some (spec, dependencies)

/-- A flow entry; skipped if a word of it does not exist. -/
def readFlow (entry : Json) : Checked (Option DataFlow) :=
  match DataFlow.ofJson entry with
  | .ok flow => .ok (some flow)
  | .error (.invalidChoice ..) => .ok none
  | .error fault => .error fault

/-- The import map: for every file the files that it imports. -/
def readImports (imports : Json) : Checked (List (String × List Name)) :=
  if !imports.truthy then .ok []
  else
    match imports with
    | .obj fields => fields.mapM fun (file, imported) => do return (file, ← imported.elements)
    | _ => .error .noSuchPart

/-- The knowledge in a document. -/
def ofJson (document : Json) : Checked Loaded := do
  match document with
  | .obj _ =>
    let entries (part : String) : Checked (List Json) := do
      (← document.part part (.arr [])).elements
    let (modules, noModule) ← readEntries readModule (← entries "modules")
    let (links, noLink) ← readEntries readLink (← entries "links")
    let (specs, noSpec) ← readEntries readSpec (← entries "specs")
    let (flows, noFlow) ← readEntries readFlow (← entries "flows")
    Json.needKeys (modules.map Module.id)
    let imports ← readImports (← document.part "imports" (.obj []))
    let knowledge : Knowledge :=
      { modules := modules.foldl (fun known m => putBy Module.id m known) []
        links
        specs := specs.foldl (fun known entry => putBy Spec.id entry.1 known) []
        specDependencies :=
          specs.foldl (fun known entry => putBy Prod.fst (entry.1.id, entry.2) known) []
        imports
        flows }
    return ⟨knowledge, noModule + noLink + noSpec + noFlow⟩
  | _ => throw .knowledgeNotObject

/-- The knowledge in the text of a document, whose line breaks may be of any kind. -/
def ofText (text : List Char) : Checked Loaded :=
  match Json.readChars (Text.withLineFeeds text) with
  | .ok document => ofJson document
  | .error unread => .error (.ofUnread unread)

end Knowledge

end ChangeImpact

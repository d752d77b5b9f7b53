import ChangeImpact.CommandLine.Command
import ChangeImpact.CommandLine.Event
import ChangeImpact.Home.Configuration
import ChangeImpact.Home.Project
import ChangeImpact.Reference.Linking
import ChangeImpact.Reference.Related

/-!
# Commands on references

References belong to the active project.  An entity is given as its type and its id with a
colon between them; both are checked before a store is opened.
-/

namespace ChangeImpact.CommandLine.References

variable [Toml.Package] [IdSource]

/-- The entity that a text gives. -/
def readEntity (text : String) : Checked EntityKey :=
  match Text.splitFirst ':' text.toList with
  | (type, some (c :: id)) =>
    let key : EntityKey := ⟨String.ofList type, String.ofList (c :: id)⟩
    if entityTypes.contains key.type then .ok key
    else .error (invalid
      s!"Unknown entity type '{key.type}'. Choose from: {Fault.listed entityTypes}.")
  | _ => .error (invalid s!"Expected TYPE:ID, got '{text}'.")

/-- One entry of metadata: a key and a value with an equals sign between them. -/
def readEntry (text : String) : Checked (String × Json) :=
  match Text.splitFirst '=' text.toList with
  | (c :: key, some value) => .ok (String.ofList (c :: key), .str (String.ofList value))
  | _ => .error (invalid s!"Metadata must be KEY=VALUE, got '{text}'.")

/-- The metadata that texts give; null if there are none. -/
def readMetadata (texts : List String) : Checked Json := do
  let entries ← texts.mapM readEntry
  return if entries.isEmpty then .null else Json.ofFields entries

/-- The directory of the active project and the default creator of its references. -/
def activeStore (workspace : Workspace) : Checked (List String × Name) := do
  let active ← workspace.activeProject
  guardThat active.truthy
    (invalid "No project loaded. Use 'sg project create <name>' or 'sg project load <name>'.")
  match active with
  | .str name =>
    let path := workspace.projectPath name
    guardThat (← workspace.tree.find? path).isSome
      (invalid s!"Loaded project '{name}' does not exist in memory.")
    let fields ← Settings.effective (← workspace.settings) "references"
    let _ ← Settings.toNumber (Settings.get fields "timeout")
    return (path, .str (Settings.get fields "created_by").display)
  | _ => throw .wrongType

/-- Uses the store of the active project. -/
def useActive (workspace : Workspace) (use : Store → Store × Checked α) : Workspace × Checked α :=
  match workspace.withHome with
  | .error fault => (workspace, .error fault)
  | .ok workspace =>
    match activeStore workspace with
    | .error fault => (workspace, .error fault)
    | .ok (path, creator) => workspace.useStore path creator use

/-- Uses the store of the active project and answers with what comes of it. -/
def answer (workspace : Workspace) (use : Store → Store × Checked α)
    (next : Workspace → α → Response) : Response :=
  let (workspace, result) := useActive workspace use
  Response.andThen workspace result (next workspace)

/-- A table of references. -/
def table (title : String) (refs : List Reference) : Event :=
  .table title ["ID", "Source", "Relationship", "Target", "By"] (refs.map fun ref =>
    [ref.id, s!"{ref.sourceType.display}:{ref.sourceId.display}", ref.relationship.display,
      s!"{ref.targetType.display}:{ref.targetId.display}",
      if ref.createdBy.truthy then ref.createdBy.display else ""])

/-- Shows references: as a document, as a table, or in words if there are none. -/
def showAll (workspace : Workspace) (asJson : Bool) (refs : List Reference) (title nothing : String) :
    Response :=
  if asJson then .say workspace (Json.arr (refs.map Reference.toJson)).indented
  else if refs.isEmpty then .say workspace nothing
  else .done workspace [table title refs]

/-- Links two entities. -/
def link (workspace : Workspace) (source target relationship : String) (metadata : List String)
    (creator : Option String) : Response :=
  let request : Checked NewReference := do
    let source ← readEntity source
    let target ← readEntity target
    let metadata ← readMetadata metadata
    (NewReference.checked ⟨source, target, relationship⟩ metadata
      (Json.ofOption Json.str creator)).mapError (asInvalid "")
  Response.andThen workspace request fun request =>
    answer workspace (fun store => store.create request) fun workspace ref =>
      .say workspace s!"{ref.id}  {ref.summary}"

/-- Says whether a reference was removed. -/
def sayRemoved (label : String) (workspace : Workspace) (removed : Bool) : Response :=
  if removed then .say workspace s!"Deleted {label}."
  else .refuse workspace s!"No reference found for {label}."

/-- Removes the reference with a link. -/
def unlinkEnds (workspace : Workspace) (source target : String) (relationship : String) : Response :=
  let ends : Checked (EntityKey × EntityKey) := do
    return (← readEntity source, ← readEntity target)
  let label := s!"{source} -{relationship}-> {target}"
  Response.andThen workspace ends fun (source, target) =>
    answer workspace
      (fun store =>
        store.deleteByLink source.type source.id target.type target.id relationship)
      (sayRemoved label)

/-- Removes a reference: the one with an id if one is given, and else the one with a
link. -/
def unlink (workspace : Workspace) (source target : Option String) (relationship : String)
    (id : Option String) : Response :=
  let id := id.getD ""
  let source := source.getD ""
  let target := target.getD ""
  if id ≠ "" then answer workspace (fun store => store.delete id) (sayRemoved id)
  else
    Response.andThen workspace workspace.withHome fun workspace =>
      if source = "" || target = "" then
        .failed workspace (invalid "Give SOURCE and TARGET, or --id.")
      else unlinkEnds workspace source target relationship

/-- The filter of a request, and how many rows are asked for. -/
def filterOf (workspace : Workspace) (request : ListRequest) : Checked (FilterRequest × Int) := do
  guardThat ((Vocabulary.names Direction).contains request.direction)
    (invalid s!"Direction must be one of: {Fault.listed (Vocabulary.names Direction)}.")
  let entity := request.entity.getD ""
  let key ← if entity = "" then pure none else (readEntity entity).map some
  let limit ←
    match request.limit with
    | some limit => pure limit
    | none => do
      let fields ← Settings.effective (← workspace.settings) "references"
      Settings.toInt (Settings.get fields "default_limit")
  return ({
    sourceType := .null, sourceId := .null, targetType := .null, targetId := .null
    entityType := Json.ofOption (fun key => Json.str key.type) key
    entityId := Json.ofOption (fun key => Json.str key.id) key
    direction := .str request.direction
    relationship := .arr (request.relationships.map Json.str) }, limit)

/-- Lists references. -/
def list (workspace : Workspace) (request : ListRequest) : Response :=
  Response.andThen workspace (filterOf workspace request) fun (filter, limit) =>
    let use (store : Store) : Store × Checked (List Reference × Nat) := (store, do
      return (← store.query filter (.int limit) (.int request.offset), ← store.count filter))
    answer workspace use fun workspace (refs, total) =>
      showAll workspace request.asJson refs s!"References ({refs.length} of {total})"
        "No references found."

/-- Lists the references related to an entity. -/
def related (workspace : Workspace) (entity : String) (depth : Int) (asJson : Bool) : Response :=
  Response.andThen workspace (readEntity entity) fun key =>
    answer workspace (fun store => (store, store.related key.type key.id (.int depth)))
      fun workspace refs =>
        showAll workspace asJson refs s!"Related to {entity} (depth {depth})"
          s!"Nothing related to {entity}."

/-- The text in which mentions are looked for. -/
def mentionText (workspace : Workspace) (text file : Option String) : Checked String := do
  let text ←
    match file with
    | some path => workspace.readLines (workspace.steps path)
    | none => pure (text.getD "")
  guardThat (text ≠ "") (invalid "Provide TEXT or --file.")
  return text

/-- Links an entity to those that a text mentions. -/
def mentions (workspace : Workspace) (entity : String) (text file creator : Option String) :
    Response :=
  let given : Checked (EntityKey × String) := do
    return (← readEntity entity, ← mentionText workspace text file)
  Response.andThen workspace given fun (key, text) =>
    answer workspace
      (fun store => store.linkMentions key.type key.id text (Json.ofOption Json.str creator))
      fun workspace refs =>
        .done workspace (.line s!"Linked {refs.length} new mention(s) from {entity}." ::
          refs.map fun ref => .line s!"  {ref.summary}")

end ChangeImpact.CommandLine.References

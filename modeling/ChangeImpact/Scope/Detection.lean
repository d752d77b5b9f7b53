import ChangeImpact.Change.Basic
import ChangeImpact.ModuleName
import ChangeImpact.Scope.Expansion

/-!
# Detecting the scope of a change

A change is about the modules and files that it names, the modules that own those files
and the module of its specification.  If that gives no module at all, the modules whose
names fit the entities and keywords of its text stand in.  From there the scope is
expanded.

`Scope.detect` is the computation; `Scope.detectChecked` faults on the parts of a request
or of the knowledge that cannot take part in it.

`detect` is the operation of that name, with `_identify_primary` as `primaryModulesOf` and
`primaryFilesOf`.
-/

namespace ChangeImpact.Scope

/-- The module that an entity's name fits, in the singular or with an `s`. -/
def moduleForEntity? (knowledge : Knowledge) (entity : Name) : Option Module :=
  let name := ModuleName.ofEntity entity.display
  if name = "" then none
  else (knowledge.moduleByName? (.str name)).or (knowledge.moduleByName? (.str (name ++ "s")))

/-- The modules that a change gives: by name, by the files it names, by its
specification. -/
def givenModules (sources : Sources) (change : Change) : List Name :=
  let owners :=
    match sources.modules with
    | none => []
    | some knowledge =>
      (change.targetFiles.filter Json.truthy).filterMap fun file =>
        (knowledge.owner? file.display).map Module.id
  let ofSpec :=
    match sources.specs with
    | none => []
    | some knowledge =>
      if change.specId.truthy then
        (((knowledge.spec? change.specId).map Spec.moduleId).toList).filter Json.truthy
      else []
  (change.targetModules.filter Json.truthy ++ owners ++ ofSpec).eraseDups

/-- The modules whose names fit what the text of a change says. -/
def guessedModules (sources : Sources) (parsed : Parsed) : List Name :=
  match sources.modules with
  | none => []
  | some knowledge =>
    ((parsed.entities.filterMap (moduleForEntity? knowledge) ++
      parsed.keywords.filterMap knowledge.moduleByName?).map Module.id).eraseDups

/-- The modules that a change is about. -/
def primaryModulesOf (sources : Sources) (change : Change) (parsed : Parsed) : List Name :=
  match givenModules sources change with
  | [] => guessedModules sources parsed
  | modules => modules

/-- The files that a change is about. -/
def primaryFilesOf (change : Change) : List Name :=
  (change.targetFiles.filter Json.truthy).eraseDups

/-- The scope of a change. -/
def detect (sources : Sources) (reach : Reach) (change : Change) (parsed : Parsed) : Scope :=
  let modules := primaryModulesOf sources change parsed
  let files := primaryFilesOf change
  { primaryModules := modules
    primaryFiles := files
    dependentModules := Expansion.dependentModules sources reach.depth modules change.specId
    affectedFiles := Expansion.affectedFiles sources reach files
    affectedEntities := Expansion.affectedEntities sources reach parsed.entities
    expansionDepth := reach.depth }

/-! ## What cannot take part -/

/-- Faults on targets that cannot be compared or, where modules are known, are no paths. -/
def checkTargets (sources : Sources) (record : Json) : Checked Unit := do
  let modules ← record.needItems "target_modules"
  Json.needKeys (modules.filter Json.truthy)
  let files ← record.needItems "target_files"
  (files.filter Json.truthy).forM fun file => do
    Json.needKeys [file]
    if let some knowledge := sources.modules then
      let _ ← knowledge.ownerChecked file
  let spec := record.get "spec_id"
  if let (true, some knowledge) := (spec.truthy, sources.specs) then
    Json.needKeys [spec]
    Json.needKeys (((knowledge.spec? spec).map Spec.moduleId).toList.filter Json.truthy)

/-- Faults on entities and keywords from which a module is to be guessed, if they are not
texts or no list. -/
def checkGuess (sources : Sources) (record : Json) : Checked Unit := do
  if sources.modules.isSome then
    Json.needTexts (← record.needItems "entities") .noSuchPart
    let _ ← record.needItems "keywords"

/-- Faults on links and dependencies next to the modules of a scope that cannot be
compared. -/
def checkModules (sources : Sources) (reach : Reach) (specId : Name) (scope : Scope) :
    Checked Unit := do
  if 0 < reach.depth then
    Json.needKeys ((Expansion.specModules sources.specs specId).map Visit.node)
    if let some knowledge := sources.modules then
      let inner := scope.dependentModules.filter fun m => m.path.length < reach.depth
      (scope.primaryModules ++ inner.map ScopedModule.moduleId).forM fun id =>
        Json.needKeys ((Expansion.linkedModules knowledge id).map Prod.fst |>.filter Json.truthy)

/-- Faults on a file that is reached after some steps: one whose owner is looked up or whose
imports are followed has to be a path, and those have to be comparable. -/
def checkFile (sources : Sources) (reach : Reach) (imports : Knowledge) (file : Name)
    (steps : Nat) : Checked Unit := do
  if let (true, some knowledge) := (steps != 0, sources.modules) then
    let _ ← knowledge.ownerChecked file
  if steps < reach.depth then
    Json.needTexts [file] .noSuchPart
    Json.needKeys ((Expansion.adjacentFiles imports file).map Prod.fst |>.filter Json.truthy)

/-- Faults on files of a scope that are no paths. -/
def checkFiles (sources : Sources) (reach : Reach) (scope : Scope) : Checked Unit := do
  if let (true, some knowledge) := (reach.expandImports, sources.imports) then
    scope.primaryFiles.forM fun file => checkFile sources reach knowledge file 0
    scope.affectedFiles.forM fun found =>
      checkFile sources reach knowledge found.filePath found.path.length

/-- Faults on entities that cannot be compared, in a change or in the flows of one. -/
def checkEntities (sources : Sources) (reach : Reach) (record : Json) : Checked Unit := do
  let entities ← record.needItems "entities"
  Json.needKeys (entities.filter Json.truthy)
  if let (true, some knowledge) := (reach.expandDataFlows, sources.flows) then
    entities.forM fun entity =>
      (knowledge.flowsOf entity).forM fun flow => Json.needKeys (flow.entities.filter Json.truthy)

/-- The scope of the change of a record, whose text says what the other record holds.  How far
to go matters once the modules of the change are known. -/
def detectChecked (sources : Sources) (reach : Checked Reach) (change parsed : Json) :
    Checked Scope := do
  checkTargets sources change
  let request := Change.ofRecord change
  if (givenModules sources request).isEmpty then checkGuess sources parsed
  let reach ← reach
  let scope := detect sources reach request (Parsed.ofRecord parsed)
  checkModules sources reach request.specId scope
  checkFiles sources reach scope
  checkEntities sources reach parsed
  return scope

/-- A scope as a record, with the depth that the record of a reach states. -/
def statedBy (reach : Json) (scope : Scope) : Json :=
  match scope.toJson with
  | .obj fields => .obj (Json.setField "expansion_depth" (Reach.statedDepth reach) fields)
  | other => other

end ChangeImpact.Scope

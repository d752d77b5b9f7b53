import ChangeImpact.Knowledge.Basic
import ChangeImpact.Scope.Basic
import ChangeImpact.Traversal

/-!
# Expanding a scope

From the modules and files of a change the scope grows along the links, specification
dependencies and imports that are known.  What one step reaches is affected directly, what
lies further off indirectly.

`Sources` says what is known: each kind of knowledge may be missing, which leaves out the
expansion along it.  `Reach` says how far to go.

`dependentModules`, `affectedFiles` and `affectedEntities` are the operations
`_expand_module_dependencies`, `_expand_file_dependencies` and `_identify_affected_entities`.
-/

namespace ChangeImpact

/-- The kinds of knowledge that an expansion can draw on, each of which may be missing. -/
structure Sources where
  modules : Option Knowledge
  specs : Option Knowledge
  imports : Option Knowledge
  flows : Option Knowledge

/-- Every kind of knowledge from one project. -/
def Sources.all (knowledge : Knowledge) : Sources :=
  ⟨some knowledge, some knowledge, some knowledge, some knowledge⟩

/-- How far an expansion goes. -/
structure Reach where
  maxDepth : Int
  includeIndirect : Bool
  expandImports : Bool
  expandDataFlows : Bool
deriving DecidableEq

namespace Reach

/-- The number of steps that are taken: none below zero, and one at most unless indirect
results are wanted. -/
def depth (reach : Reach) : Nat :=
  if reach.includeIndirect then reach.maxDepth.toNat else min reach.maxDepth.toNat 1

/-- The reach unless something else is asked for: three steps along everything. -/
def standard : Reach := ⟨3, true, true, true⟩

/-- The shape of a record of a reach. -/
def schema : Schema where
  fields := [.optional "max_depth" (.int 3), .optional "include_indirect" (.bool true),
    .optional "expand_imports" (.bool true), .optional "expand_data_flows" (.bool true)]
  choices := []

/-- The reach that a record describes; its depth has to be a number. -/
def ofRecord (record : Json) : Checked Reach := do
  let maxDepth ←
    match record.get "max_depth" with
    | .int n => pure n
    | .bool b => pure (if b then 1 else 0)
    | .float x => pure x.wholeAbove
    | _ => throw .wrongType
  return {
    maxDepth
    includeIndirect := (record.get "include_indirect").truthy
    expandImports := (record.get "expand_imports").truthy
    expandDataFlows := (record.get "expand_data_flows").truthy }

/-- Whether a number is greater than a natural one. -/
def exceeds (value : Json) (n : Nat) : Bool :=
  match value with
  | .int m => n < m
  | .bool b => n < (if b then 1 else 0)
  | .float x => (Binary64.ofNat n).lt x || (x.isInfinite && !x.isNegative)
  | _ => false

/-- The depth of a record as a scope states it: the number that was given, unless one of the
bounds takes its place. -/
def statedDepth (record : Json) : Json :=
  let given := record.get "max_depth"
  let depth := if exceeds given 0 then given else .int 0
  if !(record.get "include_indirect").truthy && exceeds depth 1 then .int 1 else depth

/-- What an expansion by a record of a reach draws on: what a specification depends on is one
step away, so that a part of a step leaves it out. -/
def sourcesFor (record : Json) (sources : Sources) : Sources :=
  match record.get "max_depth" with
  | .float x =>
    if x.lt (.ofNat 1) then
      { sources with specs := sources.specs.map fun known => { known with specDependencies := [] } }
    else sources
  | _ => sources

end Reach

/-- How an expansion came upon something: the way from the start, and the last step of it
in words. -/
structure Approach where
  path : List Name
  reason : String
deriving DecidableEq

namespace Expansion

/-- The level of what is so many steps away: what one step leads to is affected directly. -/
def levelOf (depth : Nat) : ImpactLevel := if depth = 1 then .direct else .indirect

/-- The visits beyond the start. -/
def beyond (visits : List (Visit Name Approach × Nat)) : List (Visit Name Approach × Nat) :=
  visits.filter fun entry => 0 < entry.2

/-- The start of an expansion. -/
def startAt (nodes : List Name) : List (Visit Name Approach) :=
  nodes.map fun node => ⟨node, ⟨[], "primary"⟩⟩

/-- A step from a visited node to another one. -/
def stepTo (visit : Visit Name Approach) (next : Name × String) : Visit Name Approach :=
  ⟨next.1, ⟨visit.note.path ++ [visit.node], next.2⟩⟩

/-! ## Modules -/

/-- The modules that a module's links lead to, with a reason: those that link to it, and
those that it depends on. -/
def linkedModules (knowledge : Knowledge) (id : Name) : List (Name × String) :=
  ((knowledge.incoming id).map fun link =>
      (link.source, s!"{link.type.display} {id.display}")) ++
    (((knowledge.outgoing id).filter fun link => link.type = .str "depends_on").map fun link =>
      (link.target, s!"dependency of {id.display}"))

/-- Where an expansion over modules can go; without knowledge nowhere, but then every
module counts as known. -/
def moduleTerrain (modules : Option Knowledge) : Terrain Name Approach where
  steps visit :=
    match modules with
    | none => []
    | some knowledge =>
      ((linkedModules knowledge visit.node).filter fun next => next.1.truthy).map (stepTo visit)
  known id :=
    match modules with
    | none => true
    | some knowledge => (knowledge.module? id).isSome

/-- The modules of what a change's specification depends on. -/
def specModules (specs : Option Knowledge) (specId : Name) : List (Visit Name Approach) :=
  match specs with
  | none => []
  | some knowledge =>
    if specId.truthy then
      ((knowledge.dependenciesOf specId).filter fun dep => dep.moduleId.truthy).map fun dep =>
        ⟨dep.moduleId, ⟨[.str s!"spec:{specId.display}"],
          s!"Spec {dep.relationship.display}: {dep.specId.display}"⟩⟩
    else []

/-- A module's name, or its id if it is not known. -/
def moduleNameOf (modules : Option Knowledge) (id : Name) : Name :=
  ((modules.bind fun knowledge => knowledge.module? id).map Module.name).getD id

/-- The modules that depend on the modules of a change, closest first. -/
def dependentModules (sources : Sources) (depth : Nat) (primary : List Name) (specId : Name) :
    List ScopedModule :=
  let visits := Traversal.explore (moduleTerrain sources.modules) depth (startAt primary)
    (specModules sources.specs specId)
  (beyond visits).map fun (visit, depth) =>
    { moduleId := visit.node
      moduleName := moduleNameOf sources.modules visit.node
      level := .known (levelOf depth)
      path := visit.note.path
      reason := visit.note.reason }

/-! ## Files -/

/-- A file's name inside a reason. -/
def shortName (file : Name) : String :=
  String.ofList (PathName.afterLastSlash file.display.toList)

/-- The files next to a file, with a reason: those that import it and those it imports. -/
def adjacentFiles (knowledge : Knowledge) (file : Name) : List (Name × String) :=
  ((knowledge.importersOf file).map fun other => (other, s!"imports {shortName file}")) ++
    ((knowledge.importsOf file).map fun other => (other, s!"imported by {shortName file}"))

/-- Where an expansion over files can go. -/
def fileTerrain (knowledge : Knowledge) : Terrain Name Approach where
  steps visit :=
    ((adjacentFiles knowledge visit.node).filter fun next => next.1.truthy).map (stepTo visit)
  known _ := true

/-- The id of the module that owns a file; null if there is none. -/
def ownerId (modules : Option Knowledge) (file : Name) : Name :=
  ((modules.bind fun knowledge => knowledge.owner? file.display).map Module.id).getD .null

/-- The files that import the files of a change or are imported by them, closest first. -/
def affectedFiles (sources : Sources) (reach : Reach) (primary : List Name) : List ScopedFile :=
  match reach.expandImports, sources.imports with
  | true, some knowledge =>
    let visits := Traversal.explore (fileTerrain knowledge) reach.depth (startAt primary) []
    (beyond visits).map fun (visit, depth) =>
      { filePath := visit.node
        level := .known (levelOf depth)
        moduleId := ownerId sources.modules visit.node
        path := visit.note.path
        reason := visit.note.reason }
  | _, _ => []

/-! ## Entities -/

/-- The entities of a change, and those that occur in a flow together with one of them. -/
def affectedEntities (sources : Sources) (reach : Reach) (entities : List Name) : List Name :=
  let related :=
    match reach.expandDataFlows, sources.flows with
    | true, some knowledge =>
      entities.flatMap fun entity => (knowledge.flowsOf entity).flatMap DataFlow.entities
    | _, _ => []
  ((entities ++ related).filter Json.truthy).eraseDups

end Expansion

end ChangeImpact

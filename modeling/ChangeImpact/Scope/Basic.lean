import ChangeImpact.Record
import ChangeImpact.Vocabulary

/-!
# The scope of a change

A scope lists what a change touches: the modules and files that it is about, those that
depend on them with the way that leads there, and the entities concerned.
-/

namespace ChangeImpact

/-- A module that depends on the modules of a change. -/
structure ScopedModule where
  moduleId : Name
  moduleName : Name
  level : Tag ImpactLevel
  path : List Name
  reason : String
deriving DecidableEq

namespace ScopedModule

/-- The shape of a record of a dependent module. -/
def schema : Schema where
  fields := [.required "module_id", .required "module_name", .required "impact_level",
    .optional "dependency_path" (.arr []), .optional "reason" (.str "")]
  choices := []

/-- The dependent module that a record describes. -/
def ofRecord (record : Json) : ScopedModule where
  moduleId := record.get "module_id"
  moduleName := record.get "module_name"
  level := .ofJson (record.get "impact_level")
  path := record.itemsAt "dependency_path"
  reason := (record.get "reason").display

/-- The dependent module as a record. -/
def toJson (m : ScopedModule) : Json := .obj
  [("module_id", m.moduleId), ("module_name", m.moduleName), ("impact_level", m.level.toJson),
    ("dependency_path", .arr m.path), ("reason", .str m.reason)]

end ScopedModule

/-- A file that the files of a change import or that imports them. -/
structure ScopedFile where
  filePath : Name
  level : Tag ImpactLevel
  moduleId : Name
  path : List Name
  reason : String
deriving DecidableEq

namespace ScopedFile

/-- The shape of a record of an affected file. -/
def schema : Schema where
  fields := [.required "file_path", .required "impact_level", .optional "module_id" .null,
    .optional "dependency_path" (.arr []), .optional "reason" (.str "")]
  choices := []

/-- The affected file that a record describes. -/
def ofRecord (record : Json) : ScopedFile where
  filePath := record.get "file_path"
  level := .ofJson (record.get "impact_level")
  moduleId := record.get "module_id"
  path := record.itemsAt "dependency_path"
  reason := (record.get "reason").display

/-- The affected file as a record. -/
def toJson (f : ScopedFile) : Json := .obj
  [("file_path", f.filePath), ("impact_level", f.level.toJson), ("module_id", f.moduleId),
    ("dependency_path", .arr f.path), ("reason", .str f.reason)]

end ScopedFile

/-- What a change touches. -/
structure Scope where
  primaryModules : List Name
  primaryFiles : List Name
  dependentModules : List ScopedModule
  affectedFiles : List ScopedFile
  affectedEntities : List Name
  expansionDepth : Nat
deriving DecidableEq

namespace Scope

/-- The shape of a scope record. -/
def schema : Schema where
  fields := [.optional "primary_modules" (.arr []), .optional "primary_files" (.arr []),
    .optional "dependent_modules" (.arr []), .optional "affected_files" (.arr []),
    .optional "affected_entities" (.arr []), .optional "expansion_depth" (.int 0)]
  choices := []

/-- Builds the parts of a list field into records; a missing field is left missing. -/
def buildParts (part : Schema) (name : String) (fields : List (String × Json)) :
    Checked (List (String × Json)) := do
  match Json.lookup name fields with
  | none => return fields
  | some parts => return Json.setField name (.arr (← (← parts.elements).mapM part.build)) fields

/-- The record of a scope, with its modules and files built into records first. -/
def build (given : Json) : Checked Json := do
  match given with
  | .obj fields =>
    let fields ← buildParts ScopedModule.schema "dependent_modules" fields
    let fields ← buildParts ScopedFile.schema "affected_files" fields
    schema.build (.obj fields)
  | _ => throw .wrongType

/-- The scope that a record describes. -/
def ofRecord (record : Json) : Scope where
  primaryModules := record.itemsAt "primary_modules"
  primaryFiles := record.itemsAt "primary_files"
  dependentModules := (record.itemsAt "dependent_modules").map ScopedModule.ofRecord
  affectedFiles := (record.itemsAt "affected_files").map ScopedFile.ofRecord
  affectedEntities := record.itemsAt "affected_entities"
  expansionDepth :=
    match record.get "expansion_depth" with
    | .int n => n.toNat
    | _ => 0

/-- The scope as a record. -/
def toJson (scope : Scope) : Json := .obj
  [("primary_modules", .arr scope.primaryModules), ("primary_files", .arr scope.primaryFiles),
    ("dependent_modules", .arr (scope.dependentModules.map ScopedModule.toJson)),
    ("affected_files", .arr (scope.affectedFiles.map ScopedFile.toJson)),
    ("affected_entities", .arr scope.affectedEntities),
    ("expansion_depth", .int scope.expansionDepth)]

/-- The dependent module with an id. -/
def dependentModule? (scope : Scope) (id : Name) : Option ScopedModule :=
  scope.dependentModules.find? fun m => m.moduleId.equals id

end Scope

end ChangeImpact

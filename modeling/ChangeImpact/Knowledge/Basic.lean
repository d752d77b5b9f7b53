import ChangeImpact.Flow.Basic
import ChangeImpact.Glob
import ChangeImpact.PathName
import ChangeImpact.Text.Blank

/-!
# Project knowledge

What is known about a project: its modules and the links between them, its specifications
and what they depend on, which file imports which, and the data flows.  Everything keeps
the order in which it was declared.

A module owns a file whose path one of its patterns accepts, or which lies at or below the
directory that a pattern begins with; of several modules the first one declared owns it.

`owner?` is the operation `detect_module_from_path`; `incoming` and `outgoing` are the two parts of
`get_module_links`, `dependenciesOf` is `get_spec_dependencies`, `importsOf` and `importersOf` are
`get_imports` and `get_importers`, and `flowsOf` is `get_entity_flows`.
-/

namespace ChangeImpact

/-- A module of a project.  `paths` are its path patterns, as the document gives them. -/
structure Module where
  id : Name
  name : Name
  paths : Json
deriving DecidableEq, Inhabited

/-- A typed link from one module to another. -/
structure Link where
  source : Name
  target : Name
  type : Name
deriving DecidableEq

/-- A specification. -/
structure Spec where
  id : Name
  title : Name
  moduleId : Name
deriving DecidableEq

/-- Something that a specification depends on. -/
structure SpecDependency where
  specId : Name
  moduleId : Name
  relationship : Name
deriving DecidableEq

/-- What is known about a project. -/
structure Knowledge where
  modules : List Module
  links : List Link
  specs : List Spec
  specDependencies : List (Name × List SpecDependency)
  imports : List (String × List Name)
  flows : List DataFlow
deriving DecidableEq

namespace Module

/-- The path patterns that are texts. -/
def patterns (m : Module) : List String :=
  match m.paths.elements with
  | .ok items => items.filterMap Json.text?
  | .error _ => []

/-- The directory that a pattern begins with, in normal spelling; empty if there is
none. -/
def directoryOf (pattern : List Char) : List Char :=
  Text.dropEnd (· == '/') (pattern.takeWhile (· != '*'))

/-- Whether a path is a directory or lies below it. -/
def isWithin (directory path : List Char) : Bool :=
  path == directory || Text.startsWith (directory ++ ['/']) path

/-- Whether a pattern claims a path, both in normal spelling. -/
def claims (pattern path : List Char) : Bool :=
  Glob.accepts pattern path ||
    (!(directoryOf pattern).isEmpty && isWithin (directoryOf pattern) path)

/-- Whether a module owns a path. -/
def owns (m : Module) (path : String) : Bool :=
  m.patterns.any fun pattern => claims (PathName.normal pattern.toList) (PathName.normal path.toList)

/-- Whether a module owns a path; faults if a pattern that is no text comes before one
that claims the path. -/
def ownsChecked (m : Module) (path : String) : Checked Bool := do
  let rec go : List Json → Checked Bool
    | [] => .ok false
    | item :: rest => do
      let pattern ← item.needText
      if claims (PathName.normal pattern.toList) (PathName.normal path.toList) then return true
      else go rest
  go (← m.paths.elements)

/-- The module as a record. -/
def toJson (m : Module) : Json := .obj [("id", m.id), ("name", m.name), ("paths", m.paths)]

end Module

namespace Spec

/-- The specification as a record. -/
def toJson (spec : Spec) : Json := .obj
  [("id", spec.id), ("title", spec.title), ("module_id", spec.moduleId)]

end Spec

namespace SpecDependency

/-- The dependency as a record. -/
def toJson (dependency : SpecDependency) : Json := .obj
  [("spec_id", dependency.specId), ("module_id", dependency.moduleId),
    ("relationship", dependency.relationship)]

end SpecDependency

/-- Puts a value into a list: in the place of the one with its key if there is one, as the
last one otherwise. -/
def putBy {α β : Type} [BEq β] (key : α → β) (value : α) : List α → List α
  | [] => [value]
  | other :: rest => if key other == key value then value :: rest else other :: putBy key value rest

namespace Knowledge

/-- No knowledge about anything. -/
def empty : Knowledge := ⟨[], [], [], [], [], []⟩

/-- The module with an id. -/
def module? (k : Knowledge) (id : Name) : Option Module := k.modules.find? fun m => m.id == id

/-- The first module that has the given name or id. -/
def moduleByName? (k : Knowledge) (name : Name) : Option Module :=
  k.modules.find? fun m => m.name.equals name || m.id.equals name

/-- The module that owns a path. -/
def owner? (k : Knowledge) (path : String) : Option Module := k.modules.find? fun m => m.owns path

/-- The module that owns a path; faults on a module whose patterns are no texts. -/
def ownerChecked (k : Knowledge) (path : Name) : Checked (Option Module) := do
  let path ← path.needText
  let rec go : List Module → Checked (Option Module)
    | [] => .ok none
    | m :: rest => do if ← m.ownsChecked path then return some m else go rest
  go k.modules

/-- The links that end at a module. -/
def incoming (k : Knowledge) (id : Name) : List Link :=
  k.links.filter fun link => link.target.equals id

/-- The links that start at a module. -/
def outgoing (k : Knowledge) (id : Name) : List Link :=
  k.links.filter fun link => link.source.equals id

/-- The specification with an id. -/
def spec? (k : Knowledge) (id : Name) : Option Spec := k.specs.find? fun spec => spec.id == id

/-- What the specification with an id depends on. -/
def dependenciesOf (k : Knowledge) (id : Name) : List SpecDependency :=
  ((k.specDependencies.find? fun entry => entry.1 == id).map Prod.snd).getD []

/-- The files that a file imports. -/
def importsOf (k : Knowledge) (file : Name) : List Name :=
  ((k.imports.find? fun entry => Json.str entry.1 == file).map Prod.snd).getD []

/-- The files that import a file. -/
def importersOf (k : Knowledge) (file : Name) : List Name :=
  (k.imports.filter fun entry => entry.2.contains file).map fun entry => Json.str entry.1

/-- The flows that an entity takes part in. -/
def flowsOf (k : Knowledge) (entity : Name) : List DataFlow :=
  k.flows.filter fun flow => flow.entities.contains entity

end Knowledge

end ChangeImpact

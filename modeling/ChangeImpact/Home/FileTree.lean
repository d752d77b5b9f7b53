import ChangeImpact.PathName
import ChangeImpact.Reference.Store

/-!
# Directories and files

A file tree says what is found at each location below its root: a directory, a text file or
a store of references.  A path is a list of steps from the root, of which `..` goes back;
every step but the last one has to lead to a directory.

Directories are made together with those on the way, and removed when they are empty.  A
whole directory is removed from the inside: `removeTree` takes everything below it in
descending order, so that each entry goes before the directory that holds it.
-/

namespace ChangeImpact

/-- A place in a file tree: the names on the way from the root. -/
abbrev Location := List String

/-- What is found at a location. -/
inductive Entry where
  | directory
  | file (text : String)
  | references (table : ReferenceTable)
deriving DecidableEq

/-- What is found at which location; the root is a directory and not listed. -/
structure FileTree where
  entries : List (Location × Entry)
deriving DecidableEq

namespace FileTree

-- sums and the order of lists are the core ones, whatever else is imported
attribute [local instance (high)] Zero.ofOfNat0 List.instLE List.decidableLE

/-- Nothing but the root. -/
def empty : FileTree := ⟨[]⟩

/-- What is found at a location. -/
def entry? (tree : FileTree) (location : Location) : Option Entry :=
  if location = [] then some .directory
  else (tree.entries.find? fun listed => listed.1 = location).map Prod.snd

/-- The tree with an entry at a location, in place of what was there. -/
def put (tree : FileTree) (location : Location) (entry : Entry) : FileTree :=
  ⟨(location, entry) :: tree.entries.filter fun listed => listed.1 ≠ location⟩

/-- The tree without the entry at a location. -/
def remove (tree : FileTree) (location : Location) : FileTree :=
  ⟨tree.entries.filter fun listed => listed.1 ≠ location⟩

/-- The way from a location to another one below it. -/
def wayBelow? (location other : Location) : Option (List String) :=
  if location.isPrefixOf other && location.length < other.length then
    some (other.drop location.length)
  else none

/-- The ways to everything below a location, the last in order first. -/
def waysBelow (tree : FileTree) (location : Location) : List (List String) :=
  (tree.entries.filterMap fun listed => wayBelow? location listed.1).mergeSort fun a b =>
    decide (b ≤ a)

/-- Whether nothing is below a location. -/
def isEmptyAt (tree : FileTree) (location : Location) : Bool := (tree.waysBelow location).isEmpty

/-- The names of the directories in a directory, in order. -/
def directoriesIn (tree : FileTree) (location : Location) : List String :=
  (tree.entries.filterMap fun listed =>
    match wayBelow? location listed.1, listed.2 with
    | some [name], .directory => some name
    | _, _ => none).mergeSort fun a b => decide (a ≤ b)

/-! ## Paths -/

/-- The most bytes of a name. -/
def maxNameBytes : Nat := 255

/-- The most bytes of a path below the root: 4095, less what the root itself is likely to
take. -/
def maxPathBytes : Nat := 4079

/-- The most directories that are made at once; each one that is missing is looked for from the
one below it. -/
def maxMadeAtOnce : Nat := 990

/-- The bytes of a path. -/
def pathBytes (steps : List String) : Nat := (steps.map fun step => step.utf8ByteSize + 1).sum

/-- Faults on a path that nothing can be at. -/
def checkPath (steps : List String) : Checked Unit := do
  guardThat (steps.all fun step => !step.toList.contains '\x00') .nullInName
  guardThat (pathBytes steps ≤ maxPathBytes) .nameTooLong

/-- Faults on a name that no entry can have. -/
def checkName (name : String) : Checked Unit :=
  guardThat (name.utf8ByteSize ≤ maxNameBytes) .nameTooLong

/-- The location that a step leads to. -/
def stepFrom (here : Location) (step : String) : Location :=
  if step = ".." then here.dropLast else if step = "." then here else here ++ [step]

/-- The location that steps lead to. -/
def walkFrom (tree : FileTree) (here : Location) : List String → Checked Location
  | [] => .ok here
  | step :: steps =>
    match tree.entry? here with
    | none => .error .noSuchFile
    | some .directory => do
      checkName step
      tree.walkFrom (stepFrom here step) steps
    | some _ => .error .notDirectory

/-- The location that a path leads to, whether or not something is there. -/
def walk (tree : FileTree) (steps : List String) : Checked Location := do
  checkPath steps
  tree.walkFrom [] steps

/-- The location that a path leads to and what is there; nothing if the path leads
nowhere. -/
def find? (tree : FileTree) (steps : List String) : Checked (Option (Location × Entry)) :=
  match tree.walk steps with
  | .ok location => .ok ((tree.entry? location).map fun entry => (location, entry))
  | .error .nameTooLong => .error .nameTooLong
  | .error _ => .ok none

/-- Whether a path leads to a directory. -/
def hasDirectory (tree : FileTree) (steps : List String) : Checked Bool := do
  return (← tree.find? steps).any fun found => found.2 = .directory

/-! ## Changes -/

/-- The number of steps from the first one that leads nowhere. -/
def missingFrom (tree : FileTree) (here : Location) : List String → Nat
  | [] => 0
  | step :: steps =>
    match tree.entry? (stepFrom here step) with
    | some .directory => tree.missingFrom (stepFrom here step) steps
    | some _ => 0
    | none => steps.length + 1

/-- Makes the directory at the end of some steps and those on the way to it, as far as that goes;
`made` says whether one has been made before.  A file in the way is met as the place of a
directory to be made from then on, and as a part of the way before. -/
def makeFrom (tree : FileTree) (made : Bool) (here : Location) :
    List String → FileTree × Checked Unit
  | [] => (tree, .ok ())
  | step :: steps =>
    match checkName step, tree.entry? (stepFrom here step) with
    | .error fault, _ => (tree, .error fault)
    | .ok (), some .directory => tree.makeFrom made (stepFrom here step) steps
    | .ok (), none =>
      (tree.put (stepFrom here step) .directory).makeFrom true (stepFrom here step) steps
    | .ok (), some _ => (tree, .error (if made || steps.isEmpty then .fileExists else .notDirectory))

/-- Makes the directory of a path, unless it is there, and those on the way to it. -/
def makeDirectory (tree : FileTree) (steps : List String) : FileTree × Checked Unit :=
  match checkPath steps with
  | .error fault => (tree, .error fault)
  | .ok () =>
    if maxMadeAtOnce < tree.missingFrom [] steps then (tree, .error .tooDeep)
    else tree.makeFrom false [] steps

/-- The text of the file at a path. -/
def readFile (tree : FileTree) (steps : List String) : Checked String := do
  match tree.entry? (← tree.walk steps) with
  | some (.file text) => return text
  | some .directory => throw .isDirectory
  | some (.references _) => throw .notDatabase
  | none => throw .noSuchFile

/-- Puts a text file at a path. -/
def writeFile (tree : FileTree) (steps : List String) (text : String) : Checked FileTree := do
  let location ← tree.walk steps
  match tree.entry? location with
  | some .directory => throw .isDirectory
  | _ => return tree.put location (.file text)

/-- Removes the file or the empty directory at a path; does nothing if the path leads
nowhere. -/
def removeEntry (tree : FileTree) (steps : List String) : Checked FileTree := do
  match ← tree.find? steps with
  | none => return tree
  | some (location, .directory) =>
    guardThat (tree.isEmptyAt location) .notEmpty
    return tree.remove location
  | some (location, _) => return tree.remove location

/-- Removes the empty directory at a path, which has to be there. -/
def removeDirectory (tree : FileTree) (steps : List String) : Checked FileTree := do
  let location ← tree.walk steps
  match tree.entry? location with
  | none => throw .noSuchFile
  | some .directory =>
    guardThat (tree.isEmptyAt location && steps.getLast? ≠ some "..") .notEmpty
    return tree.remove location
  | some _ => throw .notDirectory

/-- Removes what is at some paths, one after the other, up to the first fault. -/
def removeEntries (tree : FileTree) : List (List String) → FileTree × Checked Unit
  | [] => (tree, .ok ())
  | steps :: rest =>
    match tree.removeEntry steps with
    | .ok tree => tree.removeEntries rest
    | .error fault => (tree, .error fault)

/-- The paths of everything below the directory at a path, in descending order, however deep
directories lie in one another. -/
def pathsBelow (tree : FileTree) (steps : List String) : List (List String) :=
  match tree.walk steps with
  | .ok location =>
    if tree.entry? location = some .directory then
      (tree.waysBelow location).map fun way => steps ++ way
    else []
  | .error _ => []

/-- Removes the directory at a path with everything below it. -/
def removeTree (tree : FileTree) (steps : List String) : FileTree × Checked Unit :=
  match tree.removeEntries (tree.pathsBelow steps) with
  | (tree, .error fault) => (tree, .error fault)
  | (tree, .ok ()) =>
    match tree.removeDirectory steps with
    | .ok tree => (tree, .ok ())
    | .error fault => (tree, .error fault)

end FileTree

end ChangeImpact

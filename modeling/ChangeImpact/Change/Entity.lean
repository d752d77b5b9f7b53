import ChangeImpact.Text.Blank
import ChangeImpact.Text.Folded
import ChangeImpact.Text.Scan
import ChangeImpact.Text.Search

/-!
# Entities in a text

Three things name an entity: a word made of capitalised parts (`OrderItem`), the word
after a noun such as `table`, quoted or not, and the word after `db.` and its kin.  Of the
candidates those count that are longer than two characters, start with a capital and are
no everyday word.

`inText` is the operation `_extract_entities`.
-/

namespace ChangeImpact.Entity

open Text

/-- Capitalised words that name no entity. -/
def excluded : List String :=
  ["String", "Number", "Boolean", "Array", "Object", "Function", "Promise",
    "Date", "Error", "Map", "Set", "Buffer", "Stream", "None", "True", "False",
    "Add", "Create", "Update", "Delete", "Remove", "Get", "List", "Find",
    "Search", "Filter", "Sort", "Validate", "Check", "Process", "Fix",
    "Refactor", "Migrate", "Implement", "Move", "Rename",
    "Api", "App", "Web", "Test", "Mock", "Stub", "Fake",
    "This", "That", "The", "And", "For", "With", "From", "Into", "When", "Make",
    "Django", "Flask", "React", "Vue", "Angular", "Express", "Node",
    "Component", "Service", "Controller", "Repository", "Module"]

/-- The nouns whose next word is a candidate. -/
def nouns : List String := ["entity", "model", "table", "schema", "record"]

/-- The names of a database whose member is a candidate. -/
def databases : List String := ["collection", "database", "db"]

/-- Whether every capital of the text is followed by a small letter, from here on: the
flag says that one has to come next. -/
def isPascalFrom (needsLower : Bool) : List Char → Bool
  | [] => !needsLower
  | c :: cs =>
    if isAsciiLower c then isPascalFrom false cs
    else if isAsciiUpper c && !needsLower then isPascalFrom true cs
    else false

/-- Whether a word consists of capitalised parts. -/
def isPascal : List Char → Bool
  | [] => false
  | c :: cs => isAsciiUpper c && isPascalFrom true cs

/-- The text without a quotation mark at its start. -/
def dropQuote : List Char → List Char
  | [] => []
  | c :: cs => if c == '\'' || c == '"' then cs else c :: cs

/-- The candidate after a noun: blanks and a quotation mark may come between, and a
quotation mark after it belongs to it. -/
def afterNoun : Matcher (List Char) := fun _ cs =>
  match afterAnyWord? nouns cs with
  | none => none
  | some rest =>
    let word := dropQuote (rest.dropWhile isBlank)
    if (rest.head?.map isBlank).getD false && (word.head?.map isWord).getD false then
      let after := dropQuote (word.dropWhile isWord)
      some (word.takeWhile isWord, cs.length - after.length)
    else none

/-- The candidate after the name of a database and a point. -/
def afterDatabase : Matcher (List Char) := fun _ cs =>
  databases.findSome? fun database =>
    match afterWord? database.toList cs with
    | some ('.' :: word) =>
      if (word.head?.map isWord).getD false then
        some (word.takeWhile isWord, cs.length - (word.dropWhile isWord).length)
      else none
    | _ => none

/-- The candidates of all three kinds, kind by kind. -/
def candidates (text : List Char) : List (List Char) :=
  (runs isWord text).filter isPascal ++ findAll afterNoun text ++ findAll afterDatabase text

/-- Whether a candidate counts as an entity. -/
def isEntity (candidate : List Char) : Bool :=
  2 < candidate.length && (candidate.head?.map isUpper).getD false &&
    !excluded.contains (String.ofList candidate)

/-- The entities that a text names, each once. -/
def inText (text : List Char) : List String :=
  (((candidates text).filter isEntity).map String.ofList).eraseDups

end ChangeImpact.Entity

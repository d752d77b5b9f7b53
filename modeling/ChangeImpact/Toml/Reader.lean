import ChangeImpact.Toml.Entry
import ChangeImpact.Toml.Layout

/-!
# Reading configuration files

A configuration file is TOML: entries `key = value`, in tables that are opened by headers such
as `[scope]` or `[scope.sub]`, or in lists of tables, of which `[[scope]]` adds one.  Its lines
are those of its layout; a line that is neither a header nor an entry says nothing.

A file that breaks a rule is malformed as a whole.  Some files are worse than that: they lead
through a value that is no table, or end where something is still expected, and are faults of
their own.
-/

namespace ChangeImpact.Toml

/-- A step from a value to a part of it: to the value of a key, or to the last item. -/
inductive Step where
  | key (name : String)
  | last
deriving DecidableEq

namespace Value

/-- The last item of a list, or the last character of a text. -/
def last? : Value → Checked Value
  | .list items =>
    match items.getLast? with
    | some item => .ok item
    | none => .error .noSuchPlace
  | .text s =>
    match s.toList.getLast? with
    | some c => .ok (.text (String.singleton c))
    | none => .error .noSuchPlace
  | _ => .error .wrongType

/-- The value at the end of some steps; null if they lead nowhere. -/
def follow : List Step → Value → Value
  | [], value => value
  | .key name :: steps, .table fields => follow steps ((Json.lookup name fields).getD .null)
  | .last :: steps, value =>
    match value.last? with
    | .ok item => follow steps item
    | .error _ => .null
  | _ :: _, _ => .null

/-- The value with another one put at the end of some steps. -/
def putAt (new : Value) : List Step → Value → Value
  | [], _ => new
  | .key name :: steps, .table fields =>
    .table (Json.setField name (putAt new steps ((Json.lookup name fields).getD .null)) fields)
  | .last :: steps, .list items =>
    match items.getLast? with
    | some item => .list (items.dropLast ++ [putAt new steps item])
    | none => .list items
  | _ :: _, value => value

end Value

/-- A list with another value in place of its last one. -/
def withLast (new : Value) : Value → Value
  | .list items => .list (items.dropLast ++ [new])
  | value => value

/-! ## Headers -/

/-- Whether a name may stand in a header without quotes. -/
def isBareName (cs : List Char) : Bool :=
  !cs.isEmpty && cs.all fun c => c.isAlphanum || c == '_' || c == '-'

/-- The name inside the quotes that a piece begins and ends with. -/
def nameInQuotes? (piece : List Char) : Option (List Char) :=
  let cs := Text.trimChars piece
  if cs.length ≠ 1 && cs.head? = cs.getLast? then some (Text.inside cs) else none

/-- Joins pieces with points between them until the whole ends with the quote that it begins
with; the name inside the quotes and the pieces left. -/
def quotedName? : List Char → List (List Char) → Option (List Char × List (List Char))
  | piece, [] => (nameInQuotes? piece).map fun name => (name, [])
  | piece, next :: rest =>
    match nameInQuotes? piece with
    | some name => some (name, next :: rest)
    | none => quotedName? (piece ++ '.' :: next) rest

/-- The names in a header, from its pieces between points. -/
def headerNames? : Nat → List (List Char) → Option (List String)
  | 0, _ => some []
  | _, [] => some []
  | fuel + 1, piece :: rest =>
    let cs := Text.trimChars piece
    if cs.head? = some '"' || cs.head? = some '\'' then do
      let (name, rest) ← quotedName? cs rest
      return String.ofList name :: (← headerNames? fuel rest)
    else if isBareName cs then
      (headerNames? fuel rest).map (String.ofList cs :: ·)
    else none

/-- The names of a header, from the text behind its opening bracket or brackets. -/
def readHeader (closing : List Char) (cs : List Char) : Checked (List String) := do
  let cuts := outsideQuotes closing cs
  let pieces := Text.cut closing cuts cs
  guardThat (cuts < pieces.length && (Text.trimChars (pieces.getLastD [])).isEmpty)
    .malformedSettings
  let inner := Text.splitAll '.' (Text.joinWith closing pieces.dropLast)
  match headerNames? (inner.length + 1) inner with
  | some names => return names
  | none => throw .malformedSettings

/-- What a header opens: the changed value, the steps to the table, and the names of tables that
are only there because a table inside them was opened. -/
structure Opened where
  value : Value
  steps : List Step
  implied : List String

/-- A value with an empty table added to it, if it is a list. -/
def withTable : Value → Checked Value
  | .list items => .ok (.list (items ++ [.table []]))
  | _ => .error .wrongType

/-- The value that a header finds or makes under a name, and the implied names afterwards.
`inList` says that the header adds to a list, `isLast` that the name is its last one. -/
def openName (inList isLast : Bool) (name : String) (implied : List String)
    (fields : List (String × Value)) : Checked (Value × List String) :=
  match Json.lookup name fields with
  | some value =>
    if !isLast then .ok (value, implied)
    else if implied.contains name then
      if inList then .error .malformedSettings else .ok (value, implied.erase name)
    else if inList then (withTable value).map fun value => (value, implied)
    else .error .malformedSettings
  | none =>
    .ok (if inList && isLast then .list [.table []] else .table [],
      if isLast then implied else implied ++ [name])

/-- The value that a header finds or makes under a name in the last item of a list. -/
def openInLast (inList isLast : Bool) (name : String) (fields : List (String × Value)) : Value :=
  (Json.lookup name fields).getD (if inList && isLast then .list [.table []] else .table [])

/-- Opens the table under some names, with those on the way to it.  A list on the way stands for
its last item, and so does everything that a header which adds to a list comes to. -/
def openTable (inList : Bool) : List String → List String → Value → Checked Opened
  | [], implied, value => .ok ⟨value, [], implied⟩
  | name :: names, implied, value => do
    guardThat (name ≠ "") .malformedSettings
    let isLast := names.isEmpty
    let enter (implied : List String) (inner : Value) : Checked Opened := do
      match inList, inner with
      | false, _ | true, .table _ => openTable inList names implied inner
      | true, inner =>
        let opened ← openTable inList names implied (← inner.last?)
        return ⟨withLast opened.value inner, .last :: opened.steps, opened.implied⟩
    match value with
    | .table fields =>
      let (inner, implied) ← openName inList isLast name implied fields
      let opened ← enter implied inner
      return ⟨.table (Json.setField name opened.value fields), .key name :: opened.steps, opened.implied⟩
    | value =>
      -- a list stands here, and the name is looked up in its last table
      match ← value.last? with
      | .table fields =>
        let opened ← enter implied (openInLast inList isLast name fields)
        let item := Value.table (Json.setField name opened.value fields)
        return ⟨withLast item value, .last :: .key name :: opened.steps, opened.implied⟩
      | _ => throw .wrongType

/-! ## Lines -/

/-- What has been read so far: the document, the steps to the table that entries go to, the
implied names, and the text that is open. -/
structure Progress where
  document : Value
  steps : List Step
  implied : List String
  opened : Option OpenText

namespace Progress

/-- Nothing read so far. -/
def start : Progress := ⟨.table [], [], [], none⟩

/-- The value that entries go to. -/
def target (progress : Progress) : Value := progress.document.follow progress.steps

/-- Puts a value in place of the one that entries go to. -/
def withTarget (progress : Progress) (value : Value) : Progress :=
  { progress with document := .putAt value progress.steps progress.document }

/-- Whether a line closes an open text, or a list with an open text. -/
def closes (text line : List Char) : Checked Bool :=
  match text with
  | '[' :: _ =>
    match line.getLast? with
    | some c => .ok (c == ']')
    | none => .error .noSuchPlace
  | quote :: _ => .ok (2 < line.length && 3 ≤ Text.trailing quote line)
  | [] => .ok false

/-- Takes in a further line of an open text. -/
def readOpen (progress : Progress) (opened : OpenText) (line : List Char) : Checked Progress := do
  let line :=
    if opened.joined || !opened.text.contains '\n' then Text.trimChars line else line
  if line.isEmpty && opened.joined then return progress
  let text := opened.text ++ line
  if ← closes text line then
    let (value, _) ← readValue maxRoom text true
    return { progress.withTarget (withEntry opened.key value progress.target) with opened := none }
  else
    let (text, joined) := withBreak text
    return { progress with opened := some ⟨opened.key, text, joined⟩ }

/-- Takes in a header. -/
def readHeaderLine (progress : Progress) (cs : List Char) : Checked Progress := do
  let (inList, names) ←
    match cs with
    | [] => throw .malformedSettings
    | '[' :: rest => do pure (true, ← readHeader [']', ']'] rest)
    | rest => do pure (false, ← readHeader [']'] rest)
  let opened ← openTable inList names progress.implied progress.document
  return { progress with document := opened.value, steps := opened.steps, implied := opened.implied }

/-- Takes in a line. -/
def readLine (progress : Progress) (line : List Char) : Checked Progress := do
  match progress.opened with
  | some opened => progress.readOpen opened line
  | none =>
    match Text.trimChars line with
    | [] => return progress
    | '[' :: rest => progress.readHeaderLine rest
    | '{' :: rest =>
      guardThat (('{' :: rest).getLast? = some '}') .malformedSettings
      return progress.withTarget (← readInline maxRoom ('{' :: rest) progress.target)
    | line =>
      if line.contains '=' then
        let (value, opened) ← readEntry maxRoom line progress.target
        return { progress.withTarget value with opened }
      else return progress

end Progress

/-- The tables and values of a file, in order. -/
def read (text : List Char) : Checked (List (String × Value)) := do
  let progress ← (← Layout.lines text).foldlM Progress.readLine .start
  match progress.document with
  | .table fields => return fields
  | _ => return []

end ChangeImpact.Toml

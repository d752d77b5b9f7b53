import ChangeImpact.Fault
import ChangeImpact.Text.Blank
import ChangeImpact.Text.Search
import ChangeImpact.Text.Word

/-!
# The layout of configuration files

Before a configuration file is read line by line, one pass over its characters settles which
lines belong together: comments are blanked out, the line breaks inside an open list become
blanks, and so does the one right behind the quotes that open a text of several lines.  The
pass also checks that every line that is no header begins with a key and a sign of equality,
and that every quote is closed.

The pass keeps track of open quotes by counting the quotes in front of each one: the third of
a kind in a row opens or closes a text of several lines.  Looking back from the beginning of
the file goes on at its end.
-/

namespace ChangeImpact.Toml

/-- How far the key of a line has been read. -/
inductive KeyStage where
  /-- Not inside a key. -/
  | outside
  /-- Inside a name. -/
  | naming
  /-- Behind a name. -/
  | named
deriving DecidableEq

/-- A file on its way through the pass, with what is open at the current place. -/
structure Layout where
  text : Array Char
  lists : Int
  quote : Option Char
  inText : Bool
  severalLines : Bool
  inHeader : Bool
  inListHeader : Bool
  atLineStart : Bool
  key : KeyStage
  dotted : Bool
  ended : Bool

namespace Layout

/-- A file before the pass. -/
def start (text : List Char) : Layout :=
  ⟨text.toArray, 0, none, false, false, false, false, true, .outside, false, false⟩

/-- The index `back` places before another one, counted on from the end below zero. -/
def indexBefore? (layout : Layout) (i back : Nat) : Option Nat :=
  if back ≤ i then some (i - back)
  else if back ≤ i + layout.text.size then some (i + layout.text.size - back)
  else none

/-- The character `back` places before an index. -/
def before? (layout : Layout) (i back : Nat) : Option Char :=
  (layout.indexBefore? i back).bind fun j => layout.text[j]?

/-- The number of times in a row that a character stands before an index, from `back` places
before it on. -/
def runBefore (layout : Layout) (c : Char) (i : Nat) : Nat → Nat → Nat
  | 0, _ => 0
  | fuel + 1, back =>
    if layout.before? i back = some c then layout.runBefore c i fuel (back + 1) + 1 else 0

/-- Puts a character `back` places before an index. -/
def put (layout : Layout) (i back : Nat) (c : Char) : Layout :=
  match layout.indexBefore? i back with
  | some j => { layout with text := layout.text.setIfInBounds j c }
  | none => layout

/-! ## Keys -/

/-- The stage behind a blank or a point that follows a name: what comes next decides whether a
further name begins. -/
def stageBehind (layout : Layout) (i : Nat) : Checked KeyStage :=
  match layout.text[i + 1]? with
  | none => .error .noSuchPlace
  | some next => .ok (if !Text.isBlank next && next != '.' then .naming else .named)

/-- Takes in a character of a key; the answer says whether it is no more than that. -/
def readKey (layout : Layout) (i : Nat) (c : Char) : Checked (Layout × Bool) := do
  if layout.key = .outside then return (layout, false)
  if c == '\n' then throw .malformedSettings
  if layout.inText then
    -- a quote behind an odd number of backslashes does not end the name
    let escaped := layout.runBefore '\\' i i 1 % 2 == 1
    if layout.quote = some c && !escaped then
      return ({ layout with key := .named, inText := false, quote := none }, true)
    return (layout, true)
  if layout.key = .naming then
    if Text.isBlank c then return ({ layout with key := .named }, true)
    if c == '.' then return ({ layout with dotted := true }, true)
    if Text.isWord c || c == '-' then return (layout, true)
    if layout.dotted && layout.before? i 1 = some '.' && (c == '"' || c == '\'') then
      return ({ layout with inText := true, quote := some c }, true)
  else
    if Text.isBlank c then
      if layout.dotted then return ({ layout with key := ← layout.stageBehind i }, true)
      return (layout, true)
    if c == '.' then
      return ({ layout with dotted := true, key := ← layout.stageBehind i }, true)
  -- only the sign of equality may follow a name
  guardThat (c == '=') .malformedSettings
  return ({ layout with key := .outside, dotted := false }, false)

/-! ## Values -/

/-- Takes in a quote that opens or closes a text, of several lines if `tripled`. -/
def turnQuote (layout : Layout) (c : Char) (tripled counts : Bool) : Layout :=
  let layout :=
    if !counts then layout
    else if tripled then
      { layout with severalLines := !layout.severalLines, inText := !layout.severalLines }
    else { layout with inText := !layout.inText }
  { layout with quote := if layout.inText then some c else none }

/-- Takes in a character that may be a quote. -/
def readQuote (layout : Layout) (i : Nat) (c : Char) : Layout :=
  let run := layout.runBefore c i 2 1
  if c == '\'' && layout.quote != some '"' then layout.turnQuote c (run == 2) true
  else if c == '"' && layout.quote != some '\'' then
    let escaped := run != 1 && layout.runBefore '\\' i (i + layout.text.size + 1) (run + 1) % 2 == 1
    layout.turnQuote c (run == 2) !escaped
  else layout

/-- Blanks out the text from an index to the end of the line; the answer says whether the file
ends there. -/
def blankOut : Nat → Array Char → Nat → Array Char × Bool
  | 0, text, _ => (text, true)
  | fuel + 1, text, i =>
    match text[i]? with
    | none => (text, true)
    | some '\n' => (text, false)
    | some _ => blankOut fuel (text.setIfInBounds i ' ') (i + 1)

/-- Whether brackets and comments count at the current place. -/
def isPlain (layout : Layout) : Bool :=
  !layout.inText && !layout.inHeader && !layout.inListHeader

/-- Takes in a character that may be a bracket. -/
def readBracket (layout : Layout) (i : Nat) (c : Char) : Layout :=
  if c == '[' && layout.isPlain then
    if layout.atLineStart then
      if layout.text[i + 1]? = some '[' then { layout with inListHeader := true }
      else { layout with inHeader := true }
    else { layout with lists := layout.lists + 1 }
  else if c == ']' && !layout.inText then
    if layout.inHeader then { layout with inHeader := false }
    else if layout.inListHeader then
      { layout with inListHeader := layout.before? i 1 != some ']' }
    else { layout with lists := layout.lists - 1 }
  else layout

/-- Takes in a line break inside a text: behind two quotes of a kind it becomes a third one, and
the quote in front of them, if there is one, a blank. -/
def joinText (layout : Layout) (i : Nat) : Layout :=
  match layout.before? i 1 with
  | some c =>
    if (c == '"' || c == '\'') && layout.before? i 2 = some c then
      let layout := layout.put i 0 c
      if layout.before? i 3 = some c then layout.put i 3 ' ' else layout
    else layout
  | none => layout

/-- Takes in the end of a line or the beginning of one. -/
def readLine (layout : Layout) (i : Nat) (c : Char) : Checked Layout := do
  if c == '\n' then
    if layout.inText || layout.severalLines then
      guardThat layout.severalLines .malformedSettings
      return layout.joinText i
    if layout.lists ≠ 0 then return layout.put i 0 ' '
    return { layout with atLineStart := true }
  -- a comment that was blanked out is no beginning
  let shown := layout.text.getD i ' '
  if layout.atLineStart && shown != ' ' && shown != '\t' then
    let layout := { layout with atLineStart := false }
    if layout.inHeader || layout.inListHeader then return layout
    guardThat (shown != '=') .malformedSettings
    return { layout with key := .naming }
  return layout

/-- Takes in the character at an index. -/
def step (layout : Layout) (i : Nat) : Checked Layout := do
  if layout.ended then return layout
  let c := layout.text.getD i ' '
  let (layout, done) ← layout.readKey i c
  if done then return layout
  let layout := layout.readQuote i c
  if c == '#' && layout.isPlain then
    let (text, ended) := blankOut (layout.text.size - i + 1) layout.text i
    let layout := { layout with text, ended }
    if ended then return layout
    layout.readLine i c
  else (layout.readBracket i c).readLine i c

/-- The lines of a file, comments blanked out and lists on one line each. -/
def lines (text : List Char) : Checked (List (List Char)) := do
  let layout ← (List.range text.length).foldlM step (start text)
  guardThat (layout.key = .outside) .malformedSettings
  guardThat (!layout.inText) .malformedSettings
  return Text.splitAll '\n' layout.text.toList

end Layout

end ChangeImpact.Toml

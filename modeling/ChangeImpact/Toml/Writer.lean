import ChangeImpact.Text.Quoted
import ChangeImpact.Text.Search
import ChangeImpact.Toml.Value

/-!
# Writing configuration files

Values that are no tables come first, then each table under its header, with an empty line
in front; tables inside tables follow after all tables of the level above.  A table that
holds nothing but tables has no header of its own.

A list with a table among its items is written as a list of tables, one header per item, behind
the other values of the table that it is in.  Inside any other list a table stands for the list
of its keys.

Not everything can be written: a text whose first character is one of those without a glyph
that are written by a code of two digits, a whole number of too many digits, and an item of a
list of tables that is neither a table nor empty.
-/

namespace ChangeImpact.Toml

-- powers of whole numbers are the core ones, whatever else is imported
attribute [local instance (high)] instPowNat

/-- A character between double quotes, before the escapes of codes are settled. -/
def writtenChar (c : Char) : List Char :=
  if c == '"' then ['\\', '"'] else if c == '\'' then [c] else Text.escapeChar '"' c

/-- The pieces between the places where a backslash and an `x` meet. -/
def splitCodes : List Char → List (List Char)
  | [] => [[]]
  | '\\' :: 'x' :: rest => [] :: splitCodes rest
  | c :: rest =>
    match splitCodes rest with
    | [] => [[c]]
    | piece :: pieces => (c :: piece) :: pieces

/-- The text with one backslash for each two. -/
def halveBackslashes : List Char → List Char
  | '\\' :: '\\' :: rest => '\\' :: halveBackslashes rest
  | c :: rest => c :: halveBackslashes rest
  | [] => []

/-- What is put between two pieces: it depends on the number of backslashes before it, of
which the first character of the text is not counted. -/
def codeSign (before : List Char) : List Char :=
  let trailing := (before.reverse.takeWhile (· == '\\')).length
  let flips := if trailing < before.length then trailing else trailing - 1
  if (trailing == 0) != (flips % 2 == 1) then ['x'] else ['u', '0', '0']

/-- Joins the pieces after a text. -/
def joinCodes (before : List Char) : List (List Char) → List Char
  | [] => before
  | piece :: pieces =>
    let before := halveBackslashes before
    joinCodes (before ++ codeSign before ++ piece) pieces

/-- A text in double quotes.  Codes of characters that are not printable are not kept
intact, and a text that begins with the only one of them is not written at all. -/
def writtenText (s : String) : Checked String :=
  let quoted (body : List Char) : Checked String := .ok (String.ofList ('"' :: body ++ ['"']))
  match splitCodes (s.toList.flatMap writtenChar) with
  | [] | [[], _] => .error .noSuchPlace
  | [] :: first :: pieces => quoted (joinCodes first pieces)
  | first :: pieces => quoted (joinCodes first pieces)

/-- A number; one digit of a two-digit exponent that is zero is left out. -/
def writtenFloat (x : Binary64) : String :=
  let text := x.text.toList
  match text.span (· != 'e') with
  | (mantissa, 'e' :: sign :: '0' :: digits) => String.ofList (mantissa ++ 'e' :: sign :: digits)
  | _ => x.text

/-- A whole number. -/
def writtenWhole (n : Int) : Checked String :=
  if n.natAbs < 10 ^ Numeral.maxDigits then .ok (toString n) else .error .tooLongToWrite

mutual

/-- A value on one line. -/
def written : Value → Checked String
  | .null => .ok "\"None\""
  | .truth b => .ok (if b then "true" else "false")
  | .whole n => writtenWhole n
  | .number x => .ok (writtenFloat x)
  | .text s => writtenText s
  | .moment m => .ok m.written
  | .list items => (writtenItems items).map fun items => "[" ++ items ++ "]"
  | .table fields => (writtenKeys fields).map fun keys => "[" ++ keys ++ "]"

/-- The items of a list, each after a blank and before a comma; a list without items has no
blanks inside. -/
def writtenItems : List Value → Checked String
  | [] => .ok ""
  | item :: rest => do return " " ++ (← written item) ++ "," ++ (← writtenItems rest)

/-- The keys of a table as the items of a list. -/
def writtenKeys : List (String × Value) → Checked String
  | [] => .ok ""
  | (key, _) :: rest => do return " " ++ (← writtenText key) ++ "," ++ (← writtenKeys rest)

end

/-- A key, which needs no quotes if it is made of ASCII letters, digits, `_` and `-`; one line
break may end it. -/
def writtenKey (key : String) : Checked String :=
  let cs := key.toList
  let body := if cs.getLast? = some '\n' then cs.dropLast else cs
  if !body.isEmpty && body.all fun c => c.isAlphanum || c == '_' || c == '-' then .ok key
  else writtenText key

/-- Whether a value is a table. -/
def isTable : Value → Bool
  | .table _ => true
  | _ => false

/-- What the entries of a table come to: its lines, and the tables inside it by the names in
their headers. -/
structure Section where
  body : String
  tables : List (String × Value)

/-- A table inside another one, by the names in both their headers. -/
def joinNames (around name : String) : String := if around = "" then name else around ++ "." ++ name

mutual

/-- How deeply the parts of a value are nested. -/
def depth : Value → Nat
  | .list items => depthOfItems items + 1
  | .table fields => depthOfFields fields + 1
  | _ => 0

/-- How deeply the items of a list are nested. -/
def depthOfItems : List Value → Nat
  | [] => 0
  | item :: rest => max (depth item) (depthOfItems rest)

/-- How deeply the values of a table are nested. -/
def depthOfFields : List (String × Value) → Nat
  | [] => 0
  | (_, value) :: rest => max (depth value) (depthOfFields rest)

end

/-- The tables among the parts of a list of tables, level by level under their headers.
`write` writes one table. -/
def levelText (write : String → Value → Checked Section) (around : String) :
    Nat → List (String × Value) → Checked String
  | 0, _ => .ok ""
  | _, [] => .ok ""
  | levels + 1, tables => do
    let (text, inner) ← tables.foldlM
      (fun (text, inner) (name, table) => do
        let part ← write (joinNames around name) table
        let text := if part.body = "" then text else text ++ s!"[{joinNames around name}]\n" ++ part.body
        return (text, part.tables.foldl
          (fun inner (key, value) => Json.setField (joinNames name key) value inner) inner))
      ("", ([] : List (String × Value)))
    return text ++ (← levelText write around levels inner)

/-- One item of a list of tables under its header; what begins with a header of its own goes
behind an empty line. -/
def itemText (write : String → Value → Checked Section) (levels : Nat) (name : String)
    (item : Value) : Checked String := do
  let part ← write name item
  let inner ← levelText write name levels part.tables
  if part.body.toList.head? = some '[' then return s!"[[{name}]]\n" ++ "\n" ++ part.body ++ inner
  else return s!"[[{name}]]\n" ++ part.body ++ "\n" ++ inner

/-- The section of a value under a header; `levels` bounds the nesting of what is inside.  What
is no table has to be empty. -/
def sectionOf : Nat → String → Value → Checked Section
  | levels, name, .table fields => do
    let (lines, lists, tables) ← fields.foldlM
      (fun (lines, lists, tables) (key, value) => do
        let shown ← writtenKey key
        match value, levels with
        | .table inner, _ => return (lines, lists, Json.setField shown (.table inner) tables)
        | .null, _ => return (lines, lists, tables)
        | .list items, levels + 1 =>
          -- a list with a table in it is written below the lines, table by table
          if items.any isTable then
            let texts ← items.mapM (itemText (sectionOf levels) levels (joinNames name shown))
            return (lines, lists ++ String.join texts, tables)
          else return (lines ++ shown ++ " = " ++ (← written value) ++ "\n", lists, tables)
        | value, _ => return (lines ++ shown ++ " = " ++ (← written value) ++ "\n", lists, tables))
      ("", "", ([] : List (String × Value)))
    return ⟨lines ++ lists, tables⟩
  -- what is no table is walked through as if it were one: over its characters or items in place of keys
  | _, _, .text s => do
    match s.toList with
    | [] => return ⟨"", []⟩
    | c :: _ =>
      let _ ← writtenKey (String.singleton c)
      throw .wrongType
  | _, _, .list [] => .ok ⟨"", []⟩
  | _, _, .list (.text s :: _) => do
    let _ ← writtenKey s
    throw .wrongType
  | _, _, _ => .error .wrongType

/-- The text with a section added under its header, if it needs one. -/
def addSection (text name : String) (part : Section) : String :=
  if part.body = "" && !part.tables.isEmpty then text
  else
    let gap := if text = "" || Text.endsWith ['\n', '\n'] text.toList then "" else "\n"
    text ++ gap ++ s!"[{name}]\n" ++ part.body

/-- The text with the tables of a level added, and those inside them level by level. -/
def addLevels : Nat → List (String × Value) → String → Checked String
  | 0, _, text => .ok text
  | _, [], text => .ok text
  | levels + 1, tables, text => do
    let (text, inner) ← tables.foldlM
      (fun (text, inner) (name, table) => do
        let part ← sectionOf (depth table) name table
        return (addSection text name part, part.tables.foldl
          (fun inner (key, value) => Json.setField (joinNames name key) value inner) inner))
      (text, ([] : List (String × Value)))
    addLevels levels inner text

/-- The file that holds some tables and values. -/
def write (fields : List (String × Value)) : Checked String := do
  let levels := depthOfFields fields + 1
  let top ← sectionOf levels "" (.table fields)
  addLevels levels top.tables top.body

end ChangeImpact.Toml

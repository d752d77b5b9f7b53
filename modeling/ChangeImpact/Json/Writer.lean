import ChangeImpact.Json.Basic
import ChangeImpact.Decimal.Shortest
import ChangeImpact.Text.Quoted

/-!
# Writing documents

Three layouts: `compact`, on one line without blanks and with the fields of every object
sorted by name; `spaced`, on one line with a blank behind every comma and colon; and
`indented`, two columns further in per level.  The last two leave the fields in their own
order.  All of them write texts in ASCII: whatever lies outside it is escaped as UTF-16
units.
-/

namespace ChangeImpact.Json

/-- An escaped UTF-16 unit. -/
def unitEscape (n : Nat) : List Char := '\\' :: 'u' :: Text.hexDigits 4 n

/-- A character inside a JSON text. -/
def escapedChar (c : Char) : List Char :=
  let n := c.toNat
  if c == '"' then ['\\', '"']
  else if c == '\\' then ['\\', '\\']
  else if c == '\n' then ['\\', 'n']
  else if c == '\r' then ['\\', 'r']
  else if c == '\t' then ['\\', 't']
  else if n == 0x0c then ['\\', 'f']
  else if n == 0x08 then ['\\', 'b']
  else if 0x20 ≤ n && n ≤ 0x7e then [c]
  else if n < 0x10000 then unitEscape n
  else unitEscape (0xd800 + (n - 0x10000) / 0x400) ++ unitEscape (0xdc00 + (n - 0x10000) % 0x400)

/-- A text with its quotes. -/
def writtenText (s : String) : String :=
  String.ofList ('"' :: s.toList.flatMap escapedChar ++ ['"'])

/-- A number with a fraction or exponent; infinities and NaN have names. -/
def writtenFloat (x : Binary64) : String :=
  if x.isNaN then "NaN"
  else if x.isInfinite then (if x.isNegative then "-Infinity" else "Infinity")
  else x.text

mutual

/-- The value with the fields of every object sorted by name. -/
def sorted : Json → Json
  | .arr items => .arr (sortedItems items)
  | .obj fields => .obj (sortedFields fields)
  | value => value

/-- The items of a list, each sorted. -/
def sortedItems : List Json → List Json
  | [] => []
  | item :: rest => sorted item :: sortedItems rest

/-- The fields of an object, sorted. -/
def sortedFields : List (String × Json) → List (String × Json)
  | [] => []
  | (key, value) :: rest => insertSorted (key, sorted value) (sortedFields rest)

end

mutual

/-- The value on one line, fields in their own order, with a gap behind every comma and colon. -/
def line (gap : String) : Json → String
  | .null => "null"
  | .bool b => if b then "true" else "false"
  | .int n => toString n
  | .float x => writtenFloat x
  | .str s => writtenText s
  | .arr items => "[" ++ lineItems gap items ++ "]"
  | .obj fields => "\x7b" ++ lineFields gap fields ++ "\x7d"

/-- The items of a list on one line. -/
def lineItems (gap : String) : List Json → String
  | [] => ""
  | [item] => line gap item
  | item :: rest => line gap item ++ "," ++ gap ++ lineItems gap rest

/-- The fields of an object on one line. -/
def lineFields (gap : String) : List (String × Json) → String
  | [] => ""
  | [(key, value)] => writtenText key ++ ":" ++ gap ++ line gap value
  | (key, value) :: rest =>
    writtenText key ++ ":" ++ gap ++ line gap value ++ "," ++ gap ++ lineFields gap rest

end

/-- The value on one line, fields sorted by name. -/
def compact (value : Json) : String := line "" (sorted value)

/-- The value on one line, with a blank behind every comma and colon. -/
def spaced (value : Json) : String := line " " value

/-- A line break followed by the indentation of a level. -/
def newLine (level : Nat) : String := String.ofList ('\n' :: List.replicate (2 * level) ' ')

mutual

/-- The value as it stands at a level of indentation. -/
def indentedAt (level : Nat) : Json → String
  | .arr [] => "[]"
  | .arr (item :: rest) =>
    "[" ++ indentedItems (level + 1) (item :: rest) ++ newLine level ++ "]"
  | .obj [] => "\x7b\x7d"
  | .obj (field :: rest) =>
    "\x7b" ++ indentedFields (level + 1) (field :: rest) ++ newLine level ++ "\x7d"
  | .null => "null"
  | .bool b => if b then "true" else "false"
  | .int n => toString n
  | .float x => writtenFloat x
  | .str s => writtenText s

/-- The items of a list, each on a line of its own. -/
def indentedItems (level : Nat) : List Json → String
  | [] => ""
  | [item] => newLine level ++ indentedAt level item
  | item :: rest => newLine level ++ indentedAt level item ++ "," ++ indentedItems level rest

/-- The fields of an object, each on a line of its own. -/
def indentedFields (level : Nat) : List (String × Json) → String
  | [] => ""
  | [(key, value)] => newLine level ++ writtenText key ++ ": " ++ indentedAt level value
  | (key, value) :: rest =>
    newLine level ++ writtenText key ++ ": " ++ indentedAt level value ++ "," ++
      indentedFields level rest

end

/-- The value over several lines. -/
def indented (value : Json) : String := indentedAt 0 value

end ChangeImpact.Json

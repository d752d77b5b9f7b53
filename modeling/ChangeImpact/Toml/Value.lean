import ChangeImpact.Json.Display
import ChangeImpact.Toml.Moment

/-!
# Values of configuration files

What a configuration file says of a key: a `Toml.Value` is a JSON value or a moment, and
lists and tables of them.  `Value.toJson` shows a moment as its text.
-/

namespace ChangeImpact.Toml

/-- A value of a configuration file. -/
inductive Value where
  | null
  | truth (b : Bool)
  | whole (n : Int)
  | number (x : Binary64)
  | text (s : String)
  | moment (m : Moment)
  | list (items : List Value)
  | table (fields : List (String × Value))
deriving Inhabited

namespace Value

mutual

/-- A JSON value as a value of a file. -/
def ofJson : Json → Value
  | .null => .null
  | .bool b => .truth b
  | .int n => .whole n
  | .float x => .number x
  | .str s => .text s
  | .arr items => .list (ofItems items)
  | .obj fields => .table (ofFields fields)

/-- The items of a list as values of a file. -/
def ofItems : List Json → List Value
  | [] => []
  | item :: rest => ofJson item :: ofItems rest

/-- The fields of an object as fields of a table. -/
def ofFields : List (String × Json) → List (String × Value)
  | [] => []
  | (key, value) :: rest => (key, ofJson value) :: ofFields rest

end

mutual

/-- A value of a file as a JSON value. -/
def toJson : Value → Json
  | .null => .null
  | .truth b => .bool b
  | .whole n => .int n
  | .number x => .float x
  | .text s => .str s
  | .moment m => .str m.text
  | .list items => .arr (toItems items)
  | .table fields => .obj (toFields fields)

/-- The items of a list as JSON values. -/
def toItems : List Value → List Json
  | [] => []
  | item :: rest => toJson item :: toItems rest

/-- The fields of a table as fields of an object. -/
def toFields : List (String × Value) → List (String × Json)
  | [] => []
  | (key, value) :: rest => (key, toJson value) :: toFields rest

end

mutual

/-- A value as a message quotes it. -/
def quotation : Value → String
  | .moment m => m.quotation
  | .list items => "[" ++ quotationItems items ++ "]"
  | .table fields => "\x7b" ++ quotationFields fields ++ "\x7d"
  | .null => Json.quotation .null
  | .truth b => Json.quotation (.bool b)
  | .whole n => Json.quotation (.int n)
  | .number x => Json.quotation (.float x)
  | .text s => Json.quotation (.str s)

/-- The quoted items of a list, with commas between them. -/
def quotationItems : List Value → String
  | [] => ""
  | [item] => quotation item
  | item :: rest => quotation item ++ ", " ++ quotationItems rest

/-- The quoted fields of a table, with commas between them. -/
def quotationFields : List (String × Value) → String
  | [] => ""
  | [(key, value)] => Text.quoted key ++ ": " ++ quotation value
  | (key, value) :: rest =>
    Text.quoted key ++ ": " ++ quotation value ++ ", " ++ quotationFields rest

end

/-- A value as it stands inside a text. -/
def display : Value → String
  | .text s => s
  | .moment m => m.text
  | value => value.quotation

/-- What a value yields one by one: the items of a list, the characters of a text, the keys
of a table. -/
def elements : Value → Checked (List Value)
  | .list items => .ok items
  | .text s => .ok (s.toList.map fun c => .text (String.singleton c))
  | .table fields => .ok (fields.map fun field => .text field.1)
  | _ => .error .wrongType

end Value

end ChangeImpact.Toml

import ChangeImpact.Json.Basic
import ChangeImpact.Decimal.Shortest
import ChangeImpact.Text.Quoted

/-!
# Values inside messages

A message shows a value either as it is (`display`) or quoted (`quotation`).  The two
differ for texts alone: one stands bare, the other in quotes with its escapes.  Null is
`None`, truth values are capitalised, lists and objects show their parts quoted.
-/

namespace ChangeImpact.Json

mutual

/-- A value as a message quotes it. -/
def quotation : Json → String
  | .null => "None"
  | .bool b => if b then "True" else "False"
  | .int n => toString n
  | .float x => x.text
  | .str s => Text.quoted s
  | .arr items => "[" ++ quotationItems items ++ "]"
  | .obj fields => "\x7b" ++ quotationFields fields ++ "\x7d"

/-- The quoted items of a list, with commas between them. -/
def quotationItems : List Json → String
  | [] => ""
  | [item] => quotation item
  | item :: rest => quotation item ++ ", " ++ quotationItems rest

/-- The quoted fields of an object, with commas between them. -/
def quotationFields : List (String × Json) → String
  | [] => ""
  | [(key, value)] => Text.quoted key ++ ": " ++ quotation value
  | (key, value) :: rest =>
    Text.quoted key ++ ": " ++ quotation value ++ ", " ++ quotationFields rest

end

/-- A value as it stands inside a text. -/
def display : Json → String
  | .str s => s
  | value => quotation value

@[simp] theorem display_str (s : String) : display (.str s) = s := rfl

end ChangeImpact.Json

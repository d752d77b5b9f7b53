import ChangeImpact.Fault
import ChangeImpact.Text.Blank
import ChangeImpact.Text.Scan
import ChangeImpact.Text.Word
import ChangeImpact.Vocabulary

/-!
# Mentions

A text mentions an entity as `[[type:id]]`, with blanks allowed around both parts.  The
type is made of small letters and underscores and has to be one of `entityTypes`; the id
is anything without a closing bracket.  Every entity counts once, where it is first
mentioned.

`inText` is the operation `extract_mentions`.
-/

namespace ChangeImpact

/-- An entity that references may join: its type and its id. -/
structure EntityKey where
  type : String
  id : String
deriving DecidableEq, Inhabited

namespace Mention

open Text

/-- A character of an entity's type. -/
def isTypeChar (c : Char) : Bool := isAsciiLower c || c == '_'

/-- The id at the start of a text, its trailing blanks left out, and the text after the
two brackets that close it. -/
def idOf? (cs : List Char) : Option (List Char × List Char) :=
  match cs.dropWhile (· != ']') with
  | ']' :: ']' :: after =>
    match trimChars (cs.takeWhile (· != ']')) with
    | [] => none
    | id => some (id, after)
  | _ => none

/-- A mention at the start of a text, of any type. -/
def mention : Matcher EntityKey := fun _ cs =>
  match cs with
  | '[' :: '[' :: rest =>
    let start := rest.dropWhile isBlank
    let type := start.takeWhile isTypeChar
    match type, (start.drop type.length).dropWhile isBlank with
    | _ :: _, ':' :: inside =>
      (idOf? inside).map fun (id, after) =>
        (⟨String.ofList type, String.ofList id⟩, cs.length - after.length)
    | _, _ => none
  | _ => none

/-- The entities that a text mentions, each once. -/
def inChars (text : List Char) : List EntityKey :=
  ((findAll mention text).filter fun key => entityTypes.contains key.type).eraseDups

/-- The entities that a text mentions, each once. -/
def inText (text : String) : List EntityKey := inChars text.toList

/-- The entities that a value mentions, which has to be a text unless it is empty. -/
def ofName (text : Name) : Checked (List EntityKey) :=
  match text with
  | .str s => .ok (inText s)
  | _ => if text.truthy then .error .wrongType else .ok []

end Mention

end ChangeImpact

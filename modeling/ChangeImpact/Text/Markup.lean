import ChangeImpact.Text.Scan
import ChangeImpact.Text.Word

/-!
# Console markup

Console output is marked up by tags in brackets, such as `[bold]`.  A text that is to be
shown as it is gets a backslash before everything in it that could be a tag.
-/

namespace ChangeImpact.Text

/-- A character that a tag can begin with. -/
def startsTag (c : Char) : Bool := isAsciiLower c || c == '#' || c == '/' || c == '@'

/-- The tag at the start of a text. -/
def tag? (cs : List Char) : Option (List Char) :=
  match cs with
  | '[' :: c :: rest =>
    let body := rest.takeWhile fun c => c != '[' && c != ']'
    if startsTag c && (rest.drop body.length).head? == some ']' then
      some ('[' :: c :: body ++ [']'])
    else none
  | _ => none

/-- A tag with the backslashes before it: these are doubled, and one more is added. -/
def escapedTag : Matcher (List Char) := fun _ cs =>
  let slashes := cs.takeWhile (· == '\\')
  (tag? (cs.drop slashes.length)).map fun tag =>
    (slashes ++ slashes ++ '\\' :: tag, slashes.length + tag.length)

/-- A text in which nothing is a tag; a single backslash at the end is doubled. -/
def escapeMarkup (s : String) : String :=
  let escaped := substituteAll escapedTag s.toList
  let trailing := (escaped.reverse.takeWhile (· == '\\')).length
  String.ofList (if trailing = 1 then escaped ++ ['\\'] else escaped)

/-- A tag, or a bracket behind a backslash, with what is shown of it. -/
def shownTag : Matcher (List Char) := fun _ cs =>
  match cs with
  | '\\' :: '[' :: _ => some (['['], 2)
  | _ => (tag? cs).map fun tag => ([], tag.length)

/-- What is shown of a marked-up text: all but its tags. -/
def withoutMarkup (s : String) : String := String.ofList (substituteAll shownTag s.toList)

end ChangeImpact.Text

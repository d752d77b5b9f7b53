import ChangeImpact.Fault
import ChangeImpact.Text.Blank
import ChangeImpact.Text.Case
import ChangeImpact.Text.Search

/-!
# Module names of entities

An entity such as `OrderItem` usually lives in a module named `order-item`.  The name is made in
passes over the text: a hyphen is put before each capitalised part of a word, everything is
lower-cased, one hyphen takes the place of every run of blanks and underscores, and then of every
run of hyphens, and those at the ends are dropped.

`ofName` is the operation `entity_to_module_name`.
-/

namespace ChangeImpact.ModuleName

open Text

/-- Whether a part of a word ends after `a`, given the two characters that follow: small
letter or digit before capital, or the last capital of a run that starts the next part. -/
def partEnds (a b : Char) (next : Option Char) : Bool :=
  isAsciiUpper b &&
    (isAsciiLower a || ('0' ≤ a && a ≤ '9') || (isAsciiUpper a && (next.map isAsciiLower).getD false))

/-- The text with a hyphen between the parts of its words. -/
def hyphenated : List Char → List Char
  | [] => []
  | a :: rest =>
    match rest with
    | b :: after => if partEnds a b after.head? then a :: '-' :: hyphenated rest else a :: hyphenated rest
    | [] => [a]

/-- The text with one hyphen in the place of every run of characters that satisfy `p`; it is put where
the run ends. -/
def hyphenFor (p : Char → Bool) : List Char → List Char
  | [] => []
  | c :: rest =>
    if p c then
      if (rest.head?.map p).getD false then hyphenFor p rest else '-' :: hyphenFor p rest
    else c :: hyphenFor p rest

/-- Blanks and underscores. -/
def isGap (c : Char) : Bool := isBlank c || c == '_'

/-- The module name that an entity suggests. -/
def ofChars (entity : List Char) : List Char :=
  let name := hyphenFor isGap (lowerChars (hyphenated (trimChars entity)))
  trimBy (· == '-') (hyphenFor (· == '-') name)

/-- The module name that an entity suggests. -/
def ofEntity (entity : String) : String := String.ofList (ofChars entity.toList)

/-- The module name that an entity suggests, which has to be a text. -/
def ofName (entity : Name) : Checked String := entity.needText.map ofEntity

end ChangeImpact.ModuleName

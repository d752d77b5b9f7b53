import ChangeImpact.Text.Case

/-!
# Words in any letter case

Looking for ASCII words without regard to letter case, as `matchesLetter` has it.
-/

namespace ChangeImpact.Text

/-- The rest of a text that starts with a word in any letter case. -/
def afterWord? : List Char → List Char → Option (List Char)
  | [], cs => some cs
  | _ :: _, [] => none
  | letter :: word, c :: cs => if matchesLetter letter c then afterWord? word cs else none

/-- The rest of a text that starts with one of some words in any letter case. -/
def afterAnyWord? (words : List String) (cs : List Char) : Option (List Char) :=
  words.findSome? fun word => afterWord? word.toList cs

/-- Whether one of some words occurs in the text in any letter case. -/
def containsAnyWord (words : List String) : List Char → Bool
  | [] => (afterAnyWord? words []).isSome
  | c :: cs => (afterAnyWord? words (c :: cs)).isSome || containsAnyWord words cs

end ChangeImpact.Text

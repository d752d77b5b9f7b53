/-!
# Scanning a text from left to right

A `Matcher` looks at one place of a text: it sees the character before it and the text
from there on, and says what it found and how many characters that takes up.  `findAll`
tries it at every place, going on behind each thing found, so that no two overlap.
-/

namespace ChangeImpact.Text

/-- What is found at a place, and its length; the arguments are the character before the
place, if there is one, and the text from there on. -/
abbrev Matcher (α : Type) := Option Char → List Char → Option (α × Nat)

/-- Everything that the matcher finds, with the first `skip` characters passed over. -/
def findAllFrom {α : Type} (m : Matcher α) : Option Char → Nat → List Char → List α
  | _, _, [] => []
  | _, skip + 1, c :: cs => findAllFrom m (some c) skip cs
  | before, 0, c :: cs =>
    match m before (c :: cs) with
    | some (a, length) => a :: findAllFrom m (some c) (length - 1) cs
    | none => findAllFrom m (some c) 0 cs

/-- Everything that the matcher finds in the text, from left to right. -/
def findAll {α : Type} (m : Matcher α) (cs : List Char) : List α := findAllFrom m none 0 cs

/-- Every place that the matcher accepts is replaced by what it found there. -/
def substituteFrom (m : Matcher (List Char)) : Option Char → Nat → List Char → List Char
  | _, _, [] => []
  | _, skip + 1, c :: cs => substituteFrom m (some c) skip cs
  | before, 0, c :: cs =>
    match m before (c :: cs) with
    | some (piece, length) => piece ++ substituteFrom m (some c) (length - 1) cs
    | none => c :: substituteFrom m (some c) 0 cs

/-- Every place that the matcher accepts is replaced by what it found there. -/
def substituteAll (m : Matcher (List Char)) (cs : List Char) : List Char := substituteFrom m none 0 cs

end ChangeImpact.Text

/-!
# Looking for one text inside another

`contains` finds a piece anywhere, `splitFirst` cuts at the first occurrence of a character,
`splitAll` at every one, and `cut` at the occurrences of a text.  All are recursions on the
list of characters of the text that is searched.
-/

namespace ChangeImpact.Text

/-- The rest of the text after a leading piece, if the text starts with it. -/
def afterStart? : List Char → List Char → Option (List Char)
  | [], cs => some cs
  | _ :: _, [] => none
  | p :: ps, c :: cs => if p == c then afterStart? ps cs else none

/-- Whether the text starts with the piece. -/
def startsWith (piece cs : List Char) : Bool := (afterStart? piece cs).isSome

/-- Whether the text ends with the piece. -/
def endsWith (piece cs : List Char) : Bool := startsWith piece.reverse cs.reverse

/-- Whether the piece occurs in the text. -/
def containsChars (piece : List Char) : List Char → Bool
  | [] => piece.isEmpty
  | c :: cs => startsWith piece (c :: cs) || containsChars piece cs

/-- Whether the piece occurs in the text. -/
def contains (piece text : String) : Bool := containsChars piece.toList text.toList

/-- Every occurrence of one character replaced by a text. -/
def replaceChar (old : Char) (new : List Char) (cs : List Char) : List Char :=
  cs.flatMap fun c => if c == old then new else [c]

/-- What stands before the first occurrence of a character, and what stands after it. -/
def splitFirst (sep : Char) : List Char → List Char × Option (List Char)
  | [] => ([], none)
  | c :: cs =>
    if c == sep then ([], some cs)
    else
      let (before, after) := splitFirst sep cs
      (c :: before, after)

/-- The pieces between the occurrences of a character; at least one. -/
def splitAll (sep : Char) : List Char → List (List Char)
  | [] => [[]]
  | c :: cs =>
    if c == sep then [] :: splitAll sep cs
    else
      match splitAll sep cs with
      | [] => [[c]]
      | piece :: rest => (c :: piece) :: rest

/-- The pieces of a text, cut from left to right where a separator occurs, at most `most`
times.  The first `skip` characters belong to a separator, and `piece` is what has been met
of the first piece, last character first. -/
def cutFrom (sep : List Char) : Nat → Nat → List Char → List Char → List (List Char)
  | _, _, piece, [] => [piece.reverse]
  | most, skip + 1, piece, _ :: cs => cutFrom sep most skip piece cs
  | 0, 0, piece, c :: cs => cutFrom sep 0 0 (c :: piece) cs
  | most + 1, 0, piece, c :: cs =>
    if startsWith sep (c :: cs) then piece.reverse :: cutFrom sep most (sep.length - 1) [] cs
    else cutFrom sep (most + 1) 0 (c :: piece) cs

/-- The pieces between the first `most` occurrences of a separator. -/
def cut (sep : List Char) (most : Nat) (cs : List Char) : List (List Char) :=
  cutFrom sep most 0 [] cs

/-- The pieces between all occurrences of a separator. -/
def cutAll (sep : List Char) (cs : List Char) : List (List Char) := cut sep (cs.length + 1) cs

/-- The number of occurrences of a separator, none overlapping another. -/
def occurrences (sep cs : List Char) : Nat := (cutAll sep cs).length - 1

/-- The `count` characters from an index on, or as many as there are. -/
def slice (start count : Nat) (cs : List Char) : List Char := (cs.drop start).take count

/-- The text without its first and its last character. -/
def inside (cs : List Char) : List Char := (cs.drop 1).dropLast

/-- The number of times a character ends the text. -/
def trailing (c : Char) (cs : List Char) : Nat := (cs.reverse.takeWhile (· == c)).length

/-- The pieces with a separator between each two of them. -/
def joinWith (sep : List Char) : List (List Char) → List Char
  | [] => []
  | [piece] => piece
  | piece :: rest => piece ++ sep ++ joinWith sep rest

end ChangeImpact.Text

/-!
# Similar words

How alike two words are is measured by the characters that they share: the longest piece
that both contain, and again what is left and right of it in both.  `closest` picks the
words most like a given one.
-/

namespace ChangeImpact.Text

/-- The number of characters with which two texts begin alike. -/
def commonStart : List Char → List Char → Nat
  | a :: as, b :: bs => if a == b then commonStart as bs + 1 else 0
  | _, _ => 0

/-- A piece that two texts share: its length, and where it starts in each of them. -/
structure SharedPiece where
  length : Nat
  left : Nat
  right : Nat
deriving DecidableEq

/-- The longest piece that two texts share; the first one in the first text and then in the
second one, if there are several. -/
def longestShared (a b : List Char) : SharedPiece :=
  let starts := (List.range a.length).flatMap fun i => (List.range b.length).map fun j => (i, j)
  starts.foldl (fun best (i, j) =>
    let length := commonStart (a.drop i) (b.drop j)
    if best.length < length then ⟨length, i, j⟩ else best) ⟨0, 0, 0⟩

/-- The number of characters that two texts share; `fuel` bounds the number of pieces that
are cut off one another, and the length of either text suffices. -/
def sharedCount : Nat → List Char → List Char → Nat
  | 0, _, _ => 0
  | fuel + 1, a, b =>
    let piece := longestShared a b
    if piece.length = 0 then 0
    else
      sharedCount fuel (a.take piece.left) (b.take piece.right) + piece.length +
        sharedCount fuel (a.drop (piece.left + piece.length)) (b.drop (piece.right + piece.length))

/-- The share of characters that a word has in common with a given one. -/
def likeness (given word : String) : Rat :=
  let a := word.toList
  let b := given.toList
  if a.length + b.length = 0 then 1
  else ((2 * sharedCount a.length a b : Nat) : Rat) / ((a.length + b.length : Nat) : Rat)

/-- The least likeness of words that are close to one another. -/
def closeLikeness : Rat := 3 / 5

/-- Whether words of two lengths can be close: the shorter one bounds what they share. -/
def mayBeClose (m n : Nat) : Bool := closeLikeness * ((m + n : Nat) : Rat) ≤ ((2 * min m n : Nat) : Rat)

/-- The `count` words that are closest to a given one, the closest first. -/
def closest (count : Nat) (given : String) (words : List String) : List String :=
  let comparable := words.filter fun word => mayBeClose given.length word.length
  let close := (comparable.map fun word => (likeness given word, word)).filter fun rated =>
    closeLikeness ≤ rated.1
  let ordered := close.mergeSort fun a b => b.1 < a.1 || (a.1 == b.1 && decide (b.2 ≤ a.2))
  (ordered.take count).map Prod.snd

end ChangeImpact.Text

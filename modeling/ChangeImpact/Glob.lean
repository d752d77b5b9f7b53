/-!
# Path patterns

In a pattern `*` stands for any text, slashes included, `?` for any character and `[...]`
for one of a set, whose ranges are written with a hyphen and which a leading `!` negates.
A bracket that is not closed stands for itself.  Case counts.

In a set a hyphen makes a range with the character before and the one behind, except as
the first or last character or right after a range.  A range whose ends are in the wrong
order is empty; a set that is left without members accepts nothing, and negated it accepts
everything.
-/

namespace ChangeImpact.Glob

/-- One step of a pattern. -/
inductive Piece where
  | anyText
  | anyChar
  | literal (c : Char)
  | oneOf (negated : Bool) (ranges : List (Char × Char))
deriving DecidableEq

/-- The chunks of a set between the hyphens that make ranges.  `chunk` holds, in reverse,
the characters since the last such hyphen; the next one can make a range only once
`wait` more characters have gone by. -/
def chunksFrom (chunk : List Char) : Nat → List Char → List (List Char)
  | _, [] => [chunk.reverse]
  | 0, c :: cs => if c == '-' then chunk.reverse :: chunksFrom [] 2 cs else chunksFrom (c :: chunk) 0 cs
  | wait + 1, c :: cs => chunksFrom (c :: chunk) wait cs

/-- The chunks of a set; a hyphen at its end belongs to the last chunk. -/
def chunks (body : List Char) : List (List Char) :=
  let found := chunksFrom [] 1 body
  match found.reverse with
  | [] :: last :: rest => ((last ++ ['-']) :: rest).reverse
  | _ => found

/-- Drops the ranges between chunks whose ends are in the wrong order, from the last one
on, together with those ends. -/
def dropEmptyRanges : List (List Char) → List (List Char)
  | [] => []
  | chunk :: rest =>
    match chunk.getLast?, dropEmptyRanges rest with
    | some low, (high :: next) :: others =>
      if high < low then (chunk.dropLast ++ next) :: others else chunk :: (high :: next) :: others
    | _, others => chunk :: others

/-- The members of a set as ranges, singles among them. -/
def rangesOf : List (List Char) → List (Char × Char)
  | [] => []
  | [chunk] => chunk.map fun c => (c, c)
  | chunk :: next :: rest =>
    let joint :=
      match chunk.getLast?, next.head? with
      | some low, some high => [(low, high)]
      | _, _ => []
    chunk.map (fun c => (c, c)) ++ joint ++ rangesOf (next :: rest)

/-- The set with the given text between its brackets. -/
def setOf (inside : List Char) : Piece :=
  let (negated, body) :=
    match inside with
    | '!' :: body => (true, body)
    | _ => (false, inside)
  match negated, dropEmptyRanges (chunks body) with
  | false, ('!' :: chunk) :: rest => .oneOf true (rangesOf (chunk :: rest))
  | _, kept => .oneOf negated (rangesOf kept)

/-- The text between brackets and the text behind them, from after the opening bracket: a
closing bracket at the start, also behind `!`, is a member. -/
def bracketed? (cs : List Char) : Option (List Char × List Char) :=
  let (lead, rest) :=
    match cs with
    | '!' :: ']' :: rest => (['!', ']'], rest)
    | '!' :: rest => (['!'], rest)
    | ']' :: rest => ([']'], rest)
    | _ => ([], cs)
  match rest.dropWhile (· != ']') with
  | _ :: after => some (lead ++ rest.takeWhile (· != ']'), after)
  | [] => none

/-- The pieces of a pattern; `skip` characters belong to a set already read. -/
def piecesFrom : Nat → List Char → List Piece
  | _, [] => []
  | skip + 1, _ :: cs => piecesFrom skip cs
  | 0, c :: cs =>
    if c == '*' then .anyText :: piecesFrom 0 cs
    else if c == '?' then .anyChar :: piecesFrom 0 cs
    else if c == '[' then
      match bracketed? cs with
      | some (inside, _) => setOf inside :: piecesFrom (inside.length + 1) cs
      | none => .literal '[' :: piecesFrom 0 cs
    else .literal c :: piecesFrom 0 cs

/-- The pieces of a pattern. -/
def pieces (pattern : List Char) : List Piece := piecesFrom 0 pattern

/-- Whether a character is accepted where the piece stands for one. -/
def Piece.accepts (c : Char) : Piece → Bool
  | .anyText => false
  | .anyChar => true
  | .literal d => c == d
  | .oneOf negated ranges => (ranges.any fun range => range.1 ≤ c && c ≤ range.2) != negated

/-- Whether some end of the text, the whole or nothing included, satisfies `p`. -/
def anyEnd (p : List Char → Bool) : List Char → Bool
  | [] => p []
  | c :: cs => p (c :: cs) || anyEnd p cs

/-- Whether a text is what the pieces describe. -/
def matchPieces : List Piece → List Char → Bool
  | [], cs => cs.isEmpty
  | .anyText :: rest, cs => anyEnd (matchPieces rest) cs
  | piece :: rest, c :: cs => piece.accepts c && matchPieces rest cs
  | _ :: _, [] => false

/-- Which of the ends of a list of pieces, from the whole to nothing, accept the empty
text. -/
def acceptedAtEnd : List Piece → List Bool
  | [] => [true]
  | piece :: rest =>
    let row := acceptedAtEnd rest
    (piece == .anyText && row.headD false) :: row

/-- Which of the ends of a list of pieces accept a text that starts with a character, from
those that accept the text behind it. -/
def acceptedWith (c : Char) : List Piece → List Bool → List Bool
  | piece :: rest, here :: behind =>
    let row := acceptedWith c rest behind
    let accepted :=
      match piece with
      | .anyText => row.headD false || here
      | _ => piece.accepts c && behind.headD false
    accepted :: row
  | _, _ => [false]

/-- Whether a text matches a pattern.  The text is read once, from its end, and each
character costs one look at every piece. -/
def accepts (pattern text : List Char) : Bool :=
  let steps := pieces pattern
  (text.foldr (fun c row => acceptedWith c steps row) (acceptedAtEnd steps)).headD false

/-- Which of the ends of a list of pieces describe a text. -/
def endsMatching (steps : List Piece) (cs : List Char) : List Bool :=
  match steps with
  | [] => [matchPieces [] cs]
  | piece :: rest => matchPieces (piece :: rest) cs :: endsMatching rest cs

theorem headD_endsMatching (steps : List Piece) (cs : List Char) :
    (endsMatching steps cs).headD false = matchPieces steps cs := by
  cases steps <;> simp [endsMatching]

theorem acceptedAtEnd_eq (steps : List Piece) : acceptedAtEnd steps = endsMatching steps [] := by
  induction steps with
  | nil => simp [acceptedAtEnd, endsMatching, matchPieces]
  | cons piece rest ih =>
    simp only [acceptedAtEnd, endsMatching, ih, headD_endsMatching]
    cases piece <;> simp [matchPieces, anyEnd]

theorem acceptedWith_endsMatching (c : Char) (steps : List Piece) (cs : List Char) :
    acceptedWith c steps (endsMatching steps cs) = endsMatching steps (c :: cs) := by
  induction steps with
  | nil => simp [acceptedWith, endsMatching, matchPieces]
  | cons piece rest ih =>
    simp only [acceptedWith, endsMatching, ih, headD_endsMatching]
    cases piece <;> simp [matchPieces, anyEnd]

/-- Reading the text once gives what the pieces describe. -/
theorem accepts_eq_matchPieces (pattern text : List Char) :
    accepts pattern text = matchPieces (pieces pattern) text := by
  have row : ∀ cs : List Char,
      cs.foldr (fun c row => acceptedWith c (pieces pattern) row) (acceptedAtEnd (pieces pattern)) =
        endsMatching (pieces pattern) cs := by
    intro cs
    induction cs with
    | nil => exact acceptedAtEnd_eq _
    | cons c cs ih => simp only [List.foldr_cons, ih, acceptedWith_endsMatching]
  simp only [accepts, row, headD_endsMatching]

end ChangeImpact.Glob

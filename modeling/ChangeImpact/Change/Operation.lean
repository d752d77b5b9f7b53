import ChangeImpact.Change.Basic
import ChangeImpact.Text.Blank
import ChangeImpact.Text.Folded
import ChangeImpact.Text.Scan
import ChangeImpact.Text.Search

/-!
# Operations in a text

A verb such as `add` or `remove`, followed by a phrase up to the next point, comma or end
of the text, asks for an operation of the verb's type on what the phrase names.  The
phrase lies on one line.  `new` asks for the addition of the word after it.  Targets that
differ in letter case only count once, for the first type that claims them.

A text without any such clause still asks for something if one of the words of
`cueWords` occurs in it.

`inText` is the operation `_detect_operations`, and `suggested?` is `_infer_operation`.
-/

namespace ChangeImpact.Operation

open Text

/-- What asks for an operation: some verbs with a phrase, or `new` with a word. -/
inductive Clause where
  | verbs (words : List String)
  | afterNew

/-- The clauses that ask for operations, type by type. -/
def clauses : List (OperationType × List Clause) :=
  [(.add, [.verbs ["add", "create", "implement", "introduce", "build", "develop"], .afterNew]),
    (.modify, [.verbs ["update", "modify", "change", "edit", "alter", "adjust", "enhance", "improve"],
      .verbs ["fix", "patch", "correct"]]),
    (.delete, [.verbs ["delete", "remove", "drop", "eliminate", "deprecate"]]),
    (.refactor, [.verbs ["refactor", "restructure", "reorganize", "optimize", "simplify"],
      .verbs ["move", "extract", "split", "merge", "consolidate"]]),
    (.migrate, [.verbs ["migrate", "upgrade", "convert", "transform"]])]

/-- The words whose occurrence suggests an operation where no clause asks for one. -/
def cueWords : List (OperationType × List String) :=
  [(.add, ["add", "create", "implement", "introduce", "build", "develop", "new", "feature"]),
    (.modify, ["update", "modify", "change", "edit", "alter", "adjust", "enhance", "improve", "fix",
      "patch"]),
    (.delete, ["delete", "remove", "drop", "eliminate", "deprecate", "clean"]),
    (.refactor, ["refactor", "restructure", "reorganize", "optimize", "simplify", "move", "extract",
      "split", "merge"]),
    (.migrate, ["migrate", "migration", "upgrade", "convert", "transform", "schema"])]

/-- Whether a place is the start of a word, given the character before it. -/
def startsWord (before : Option Char) : Bool := !(before.map isWord).getD false

/-- Where a phrase ends: at a point, a comma or the end of the text, a last line break not
counted.  The number says how much of that belongs to the clause. -/
def phraseEnd? : List Char → Option Nat
  | [] | ['\n'] => some 0
  | c :: _ => if c == '.' || c == ',' then some 1 else none

/-- The rest of a phrase of which one character has been read, and the length of its end;
`none` if the line breaks off first. -/
def phraseRest? : List Char → Option (List Char × Nat)
  | [] => some ([], 0)
  | c :: cs =>
    match phraseEnd? (c :: cs) with
    | some n => some ([], n)
    | none =>
      if c == '\n' then none
      else (phraseRest? cs).map fun (rest, n) => (c :: rest, n)

/-- The phrase at the start of a text and the length of its end. -/
def phrase? : List Char → Option (List Char × Nat)
  | [] => none
  | c :: cs =>
    if c == '\n' then none
    else (phraseRest? cs).map fun (rest, n) => (c :: rest, n)

/-- The phrase behind blanks: as many of them as possible stay outside it, and at least
one.  Also gives the length of everything. -/
def phraseAfterBlanks? (cs : List Char) : Nat → Option (List Char × Nat)
  | 0 => none
  | blanks + 1 =>
    match phrase? (cs.drop (blanks + 1)) with
    | some (phrase, n) => some (phrase, blanks + 1 + phrase.length + n)
    | none => phraseAfterBlanks? cs blanks

/-- The target of a clause that starts here, and the clause's length. -/
def clauseTarget (clause : Clause) : Matcher (List Char) := fun before cs =>
  if !startsWord before then none
  else
    match clause with
    | .verbs words =>
      words.findSome? fun word =>
        match afterWord? word.toList cs with
        | none => none
        | some rest =>
          -- blanks are given back one by one until a phrase can begin
          (phraseAfterBlanks? rest (rest.takeWhile isBlank).length).map fun (phrase, n) =>
            (phrase, cs.length - rest.length + n)
    | .afterNew =>
      match afterWord? "new".toList cs with
      | none => none
      | some rest =>
        let word := rest.dropWhile isBlank
        if (rest.head?.map isBlank).getD false && (word.head?.map isWord).getD false then
          some (word.takeWhile isWord, cs.length - (word.dropWhile isWord).length)
        else none

/-- A clause found in a text: its target and its whole wording, both trimmed. -/
def clauseOperation (type : OperationType) (clause : Clause) : Matcher Operation :=
  fun before cs =>
    (clauseTarget clause before cs).map fun (target, length) =>
      ({ type := type, target := String.ofList (trimChars target),
         description := String.ofList (trimChars (cs.take length)) }, length)

/-- The operations that clauses of a text ask for, type by type and clause by clause. -/
def requested (text : List Char) : List Operation :=
  clauses.flatMap fun (type, kinds) =>
    kinds.flatMap fun clause => findAll (clauseOperation type clause) text

/-- The operations with targets longer than two characters, each target once in any letter
case; `seen` are the targets met before. -/
def distinctTargets (seen : List String) : List Operation → List Operation
  | [] => []
  | op :: rest =>
    let key := lower op.target
    if 2 < op.target.length && !seen.contains key then op :: distinctTargets (key :: seen) rest
    else distinctTargets seen rest

/-- The target of an operation that a word merely suggests. -/
def inferredTarget : String := "inferred"

/-- The operation that a cue word of a lower-cased text suggests. -/
def suggested? (lowered : List Char) : Option Operation :=
  cueWords.findSome? fun (type, words) =>
    (words.find? fun word => containsChars word.toList lowered).map fun word =>
      { type, target := inferredTarget,
        description := s!"Inferred {Vocabulary.name type} operation from keyword \"{word}\"" }

/-- The operations that a text asks for, or else the one that it suggests. -/
def inText (text : List Char) : List Operation :=
  match distinctTargets [] (requested text) with
  | [] => (suggested? (lowerChars text)).toList
  | operations => operations

end ChangeImpact.Operation

import ChangeImpact.Text.Blank
import ChangeImpact.Text.Case
import ChangeImpact.Text.Scan

/-!
# Keywords of a text

Keywords are the runs of small letters, digits, `_` and `-` in the lower-cased text, and
after them the parts of words in mixed case.  They have at least three characters, are no
stop words and count once.

`inText` is the operation `_extract_keywords`.
-/

namespace ChangeImpact.Keyword

open Text

/-- Words that say nothing about a change. -/
def stopWords : List String :=
  ["the", "a", "an", "and", "or", "but", "in", "on", "at", "to", "for",
    "of", "with", "by", "from", "as", "is", "was", "are", "were", "been",
    "be", "have", "has", "had", "do", "does", "did", "will", "would", "could",
    "should", "may", "might", "must", "shall", "can", "need", "it", "its",
    "this", "that", "these", "those", "then", "than", "so", "if", "when",
    "where", "how", "what", "which", "who", "whom", "whose"]

/-- A character that keywords are made of. -/
def isKeywordChar (c : Char) : Bool :=
  isAsciiLower c || ('0' ≤ c && c ≤ '9') || c == '_' || c == '-'

/-- A part of a word in mixed case: small letters before a capital, or a capital with the
small letters after it. -/
def mixedPart : Matcher (List Char) := fun _ cs =>
  match cs with
  | [] => none
  | c :: rest =>
    if isAsciiLower c then
      let run := cs.takeWhile isAsciiLower
      if ((cs.drop run.length).head?.map isAsciiUpper).getD false then some (run, run.length)
      else none
    else if isAsciiUpper c then
      match rest.takeWhile isAsciiLower with
      | [] => none
      | run => some (c :: run, run.length + 1)
    else none

/-- The words of which keywords are chosen, in order. -/
def candidates (text : List Char) : List String :=
  ((runs isKeywordChar (lowerChars text)) ++ (findAll mixedPart text).map (·.map Char.toLower)).map
    String.ofList

/-- Whether a word counts as a keyword. -/
def isKeyword (word : String) : Bool := 2 < word.length && !stopWords.contains word

/-- The keywords of a text, each once. -/
def inText (text : List Char) : List String := ((candidates text).filter isKeyword).eraseDups

end ChangeImpact.Keyword

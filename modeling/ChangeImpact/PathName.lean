import ChangeImpact.Text.Search

/-!
# Names of files

A path is a text with slashes.  Its components are the pieces between them, without
empty ones and single points; the last component is the file's name, which falls into a
stem and a suffix at its last point.
-/

namespace ChangeImpact.PathName

/-- The components of a path. -/
def components (path : List Char) : List (List Char) :=
  (Text.splitAll '/' path).filter fun piece => piece != [] && piece != ['.']

/-- The last component of a path; empty if there is none. -/
def fileName (path : List Char) : List Char := (components path).getLastD []

/-- The place of the last point that separates a suffix: neither the first nor the last
character. -/
def suffixStart? (name : List Char) : Option Nat :=
  match (name.reverse.findIdx? (· == '.')) with
  | none => none
  | some fromEnd =>
    let i := name.length - 1 - fromEnd
    if 0 < i && 0 < fromEnd then some i else none

/-- The suffix of a file's name, with its point. -/
def suffix (name : List Char) : List Char :=
  match suffixStart? name with
  | some i => name.drop i
  | none => []

/-- A file's name without its suffix. -/
def stem (name : List Char) : List Char :=
  match suffixStart? name with
  | some i => name.take i
  | none => name

/-- The path with slashes where it has backslashes. -/
def withSlashes (path : List Char) : List Char := path.map fun c => if c == '\\' then '/' else c

/-- The path without any leading `./`. -/
def dropHere : List Char → List Char
  | '.' :: '/' :: rest => dropHere rest
  | path => path

/-- The spelling under which paths are compared: slashes only, and no leading `./`. -/
def normal (path : List Char) : List Char := dropHere (withSlashes path)

/-- What follows the last slash of a text. -/
def afterLastSlash (path : List Char) : List Char :=
  (path.reverse.takeWhile (· != '/')).reverse

/-- A path as it is written back: components joined by slashes, from the root if it began
there, and a point for the empty path. -/
def spelled (path : List Char) : List Char :=
  let joined := Text.joinWith ['/'] (components path)
  match path with
  | '/' :: '/' :: '/' :: _ => '/' :: joined
  | '/' :: '/' :: _ => '/' :: '/' :: joined
  | '/' :: _ => '/' :: joined
  | _ => if joined.isEmpty then ['.'] else joined

end ChangeImpact.PathName

/-!
# Line breaks

A text file may end its lines with a line feed, a carriage return or both; as a text it has
line feeds only.
-/

namespace ChangeImpact.Text

/-- The text with a line feed for every line break. -/
def withLineFeeds : List Char → List Char
  | [] => []
  | '\r' :: '\n' :: rest => '\n' :: withLineFeeds rest
  | c :: rest => (if c == '\r' then '\n' else c) :: withLineFeeds rest

end ChangeImpact.Text

import ChangeImpact.Text.Blank
import ChangeImpact.Text.Case
import ChangeImpact.Toml.Escape
import ChangeImpact.Toml.Value

/-!
# Entries of configuration files

An entry is a key, a sign of equality and a value.  Values are truth values, texts in quotes
of either kind, moments, numbers, lists of values of one kind, and inline tables of entries.

The text of a list or of an inline table is cut at its commas first; pieces that are no
complete values are joined again where the rules below find that out, so that a comma inside a
text of a list usually does no harm, and one inside a text of an inline table often does.

Values inside each other use up `room`; one that is nested too deeply is a fault of its own.
-/

namespace ChangeImpact.Toml

/-- The kinds of value that a list must not mix. -/
inductive Kind where
  | truth | text | list | table | clock | moment | whole | number
deriving DecidableEq

/-- The calls inside each other that reading a value may take. -/
def maxRoom : Nat := 985

/-! ## Looking at the text of an entry -/

/-- Goes on joining the pieces between single quotes with those between double ones, as long as
the single quotes do not come in pairs. -/
def pairSingles : List (List Char) → List (List Char) → List (List Char) × List (List Char)
  | singles, [] => (singles, [])
  | singles, double :: doubles =>
    if singles.length % 2 = 0 then
      let last := singles.getLastD [] ++ '"' :: double
      pairSingles (singles.dropLast ++ Text.splitAll '\'' last) doubles
    else (singles, double :: doubles)

/-- The pieces of a text between its quotes, by turns outside and inside of them. -/
def quotePieces (cs : List Char) : List (List Char) :=
  let (start, doubles) :=
    match Text.splitAll '"' cs with
    | first :: rest =>
      if !rest.isEmpty && first.contains '\'' then pairSingles (Text.splitAll '\'' first) rest
      else ([], first :: rest)
    | [] => ([], [])
  match doubles with
  | [] => start
  | first :: rest => start ++ Text.splitAll '\'' first ++ rest

/-- The number of a separator's occurrences up to and with the first one outside of quotes. -/
def outsideQuotes (sep : List Char) (cs : List Char) : Nat :=
  count false (quotePieces cs)
where
  /-- Counts them piece by piece. -/
  count : Bool → List (List Char) → Nat
    | _, [] => 1
    | quoted, piece :: pieces =>
      if !quoted && Text.containsChars sep piece then 1
      else Text.occurrences sep piece + count (!quoted) pieces

/-- Whether the zeros and underscores of a text are where those of a number may be. -/
def isStrictNumber (cs : List Char) : Bool :=
  match Text.trimChars cs with
  | [] => false
  | ['_'] => false
  | [_] => true
  | first :: second :: rest =>
    let body := first :: second :: rest
    let edges := first != '_' && body.getLast? != some '_' &&
      !Text.containsChars ['_', '.'] body && !Text.containsChars ['.', '_'] body
    let signed := first == '+' || first == '-'
    let leading :=
      if first == '0' then ['.', 'o', 'b', 'x'].contains second
      else if signed then
        match second :: rest with
        | '0' :: third :: _ => third == '.'
        | _ => true
      else true
    edges && leading && !Text.containsChars ['_', '_'] body

/-- Whether a value may stand right behind the sign of equality: it is empty, quoted,
bracketed, a truth value, a number in base ten or a moment. -/
def mayFollowSign (cs : List Char) : Checked Bool := do
  match cs with
  | [] => return true
  | c :: _ =>
    let word := Text.trimChars cs
    if [' ', '\t', '\'', '"', '[', '{'].contains c || word = "true".toList || word = "false".toList ||
        (Numeral.readFloat (String.ofList cs)).isOk then return true
    else return (← Moment.read? cs).isSome || (clockParts? cs).isSome

/-- Moves the sign of equality that ends the key to the right until a value may follow it.
`cuts` is its number and `strict` whether the value was a strict number all the time; the
answer are the pieces of the key, the value, and whether it still is one. -/
def splitFrom (line : List Char) : Nat → Nat → List (List Char) → List Char → Bool →
    Checked (List (List Char) × List Char × Bool)
  | 0, _, _, _, _ => .error .malformedSettings
  | fuel + 1, cuts, key, value, strict => do
    if ← mayFollowSign value then return (key, value, strict)
    let pieces := Text.cut ['='] (cuts + 1) line
    let next := pieces.getLastD []
    guardThat (next ≠ value) .malformedSettings
    splitFrom line fuel (cuts + 1) pieces.dropLast next (strict && isStrictNumber next)

/-- The key and the value of an entry, and whether the value is a strict number. -/
def splitEntry (line : List Char) : Checked (List Char × List Char × Bool) := do
  let cuts := outsideQuotes ['='] line
  let pieces := Text.cut ['='] cuts line
  let value := pieces.getLastD []
  let plain := if (value.head?.map Char.isDigit).getD false then value.filter (· != '_') else value
  let (key, value, strict) ←
    splitFrom line (line.length + 2) cuts pieces.dropLast plain (isStrictNumber value)
  return (Text.trimChars (Text.joinWith ['='] key), Text.trimChars value, strict)

/-- The names in a key with points: those of the tables around the entry, and its own. -/
def splitKey (key : List Char) : Checked (List (List Char) × List Char) := do
  let names :=
    if key.contains '"' || key.contains '\'' then outside (quotePieces key)
    else Text.splitAll '.' key
  match (names.reverse.dropWhile List.isEmpty) with
  | [] => throw .noSuchPlace
  | last :: around => return (around.reverse.filter (!·.isEmpty), Text.trimChars last)
where
  /-- The names in a piece outside of quotes, followed by a piece inside of them. -/
  outside : List (List Char) → List (List Char)
    | [] => []
    | piece :: rest => (Text.splitAll '.' piece).map Text.trimChars ++ inside rest
  /-- A piece inside of quotes, which is a name, followed by one outside of them. -/
  inside : List (List Char) → List (List Char)
    | [] => []
    | piece :: rest => piece :: outside rest

/-- The names of the tables around an entry, and its own. -/
def readName (key : List Char) : Checked (List String × String) := do
  if key.contains '.' then
    let (around, name) ← splitKey key
    return (around.map String.ofList, String.ofList name)
  match key with
  | [] => throw .noSuchPlace
  | first :: _ =>
    if (first == '"' || first == '\'') && key.getLast? = some first then
      return ([], String.ofList (← withLetters (Text.inside key)))
    else return ([], String.ofList key)

/-! ## Texts of several lines -/

/-- A text of several lines that is open at the end of its first one. -/
structure OpenText where
  key : String
  text : List Char
  /-- Whether a backslash at the end of the line joins it with the next one. -/
  joined : Bool
deriving DecidableEq

/-- The first characters of a list whose first item is a text. -/
def isTextList (cs : List Char) : Bool :=
  match Text.trimChars (Text.inside cs) with
  | c :: _ => c == '"' || c == '\''
  | [] => false

/-- The last piece of an open list that begins with a quote: pieces without one are joined with
the piece before. -/
def lastText : List (List Char) → Checked (List Char)
  | [] => .ok []
  | [piece] => .ok piece
  | piece :: before :: rest =>
    match piece with
    | [] => .error .noSuchPlace
    | c :: _ =>
      if c == '"' || c == '\'' then .ok piece else lastText ((before ++ ',' :: piece) :: rest)
  termination_by pieces => pieces.length

/-- Whether a value is a text of several lines that its line does not close, or a list that
ends in one. -/
def staysOpen (value : List Char) : Checked Bool := do
  if value.length < 3 then return false
  let value ←
    if value.head? = some '[' && value.getLast? != some ']' && isTextList value then
      lastText (Text.splitAll ',' (Text.trimChars (value.drop 1))).reverse
    else pure value
  match value with
  | [] => throw .noSuchPlace
  | first :: rest =>
    if first != '"' && first != '\'' then return false
    match rest with
    | [] => throw .noSuchPlace
    | second :: rest =>
      if second != first then return false
      match rest with
      | [] => throw .noSuchPlace
      | third :: rest =>
        if third != first then return false
        -- three quotes were opened; the text stays open unless it ends with three more
        return !(3 ≤ rest.length && Text.trailing first rest ≥ 3)

/-- A text with what its last backslashes make of the line break behind it: it is left out
behind an odd number of them. -/
def withBreak (text : List Char) : List Char × Bool :=
  if endsEscaping text then (text.dropLast, true) else (text ++ ['\n'], false)

/-! ## Single values -/

/-- Whether the pieces between the quotes of a text are those of one text: nothing but closing
quotes may follow the closed text. -/
def closesOnce (tripled : Bool) : Nat → Bool → List (List Char) → Bool
  | _, _, [] => true
  | count, closed, [] :: pieces =>
    if tripled then closesOnce tripled (count + 1) closed pieces
    else closesOnce tripled count true pieces
  | count, closed, piece :: pieces =>
    if endsEscaping piece then closesOnce tripled count closed pieces
    else if closed then false
    else if !tripled || 1 < count then closesOnce tripled count true pieces
    else closesOnce tripled 0 closed pieces

/-- A text in quotes. -/
def textValue (quote : Char) (cs : List Char) : Checked String := do
  let once :=
    match Text.splitAll quote (cs.drop 1) with
    | [] :: [] :: pieces => closesOnce true 0 false pieces
    | pieces => closesOnce false 0 false pieces
  guardThat once .malformedSettings
  let cs ← if quote == '"' then withoutEscapes cs else pure cs
  let tripled :=
    match cs with
    | [_, second] => second == quote
    | _ :: second :: third :: _ => second == quote && third == quote
    | _ => false
  return String.ofList (Text.inside (if tripled then Text.inside (Text.inside cs) else cs))

/-- The number with the opposite sign; zero has none. -/
def opposite (x : Binary64) : Binary64 :=
  if x.isZero then .nought
  else if x.isNaN then x
  else if x.isInfinite then .infinity (!x.isNegative)
  else ((x.toRat?.map fun r => Binary64.ofRat (-r))).getD x

/-- A number, or `none` if the text is none: one with a point or an exponent needs a digit
first and one behind the point. -/
def numberValue? (cs : List Char) : Option (Value × Kind) :=
  let (negative, body) := Numeral.signed cs
  let body := body.filter (· != '_')
  let name := String.ofList (Text.lowerChars body)
  let hasExponent := !body.contains 'x' && (body.contains 'e' || body.contains 'E')
  let number (allowed : Bool) : Option (Value × Kind) :=
    match allowed, Numeral.readFloat (String.ofList body) with
    | true, .ok x => some (.number (if negative then opposite x else x), .number)
    | _, _ => none
  if body.contains '.' || hasExponent then
    number ((Text.splitFirst '.' body).2 ≠ some [] && (body.head?.map Char.isDigit).getD false)
  else if name = "inf" || name = "nan" then number true
  else
    (Numeral.readAnyBase? body).map fun n => (.whole (if negative then -n else n), .whole)

/-- A value that is neither quoted nor bracketed. -/
def bareValue (cs : List Char) (strict : Bool) : Checked (Value × Kind) := do
  match clockParts? cs with
  | some (hour, minute, second, micro) =>
    match Clock.of? hour minute second micro with
    | some clock => return (.moment (.clock clock), .clock)
    | none => throw .malformedSettings
  | none =>
    match ← Moment.read? cs with
    | some moment => return (.moment moment, .moment)
    | none =>
      guardThat strict .malformedSettings
      match numberValue? cs with
      | some found => return found
      | none => throw .malformedSettings

/-! ## Lists -/

/-- Whether a piece of a list is a complete text: it ends with the quote that it begins with,
and no backslash stands before that. -/
def isBounded (cs : List Char) : Bool :=
  cs.head? = cs.getLast? && !endsEscaping (Text.inside cs)

/-- Whether a piece of a list is to be joined with the next one. -/
def isPartial (piece : List Char) : Bool :=
  let cs := Text.trimChars piece
  let opensTripled :=
    match cs with
    | a :: b :: c :: _ =>
      a == b && b == c && cs.reverse[1]? != some a && cs.reverse[2]? != some a
    | _ => false
  !isBounded cs || opensTripled

/-- Joins the pieces of a list of texts; the last one needs to be complete only if it was
joined. -/
def joinPieces (joined : Bool) (piece : List Char) : List (List Char) → Checked (List (List Char))
  | [] => if joined && isPartial piece then .error .noSuchPlace else .ok [piece]
  | next :: rest =>
    if isPartial piece then joinPieces true (piece ++ ',' :: next) rest
    else (joinPieces false next rest).map (piece :: ·)

/-- Where the search for the inline tables of a list is. -/
inductive TablePlace where
  | inside
  | skipping
  | between
deriving DecidableEq

/-- The inline tables of a list that have been found, last one first, and the one that is being
read, last character first. -/
structure TableSearch where
  found : List (List Char)
  current : List Char
  depth : Nat
  inText : Bool
  place : TablePlace

namespace TableSearch

/-- Takes in a character of a table.  A quote of either kind opens or closes a text. -/
def readInside (search : TableSearch) (c : Char) : TableSearch :=
  let inText :=
    if c == '"' || c == '\'' then
      !search.inText || (search.current.takeWhile (· == '\\')).length % 2 == 1
    else search.inText
  let depth := if !inText && c == '{' then search.depth + 1 else search.depth
  let search := { search with inText, depth, current := c :: search.current }
  if inText || c != '}' then search
  else if 1 < depth then { search with depth := depth - 1 }
  else
    { search with found := search.current.reverse :: search.found, current := [], place := .skipping }

/-- Takes in a character of the list.  One character behind each table is passed over, and then
all up to the next table. -/
def read (search : TableSearch) (c : Char) : TableSearch :=
  match search.place with
  | .inside => search.readInside c
  | .skipping => { search with place := .between }
  | .between => if c == '{' then { search with current := [c], place := .inside } else search

end TableSearch

/-- The inline tables in a list, whose brackets have been taken off. -/
def tablePieces (cs : List Char) : List (List Char) :=
  match cs with
  | [] => []
  | c :: rest =>
    let search := rest.foldl TableSearch.read ⟨[], [c], if c == '{' then 1 else 0, false, .inside⟩
    search.found.reverse

/-- The lists inside a list, whose brackets have been taken off; one character behind each of
them is passed over. -/
def listPieces (cs : List Char) : List (List Char) :=
  (cs.foldl read ([], [], (0 : Int), false)).1.reverse
where
  /-- Takes in a character: the lists that have been found, the one that is being read, how many
  are open, and whether the character is passed over. -/
  read : List (List Char) × List Char × Int × Bool → Char →
      List (List Char) × List Char × Int × Bool
    | (found, current, depth, skipped), c =>
      let current := if skipped then current else c :: current
      if c == '[' then (found, current, depth + 1, false)
      else if c == ']' then
        if depth = 1 then (current.reverse :: found, [], 0, true)
        else (found, current, depth - 1, false)
      else (found, current, depth, false)

/-- The pieces of a list. -/
def itemPieces (cs : List Char) : Checked (List (List Char)) := do
  let body := Text.inside cs
  if body.contains '[' && (Text.trimChars (body.takeWhile (· != '['))).isEmpty then
    return listPieces body
  let pieces :=
    if (Text.trimChars body).head? = some '{' then tablePieces body else Text.splitAll ',' body
  match pieces with
  | piece :: rest => if isTextList cs then joinPieces false piece rest else return piece :: rest
  | [] => return []

/-- Whether the text behind a sign of equality is a complete value of an inline table. -/
def isInlineValue (cs : List Char) : Checked Bool :=
  match cs with
  | [] => .error .noSuchPlace
  | first :: _ =>
    let last := cs.getLastD first
    .ok ((first == last && (first == '"' || first == '\'')) || first == '-' || first.isDigit ||
      cs = "true".toList || cs = "false".toList || (first == '[' && last == ']') ||
      (first == '{' && last == '}'))

/-- Whether a piece of an inline table is a complete entry. -/
def isInlineEntry (piece : List Char) : Checked Bool :=
  match (Text.splitFirst '=' piece).2 with
  | none => .error .malformedSettings
  | some value => isInlineValue (Text.trimChars value)

/-- The entries of an inline table; a piece that is no complete one is joined with the next. -/
def entryPieces : List Char → List (List Char) → Checked (List (List Char))
  | piece, [] => do
    guardThat (← isInlineEntry piece) .malformedSettings
    return [piece]
  | piece, next :: rest => do
    if ← isInlineEntry piece then return piece :: (← entryPieces next rest)
    else entryPieces (piece ++ ',' :: next) rest

/-- The entries of an inline table in its braces. -/
def inlinePieces (cs : List Char) : Checked (List (List Char)) :=
  match Text.splitAll ',' (Text.inside cs) with
  | [] => .ok []
  | [piece] => if (Text.trimChars piece).isEmpty then .ok [] else entryPieces piece []
  | piece :: rest => entryPieces piece rest

/-! ## Tables -/

/-- Goes from a value into the tables with some names, which are made where they are missing,
changes what is there and answers the changed value. -/
def within (change : Value → Checked (Value × α)) : List String → Value → Checked (Value × α)
  | [], value => change value
  | name :: names, .table fields => do
    let (inner, a) ← within change names ((Json.lookup name fields).getD (.table []))
    return (.table (Json.setField name inner fields), a)
  | _ :: _, _ => .error .wrongType

/-- Faults unless a value is a table without a key. -/
def checkNew (key : String) : Value → Checked Unit
  | .table fields => guardThat (Json.lookup key fields).isNone .malformedSettings
  | _ => .error .malformedSettings

/-- A value with a key set, if it is a table. -/
def withEntry (key : String) (entry : Value) : Value → Value
  | .table fields => .table (Json.setField key entry fields)
  | value => value

/-- Adds an item to those before it, last one first; all are of one kind. -/
def addItem (items : List Value × Option Kind) (item : Value × Kind) :
    Checked (List Value × Option Kind) := do
  guardThat (items.2.all (· = item.2)) .malformedSettings
  return (item.1 :: items.1, some item.2)

mutual

/-- The value that a text writes, and its kind; `strict` says whether it is a strict number. -/
def readValue : Nat → List Char → Bool → Checked (Value × Kind)
  | 0, _, _ => .error .tooDeep
  | room + 1, cs, strict => do
    match cs with
    | [] => throw .malformedSettings
    | first :: _ =>
      let word := String.ofList (Text.lowerChars cs)
      if word = "true" || word = "false" then
        guardThat (String.ofList cs = word) .malformedSettings
        return (.truth (word = "true"), .truth)
      else if first == '"' || first == '\'' then return (.text (← textValue first cs), .text)
      else if first == '[' then return (.list (← readList room cs), .list)
      else if first == '{' then return (← readInline room cs (.table []), .table)
      else bareValue cs strict

/-- The items of a list, all of one kind. -/
def readList : Nat → List Char → Checked (List Value)
  | 0, _ => .error .tooDeep
  | room + 1, cs => do
    let pieces := ((← itemPieces (Text.trimChars cs)).map Text.trimChars).filter (!·.isEmpty)
    let (items, _) ← pieces.foldlM (fun items piece => do addItem items (← readValue room piece true))
      ([], none)
    return items.reverse

/-- A value with the entries of an inline table added, up to the first one with a text that
stays open. -/
def readInline : Nat → List Char → Value → Checked Value
  | 0, _, _ => .error .tooDeep
  | room + 1, cs, value => do
    let (value, _) ← (← inlinePieces cs).foldlM
      (fun (value, stopped) line => do
        if stopped then return (value, stopped)
        let (value, opened) ← readEntry room line value
        return (value, opened.isSome))
      (value, false)
    return value

/-- A value with an entry added, or the text that the entry leaves open. -/
def readEntry : Nat → List Char → Value → Checked (Value × Option OpenText)
  | 0, _, _ => .error .tooDeep
  | room + 1, line, value => do
    let (key, text, strict) ← splitEntry line
    let (around, name) ← readName key
    within (fun table => do
        if ← staysOpen text then
          checkNew name table
          guardThat (name ≠ "") .noValueYet
          -- the lines that follow belong to the value until it is closed
          let (text, joined) := withBreak text
          return (table, some ⟨name, text, joined⟩)
        else
          -- the value is read before its name is found to be new, so that its fault comes first
          let (entry, _) ← readValue room text strict
          checkNew name table
          return (withEntry name entry table, none))
      around value

end

end ChangeImpact.Toml

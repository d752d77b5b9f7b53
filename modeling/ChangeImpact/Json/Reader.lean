import ChangeImpact.Json.Basic
import ChangeImpact.Decimal.Reading

/-!
# Reading documents

`Json.read` reads a text that holds one JSON value, blanks around it allowed.  Besides
the grammar of the standard it knows the names `NaN`, `Infinity` and `-Infinity`.  Of two
fields with one name the last value counts, in the place of the first.

A text that is no document is answered with a `Malformed`: what was expected, and where,
as an offset that `Malformed.message` turns into a line and a column.  The functions
below return the unread rest of the text; the offset of a rest is the length of the text
less its own.  Two limits end the reading where they are met: whole numbers have at most
`maxDigits` digits, and lists and objects are nested at most `maxNesting` levels deep.
-/

namespace ChangeImpact

/-- What keeps a text from being a document. -/
inductive Json.Flaw where
  | value
  | fieldName
  | colon
  | comma
  | unterminated
  | control
  | escape
  | unicodeEscape
  | extra
  | byteOrderMark
deriving DecidableEq

/-- How a flaw is worded. -/
def Json.Flaw.message : Json.Flaw → String
  | .value => "Expecting value"
  | .fieldName => "Expecting property name enclosed in double quotes"
  | .colon => "Expecting ':' delimiter"
  | .comma => "Expecting ',' delimiter"
  | .unterminated => "Unterminated string starting at"
  | .control => "Invalid control character at"
  | .escape => "Invalid \\escape"
  | .unicodeEscape => "Invalid \\uXXXX escape"
  | .extra => "Extra data"
  | .byteOrderMark => "Unexpected UTF-8 BOM (decode using utf-8-sig)"

/-- A text that is no document. -/
structure Json.Malformed where
  flaw : Json.Flaw
  line : Nat
  column : Nat
  offset : Nat
deriving DecidableEq

/-- The flaw with its place; lines and columns count from one, offsets from zero. -/
def Json.Malformed.message (m : Json.Malformed) : String :=
  s!"{m.flaw.message}: line {m.line} column {m.column} (char {m.offset})"

/-- Why a text was not read. -/
inductive Json.Unread where
  /-- It is no document. -/
  | malformed (place : Json.Malformed)
  /-- It has a whole number of too many digits. -/
  | tooManyDigits (count : Nat)
  /-- It is nested too deeply. -/
  | tooDeep
deriving DecidableEq

namespace Json

/-- The most digits of a whole number. -/
def maxDigits : Nat := 4300

/-- The most levels of lists and objects inside each other. -/
def maxNesting : Nat := 990

/-- The place of an offset in a text. -/
def Malformed.ofOffset (flaw : Flaw) (text : List Char) (offset : Nat) : Malformed :=
  let before := text.take offset
  ⟨flaw, before.count '\n' + 1, (before.reverse.takeWhile (· != '\n')).length + 1, offset⟩

/-- What ended the reading: a flaw, with the rest of the text from there on, or a limit. -/
inductive Stop where
  | flaw (flaw : Flaw) (rest : List Char)
  | digits (count : Nat)
  | nesting

/-- The blanks that may stand between the parts of a document. -/
def isGap (c : Char) : Bool := c == ' ' || c == '\t' || c == '\n' || c == '\r'

/-- The text after its leading blanks. -/
def skipGap (cs : List Char) : List Char := cs.dropWhile isGap

/-- The value of a hexadecimal digit. -/
def hexValue? (c : Char) : Option Nat :=
  if '0' ≤ c && c ≤ '9' then some (c.toNat - '0'.toNat)
  else if 'a' ≤ c && c ≤ 'f' then some (c.toNat - 'a'.toNat + 10)
  else if 'A' ≤ c && c ≤ 'F' then some (c.toNat - 'A'.toNat + 10)
  else none

/-- The UTF-16 unit at the start of a text, as four hexadecimal digits. -/
def unit? : List Char → Option Nat
  | a :: b :: c :: d :: _ => do
    let a ← hexValue? a
    let b ← hexValue? b
    let c ← hexValue? c
    let d ← hexValue? d
    return ((a * 16 + b) * 16 + c) * 16 + d
  | _ => none

/-- The character that a one-letter escape stands for. -/
def shortEscape? (c : Char) : Option Char :=
  match c with
  | '"' => some '"'
  | '\\' => some '\\'
  | '/' => some '/'
  | 'b' => some '\x08'
  | 'f' => some '\x0c'
  | 'n' => some '\n'
  | 'r' => some '\r'
  | 't' => some '\t'
  | _ => none

/-- The unit of a second escape that completes a pair, if the text goes on with one and does
not end with it. -/
def lowUnit? : List Char → Option Nat
  | '\\' :: 'u' :: rest =>
    match if (rest.drop 4).isEmpty then none else unit? rest with
    | some low => if 0xdc00 ≤ low && low < 0xe000 then some low else none
    | none => none
  | _ => none

/-- The character that an escape stands for, and the number of characters that it takes up behind
its backslash.  `opening` is the text from the opening quote on. -/
def escapeAt (opening cs : List Char) : Except Stop (Char × Nat) :=
  match cs with
  | [] => .error (.flaw .unterminated opening)
  | 'u' :: rest =>
    match if (rest.drop 4).isEmpty then none else unit? rest with
    | none => .error (.flaw .unicodeEscape cs)
    | some unit =>
      match if 0xd800 ≤ unit && unit < 0xdc00 then lowUnit? (rest.drop 4) else none with
      | some low => .ok (Char.ofNat (0x10000 + (unit - 0xd800) * 0x400 + (low - 0xdc00)), 11)
      | none => .ok (Char.ofNat unit, 5)
  | c :: _ =>
    match shortEscape? c with
    | some d => .ok (d, 1)
    | none => .error (.flaw .escape ('\\' :: cs))

/-- Reads the inside of a text up to its closing quote, with the first `skip` characters passed
over. -/
def readText (opening : List Char) : Nat → List Char → Except Stop (List Char × List Char)
  | _, [] => .error (.flaw .unterminated opening)
  | skip + 1, _ :: cs => readText opening skip cs
  | 0, c :: cs =>
    if c == '"' then .ok ([], cs)
    else if c == '\\' then
      match escapeAt opening cs with
      | .error stop => .error stop
      | .ok (d, length) => (readText opening length cs).map fun (text, rest) => (d :: text, rest)
    else if c.toNat < 0x20 then .error (.flaw .control (c :: cs))
    else (readText opening 0 cs).map fun (text, rest) => (c :: text, rest)

/-- The leading ASCII digits of a text and the rest. -/
def digitSpan (cs : List Char) : List Char × List Char := cs.span Char.isDigit

/-- The fraction of a number: its digits, if a point with a digit after it comes next. -/
def fractionOf (cs : List Char) : List Char × List Char :=
  match cs with
  | '.' :: rest =>
    match digitSpan rest with
    | ([], _) => ([], cs)
    | (digits, rest) => (digits, rest)
  | _ => ([], cs)

/-- The exponent of a number, if a letter with digits after it comes next. -/
def exponentOf (cs : List Char) : Option Int × List Char :=
  match cs with
  | e :: rest =>
    if e == 'e' || e == 'E' then
      let (negative, rest) :=
        match rest with
        | '-' :: rest => (true, rest)
        | '+' :: rest => (false, rest)
        | _ => (false, rest)
      match digitSpan rest with
      -- a letter without digits belongs to what follows the number
      | ([], _) => (none, cs)
      | (digits, rest) =>
        let n : Int := Binary64.digitsValue (digits.map fun c => c.toNat - '0'.toNat)
        (some (if negative then -n else n), rest)
    else (none, cs)
  | [] => (none, cs)

/-- The whole number written by ASCII digits. -/
def natOf (digits : List Char) : Nat :=
  Binary64.digitsValue (digits.map fun c => c.toNat - '0'.toNat)

/-- A whole number of at most as many digits as are read. -/
def wholeNumber (negative : Bool) (digits : List Char) : Except Stop Json :=
  if maxDigits < digits.length then .error (.digits digits.length)
  else .ok (.int (if negative then -(natOf digits : Int) else natOf digits))

/-- Whether a number has a minus sign, and what follows it. -/
def signOf (cs : List Char) : Bool × List Char :=
  match cs with
  | '-' :: rest => (true, rest)
  | _ => (false, cs)

/-- The digits of the whole part of a number: a zero stands alone. -/
def wholeOf? (cs : List Char) : Option (List Char × List Char) :=
  match cs with
  | '0' :: rest => some (['0'], rest)
  | c :: _ => if c.isDigit then some (digitSpan cs) else none
  | [] => none

/-- The number with a given sign and whole part, whose fraction and exponent come next. -/
def numberOf (negative : Bool) (digits cs : List Char) : Except Stop (Json × List Char) :=
  let (places, rest) := fractionOf cs
  let (exponent, rest) := exponentOf rest
  if places.isEmpty && exponent.isNone then
    (wholeNumber negative digits).map fun n => (n, rest)
  else
    .ok (.float (Binary64.ofDecimal negative (natOf (digits ++ places))
      (exponent.getD 0 - places.length)), rest)

/-- Reads a number; `none` if the text does not start with one. -/
def readNumber? (cs : List Char) : Option (Except Stop (Json × List Char)) :=
  (wholeOf? (signOf cs).2).map fun (digits, rest) => numberOf (signOf cs).1 digits rest

/-- A name at the start of a text with the value that it stands for. -/
def readWord? (cs : List Char) : Option (Json × List Char) :=
  match cs with
  | 'n' :: 'u' :: 'l' :: 'l' :: rest => some (.null, rest)
  | 't' :: 'r' :: 'u' :: 'e' :: rest => some (.bool true, rest)
  | 'f' :: 'a' :: 'l' :: 's' :: 'e' :: rest => some (.bool false, rest)
  | 'N' :: 'a' :: 'N' :: rest => some (.float .nan, rest)
  | 'I' :: 'n' :: 'f' :: 'i' :: 'n' :: 'i' :: 't' :: 'y' :: rest =>
    some (.float (.infinity false), rest)
  | '-' :: 'I' :: 'n' :: 'f' :: 'i' :: 'n' :: 'i' :: 't' :: 'y' :: rest =>
    some (.float (.infinity true), rest)
  | _ => none

mutual

/-- Reads one value, of at most `room` levels.  Every call uses up a character, so a `fuel`
above the length of the text suffices. -/
def readValue (room : Nat) : Nat → List Char → Except Stop (Json × List Char)
  | 0, cs => .error (.flaw .value cs)
  | fuel + 1, cs =>
    match cs with
    | '"' :: rest =>
      (readText cs 0 rest).map fun (text, rest) => (.str (String.ofList text), rest)
    | '{' :: rest =>
      if room = 0 then .error .nesting
      else
        match skipGap rest with
        | '}' :: rest => .ok (.obj [], rest)
        | rest => (readFields (room - 1) fuel rest).map fun (fields, rest) => (ofFields fields, rest)
    | '[' :: rest =>
      if room = 0 then .error .nesting
      else
        match skipGap rest with
        | ']' :: rest => .ok (.arr [], rest)
        | rest => (readItems (room - 1) fuel rest).map fun (items, rest) => (.arr items, rest)
    | _ =>
      -- words come first, since some of them begin as numbers do
      match readWord? cs with
      | some found => .ok found
      | none => (readNumber? cs).getD (.error (.flaw .value cs))

/-- Reads the items of a list from the first one to the closing bracket. -/
def readItems (room : Nat) : Nat → List Char → Except Stop (List Json × List Char)
  | 0, cs => .error (.flaw .value cs)
  | fuel + 1, cs =>
    match readValue room fuel cs with
    | .error stop => .error stop
    | .ok (item, rest) =>
      match skipGap rest with
      | ']' :: rest => .ok ([item], rest)
      | ',' :: rest =>
        (readItems room fuel (skipGap rest)).map fun (items, rest) => (item :: items, rest)
      | rest => .error (.flaw .comma rest)

/-- Reads the fields of an object from the first one to the closing brace. -/
def readFields (room : Nat) : Nat → List Char → Except Stop (List (String × Json) × List Char)
  | 0, cs => .error (.flaw .fieldName cs)
  | fuel + 1, cs =>
    match cs with
    | '"' :: rest =>
      match readText cs 0 rest with
      | .error stop => .error stop
      | .ok (name, rest) =>
        match skipGap rest with
        | ':' :: rest =>
          match readValue room fuel (skipGap rest) with
          | .error stop => .error stop
          | .ok (value, rest) =>
            match skipGap rest with
            | '}' :: rest => .ok ([(String.ofList name, value)], rest)
            | ',' :: rest =>
              (readFields room fuel (skipGap rest)).map fun (fields, rest) =>
                ((String.ofList name, value) :: fields, rest)
            | rest => .error (.flaw .comma rest)
        | rest => .error (.flaw .colon rest)
    | _ => .error (.flaw .fieldName cs)

end

/-- What kept a text from being read, by what ended the reading. -/
def Stop.unread (text : List Char) : Stop → Unread
  | .flaw what rest => .malformed (.ofOffset what text (text.length - rest.length))
  | .digits count => .tooManyDigits count
  | .nesting => .tooDeep

/-- Reads the whole text as one value. -/
def readChars (text : List Char) : Except Unread Json :=
  match text with
  | '\ufeff' :: _ => .error (Stop.unread text (.flaw .byteOrderMark text))
  | _ =>
    match readValue maxNesting (2 * text.length + 2) (skipGap text) with
    | .error stop => .error (stop.unread text)
    | .ok (value, rest) =>
      match skipGap rest with
      | [] => .ok value
      | rest => .error (Stop.unread text (.flaw .extra rest))

/-- Reads the whole text as one value. -/
def read (text : String) : Except Unread Json := readChars text.toList

end Json

end ChangeImpact

import ChangeImpact.Fault
import ChangeImpact.Text.Search

/-!
# Escapes in configuration texts

A text in double quotes may escape a character by one letter or by its code, `\\u` with four
and `\\U` with eight hexadecimal digits.  Codes are put in first, all of the short form and
then all of the long one, each at the places where the form announces itself and no backslash
makes it an ordinary text; after that the letters are.  A backslash before anything else is a
fault.
-/

namespace ChangeImpact.Toml

-- powers of whole numbers are the core ones, whatever else is imported
attribute [local instance (high)] instPowNat

/-- The character that an escape of one letter stands for. -/
def letterEscape? (c : Char) : Option Char :=
  match c with
  | '0' => some '\x00'
  | 'b' => some '\x08'
  | 'f' => some '\x0c'
  | 'n' => some '\n'
  | 'r' => some '\r'
  | 't' => some '\t'
  | '"' => some '"'
  | _ => none

/-- Whether a letter announces the code of a character. -/
def announcesCode (c : Char) : Bool := c == 'u' || c == 'U'

/-- Whether an odd number of backslashes ends the text. -/
def endsEscaping (cs : List Char) : Bool := Text.trailing '\\' cs % 2 == 1

/-- Whether the pieces between backslashes start with letters that may be escaped; an empty
piece makes the next backslash an ordinary one, or undoes that. -/
def escapesAllowed : Bool → List (List Char) → Bool
  | _, [] => true
  | ordinary, [] :: pieces => escapesAllowed (!ordinary) pieces
  | ordinary, (c :: _) :: pieces =>
    (ordinary || (letterEscape? c).isSome || announcesCode c) && escapesAllowed false pieces

/-- Faults on the digits of a code that are no digits, missing, or those of half a pair. -/
def checkCode (digits : List Char) : Checked Unit := do
  guardThat (digits.all fun c => (Json.hexValue? c).isSome) .malformedSettings
  match digits with
  | [] | ['d'] => throw .noSuchPlace
  | 'd' :: c :: _ => guardThat ('0' ≤ c && c ≤ '7') .malformedSettings
  | _ => return ()

/-- The text of a code of at most `width` digits and what stands behind it. -/
def codeText (width : Nat) (cs : List Char) : Checked (List Char) := do
  let digits := (cs.take width).map Char.toLower
  checkCode digits
  let code := digits.foldl (fun n c => 16 * n + (Json.hexValue? c).getD 0) 0
  guardThat (code < 2 ^ (31 : Nat)) .codeTooLarge
  guardThat (code < 0x110000) .malformedSettings
  return Char.ofNat code :: cs.drop digits.length

/-- The text with codes for the pieces behind their announcements; a piece behind one that is
an ordinary text stays as it is. -/
def putCodes (announced : List Char) (width : Nat) : Bool → List Char → List (List Char) →
    Checked (List Char)
  | _, text, [] => .ok text
  | true, text, piece :: pieces =>
    putCodes announced width (endsEscaping piece) (text ++ announced ++ piece) pieces
  | false, text, piece :: pieces => do
    let piece ← codeText width piece
    putCodes announced width false (text ++ piece) pieces

/-- The text with its codes of one form put in. -/
def withCodes (announced : List Char) (width : Nat) (cs : List Char) : Checked (List Char) :=
  match Text.cutAll announced cs with
  | [] => .ok []
  | text :: pieces => putCodes announced width (endsEscaping text) text pieces

/-- The text with its escapes of one letter put in. -/
def withLetters : List Char → Checked (List Char)
  | [] => .ok []
  | '\\' :: c :: rest =>
    if announcesCode c then (withLetters rest).map fun rest => '\\' :: c :: rest
    else if c == '\\' then (withLetters rest).map ('\\' :: ·)
    else
      match letterEscape? c with
      | some d => (withLetters rest).map (d :: ·)
      | none => .error .malformedSettings
  | c :: rest => (withLetters rest).map (c :: ·)

/-- The text with all its escapes put in. -/
def withoutEscapes (cs : List Char) : Checked (List Char) := do
  guardThat (escapesAllowed false ((Text.splitAll '\\' cs).drop 1)) .malformedSettings
  let cs ← withCodes ['\\', 'u'] 4 cs
  let cs ← withCodes ['\\', 'U'] 8 cs
  withLetters cs

end ChangeImpact.Toml

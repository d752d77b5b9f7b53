import ChangeImpact.Decimal.Reading
import ChangeImpact.Fault
import ChangeImpact.Text.Blank
import ChangeImpact.Text.Search
import ChangeImpact.Text.Word

/-!
# Numerals

How numbers are written in settings and on the command line.  A numeral is a run of decimal
digits of any script, with single underscores allowed between two of them.  A whole number
is a numeral with or without a sign; a number may also have a point and an exponent, or be
an infinity or NaN by name.  Blanks around either do not matter, the four separators
`U+001C`–`U+001F` apart, which are no blanks here.

A text is read in its `plain` form, in which every digit is an ASCII one, so that all else
need only know ASCII.
-/

namespace ChangeImpact.Numeral

/-- A character in the form in which numbers are read: blanks and digits beyond ASCII become
ASCII ones, and all else there becomes a sign that no number has. -/
def plainChar (c : Char) : Char :=
  if c.toNat < 0x7f then c
  else if Text.isBlank c then ' '
  else
    match Text.digitValue? c with
    | some d => Char.ofNat ('0'.toNat + d)
    | none => '?'

/-- A blank around a number, in its plain form. -/
def isPad (c : Char) : Bool := c == ' ' || ('\t' ≤ c && c ≤ '\r')

/-- A text in plain form without the blanks around it. -/
def plain (cs : List Char) : List Char := Text.trimBy isPad (cs.map plainChar)

/-- The value of a digit. -/
def digit? (c : Char) : Option Nat := if c.isDigit then some (c.toNat - '0'.toNat) else none

/-- The digits of a numeral; `none` if the text is none. -/
def digits? : List Char → Option (List Nat)
  | [] => none
  | [c] => (digit? c).map fun d => [d]
  | c :: '_' :: rest => do
    let d ← digit? c
    return d :: (← digits? rest)
  | c :: rest => do
    let d ← digit? c
    return d :: (← digits? rest)

/-- The sign of a number and what follows it. -/
def signed (cs : List Char) : Bool × List Char :=
  match cs with
  | '-' :: rest => (true, rest)
  | '+' :: rest => (false, rest)
  | _ => (false, cs)

/-- The most digits that are converted. -/
def maxDigits : Nat := 4300

/-- The whole number that a text writes.  The digits at its beginning are counted before
anything behind them is looked at. -/
def readInt (raw : String) : Checked Int :=
  let (negative, body) := signed (plain raw.toList)
  let (run, rest) := body.span fun c => c.isDigit || c == '_'
  match digits? run with
  | none => .error (.notInteger raw)
  | some digits =>
    if maxDigits < digits.length then .error (.tooManyDigits digits.length)
    else if rest.isEmpty then
      let n : Int := Binary64.digitsValue digits
      .ok (if negative then -n else n)
    else .error (.notInteger raw)

/-- The digits of a part of a number that may be empty. -/
def part? (cs : List Char) : Option (List Nat) := if cs.isEmpty then some [] else digits? cs

/-- The number with a given mantissa and exponent, both as texts. -/
def assemble? (negative : Bool) (mantissa : List Char) (exponent : Int) : Option Binary64 := do
  let (whole, places) := Text.splitFirst '.' mantissa
  let whole ← part? whole
  let places ← part? (places.getD [])
  if whole.isEmpty && places.isEmpty then none
  else some (.ofDecimal negative (Binary64.digitsValue (whole ++ places)) (exponent - places.length))

/-- The number that an unsigned text writes in digits. -/
def decimal? (negative : Bool) (body : List Char) : Option Binary64 :=
  match body.span fun c => c != 'e' && c != 'E' with
  | (mantissa, []) => assemble? negative mantissa 0
  | (mantissa, _ :: exponent) => do
    let (below, digits) := signed exponent
    let n : Int := Binary64.digitsValue (← digits? digits)
    assemble? negative mantissa (if below then -n else n)

/-- The number that a text writes. -/
def readFloat (raw : String) : Checked Binary64 :=
  let (negative, body) := signed (plain raw.toList)
  let name := String.ofList (body.map Char.toLower)
  if name = "inf" || name = "infinity" then .ok (.infinity negative)
  else if name = "nan" then .ok .nan
  else
    match decimal? negative body with
    | some x => .ok x
    | none => .error (.notNumber raw)

/-- The value of a digit in a base of at most sixteen. -/
def baseDigit? (base : Nat) (c : Char) : Option Nat :=
  (Json.hexValue? c).bind fun d => if d < base then some d else none

/-- The whole number that digits of a base write. -/
def inBase? (base : Nat) (cs : List Char) : Option Nat :=
  if cs.isEmpty then none
  else cs.foldl (fun n c => do return base * (← n) + (← baseDigit? base c)) (some 0)

/-- The whole number that a numeral of not too many digits writes. -/
def wholeDigits? (cs : List Char) : Option Nat :=
  (digits? cs).bind fun digits =>
    if maxDigits < digits.length then none else some (Binary64.digitsValue digits)

/-- The whole number that a text writes in the base that its beginning tells: sixteen, eight
and two are announced, and in base ten only zero may begin with a zero. -/
def readAnyBase? (raw : List Char) : Option Int := do
  let (negative, body) := signed (plain raw)
  let n ←
    match body with
    | '0' :: 'x' :: rest | '0' :: 'X' :: rest => inBase? 16 rest
    | '0' :: 'o' :: rest | '0' :: 'O' :: rest => inBase? 8 rest
    | '0' :: 'b' :: rest | '0' :: 'B' :: rest => inBase? 2 rest
    | '0' :: rest => if rest.all (· == '0') then some 0 else none
    | _ => wholeDigits? body
  return if negative then -(n : Int) else n

end ChangeImpact.Numeral

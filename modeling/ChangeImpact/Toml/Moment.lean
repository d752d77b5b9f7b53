import ChangeImpact.Decimal.Numeral

/-!
# Moments

A configuration value may be a day, a time of day, or both with or without the distance from
universal time.  They are read by position: `1979-05-27` has its year in the first four
characters, its month in two after one more, and so on; which signs stand between them does
not matter, as long as there is a hyphen somewhere behind the first character.
-/

namespace ChangeImpact.Toml

-- powers of whole numbers are the core ones, whatever else is imported
attribute [local instance (high)] instPowNat

/-- A day of the calendar. -/
structure Day where
  year : Nat
  month : Nat
  day : Nat
deriving DecidableEq

/-- A time of day. -/
structure Clock where
  hour : Nat
  minute : Nat
  second : Nat
  micro : Nat
deriving DecidableEq

/-- A day, a time of day, or both; `offset` is the distance from universal time in minutes,
if it is known. -/
inductive Moment where
  | day (day : Day)
  | clock (clock : Clock)
  | both (day : Day) (clock : Clock) (offset : Option Int)
deriving DecidableEq

/-! ## Writing -/

/-- A number with at least two digits. -/
def twoDigits (n : Nat) : List Char := Decimal.paddedNat 2 n

/-- A day, as in `1979-05-27`. -/
def Day.chars (d : Day) : List Char :=
  Decimal.paddedNat 4 d.year ++ '-' :: twoDigits d.month ++ '-' :: twoDigits d.day

/-- A time of day, as in `07:32:00`; parts of a second have six places. -/
def Clock.chars (c : Clock) : List Char :=
  twoDigits c.hour ++ ':' :: twoDigits c.minute ++ ':' :: twoDigits c.second ++
    if c.micro = 0 then [] else '.' :: Decimal.paddedNat 6 c.micro

/-- A distance from universal time, as in `+02:00`. -/
def offsetChars (offset : Int) : List Char :=
  (if offset < 0 then '-' else '+') :: twoDigits (offset.natAbs / 60) ++
    ':' :: twoDigits (offset.natAbs % 60)

/-- A moment as text, with a sign between the day and the time. -/
def Moment.chars (between : Char) : Moment → List Char
  | .day d => d.chars
  | .clock c => c.chars
  | .both d c none => d.chars ++ between :: c.chars
  | .both d c (some offset) => d.chars ++ between :: c.chars ++ offsetChars offset

/-- A moment as text. -/
def Moment.text (m : Moment) : String := String.ofList (m.chars ' ')

/-- A moment as it is written to a file, where universal time is marked with a letter. -/
def Moment.written (m : Moment) : String :=
  match m with
  | .both d c (some 0) => String.ofList ((Moment.both d c none).chars 'T' ++ ['Z'])
  | m => String.ofList (m.chars 'T')

/-- The parts of a time of day without those at the end that are zero, the first two
apart. -/
def Clock.parts (c : Clock) : List Nat :=
  if c.micro ≠ 0 then [c.hour, c.minute, c.second, c.micro]
  else if c.second ≠ 0 then [c.hour, c.minute, c.second]
  else [c.hour, c.minute]

/-- A moment as a message quotes it: its kind and its parts. -/
def Moment.quotation (m : Moment) : String :=
  let listed (kind : String) (parts : List Nat) : String :=
    s!"datetime.{kind}(" ++ Fault.listed (parts.map toString) ++ ")"
  match m with
  | .day d => listed "date" [d.year, d.month, d.day]
  | .clock c => listed "time" c.parts
  | .both d c _ => listed "datetime" ([d.year, d.month, d.day] ++ c.parts)

/-! ## Reading -/

/-- The whole number that a part of a moment writes. -/
def part? (cs : List Char) : Option Int :=
  match Numeral.readInt (String.ofList cs) with
  | .ok n => some n
  | .error _ => none

/-- The number of days of a month. -/
def daysIn (year month : Int) : Int :=
  if month = 2 then
    if year % 4 = 0 && (year % 100 ≠ 0 || year % 400 = 0) then 29 else 28
  else if [4, 6, 9, 11].contains month then 30
  else 31

/-- A day, if there is such a one. -/
def Day.of? (year month day : Int) : Option Day :=
  if 1 ≤ year && year ≤ 9999 && 1 ≤ month && month ≤ 12 && 1 ≤ day && day ≤ daysIn year month then
    some ⟨year.toNat, month.toNat, day.toNat⟩
  else none

/-- A time of day, if there is such a one. -/
def Clock.of? (hour minute second micro : Int) : Option Clock :=
  if 0 ≤ hour && hour < 24 && 0 ≤ minute && minute < 60 && 0 ≤ second && second < 60 &&
      0 ≤ micro && micro < 1000000 then
    some ⟨hour.toNat, minute.toNat, second.toNat, micro.toNat⟩
  else none

/-- A distance from universal time. -/
def offset? (cs : List Char) : Option Int := do
  let cs := if cs = ['Z'] then "+00:00".toList else cs
  let hours ← part? (Text.slice 1 2 cs)
  let minutes ← part? (Text.slice 4 2 cs)
  return (if cs.head? = some '-' then -1 else 1) * (60 * hours + minutes)

/-- Decimal places as millionths; more than six of them are cut off after a rounded
product. -/
def millionths (n : Int) (places : Nat) : Checked Int :=
  if places ≤ 6 then .ok (n * 10 ^ (6 - places))
  else
    let x := Binary64.ofRat n
    if !x.isFinite then .error .integerBeyondNumbers
    else
      match (x.mul (.ofRat (1 / ((10 ^ (places - 6) : Nat) : Rat)))).toRat? with
      | some r => .ok (if r < 0 then r.ceil else r.floor)
      | none => .ok 0

/-- The places of a second, and the text of the distance from universal time behind them. -/
def splitPlaces (cs : List Char) : List Char × Option (List Char) :=
  if cs.getLast? = some 'Z' || cs.getLast? = some 'z' then (cs.dropLast, some ['Z'])
  else if cs.contains '+' then (cs.takeWhile (· != '+'), some (cs.dropWhile (· != '+')))
  else if cs.contains '-' then (cs.takeWhile (· != '-'), some (cs.dropWhile (· != '-')))
  else (cs, none)

/-- What stands behind the seconds: millionths and the distance from universal time.  If part
of it cannot be read, none of it counts. -/
def afterSeconds (cs : List Char) : Checked (Int × Option Int) :=
  match cs with
  | [] => .ok (0, none)
  | '.' :: rest =>
    let (places, offset) := splitPlaces rest
    match offset.map offset?, part? places with
    | some none, _ | _, none => .ok (0, none)
    | offset, some n => (millionths n places.length).map fun micro => (micro, offset.join)
  | cs => .ok (0, offset? cs)

/-- The day that a text starts with. -/
def dayAt? (cs : List Char) : Option Day := do
  Day.of? (← part? (Text.slice 0 4 cs)) (← part? (Text.slice 5 2 cs)) (← part? (Text.slice 8 2 cs))

/-- The day that a text writes, with the time if it is longer than a day. -/
def Moment.read? (cs : List Char) : Checked (Option Moment) := do
  let (micro, offset) ← afterSeconds (cs.drop 19)
  if !(cs.drop 1).contains '-' then return none
  else if cs.length = 10 then return (dayAt? cs).map Moment.day
  else
    return do
      let clock ← Clock.of? (← part? (Text.slice 11 2 cs)) (← part? (Text.slice 14 2 cs))
        (← part? (Text.slice 17 2 cs)) micro
      return .both (← dayAt? cs) clock offset

/-- The digits at the start of a text, as many as are asked for. -/
def leadingDigits? (count : Nat) (cs : List Char) : Option (Nat × List Char) :=
  let digits := cs.take count
  if digits.length = count && digits.all Char.isDigit then
    some (Binary64.digitsValue (digits.filterMap Numeral.digit?), cs.drop count)
  else none

/-- The hours, minutes, seconds and millionths that a text starts with; a point counts only
with three digits behind it, of which at most six are read. -/
def clockParts? (cs : List Char) : Option (Nat × Nat × Nat × Nat) := do
  let (hour, rest) ← leadingDigits? 2 cs
  let (minute, rest) ← leadingDigits? 2 (← Text.afterStart? [':'] rest)
  let (second, rest) ← leadingDigits? 2 (← Text.afterStart? [':'] rest)
  let places := (Text.afterStart? ['.'] rest).map fun rest => (rest.takeWhile Char.isDigit).take 6
  match places with
  | some places =>
    if 3 ≤ places.length then
      return (hour, minute, second, Binary64.digitsValue (places.filterMap Numeral.digit?))
    else return (hour, minute, second, 0)
  | none => return (hour, minute, second, 0)

end ChangeImpact.Toml

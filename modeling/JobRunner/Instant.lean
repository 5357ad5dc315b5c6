import JobRunner.Json.Format
import JobRunner.Text.Blank

/-!
# Instants

Moments of universal time, to the nanosecond.

- `Instant.toText`: date and time with `Z`, and as many groups of three fraction digits as needed.
- `Instant.parse?`: reads a date and a time with an offset. Blanks may stand around the components,
  the separator may be `T`, `t` or a space, and the offset `Z`, `UTC` or signed hours and minutes.
-/

namespace JobRunner

/-- Seconds since the beginning of 1970, and nanoseconds; a thousand million of them or more stand
for a moment inside a leap second. -/
structure Instant where
  second : Int
  nano : Nat
  deriving DecidableEq, Repr, Inhabited

namespace Instant

/-- Instants are ordered by second, then by nanosecond. -/
instance : Ord Instant := ⟨compareLex (compareOn second) (compareOn nano)⟩

/-- The beginning of 1970. -/
def epoch : Instant := ⟨0, 0⟩

/-! ## Dates -/

/-- The day number of a date, counted from the first of January 1970. -/
def dayNumber (year : Int) (month day : Nat) : Int :=
  let year := if month ≤ 2 then year - 1 else year
  let dayOfYear : Int := (153 * ((month + 9) % 12) + 2) / 5 + day - 1
  let yearOfEra := year % 400
  year / 400 * 146097 + yearOfEra * 365 + yearOfEra / 4 - yearOfEra / 100 + dayOfYear - 719468

/-- Year, month and day of a day number. -/
def dateOf (number : Int) : Int × Nat × Nat :=
  let shifted := number + 719468
  let dayOfEra := (shifted % 146097).toNat
  let yearOfEra := (dayOfEra - dayOfEra / 1460 + dayOfEra / 36524 - dayOfEra / 146096) / 365
  let dayOfYear := dayOfEra - (365 * yearOfEra + yearOfEra / 4 - yearOfEra / 100)
  let monthIndex := (5 * dayOfYear + 2) / 153
  let day := dayOfYear - (153 * monthIndex + 2) / 5 + 1
  let month := if monthIndex < 10 then monthIndex + 3 else monthIndex - 9
  let year := (yearOfEra : Int) + shifted / 146097 * 400
  (if month ≤ 2 then year + 1 else year, month, day)

/-- Whether a year has 366 days. -/
def isLeapYear (year : Int) : Bool := year % 4 == 0 && (year % 100 != 0 || year % 400 == 0)

/-- The number of days of a month. -/
def monthLength (year : Int) (month : Nat) : Nat :=
  if month = 2 then if isLeapYear year then 29 else 28
  else if month = 4 || month = 6 || month = 9 || month = 11 then 30
  else 31

/-- Whether a year can be represented. -/
def isYear (year : Int) : Bool := -262143 ≤ year && year ≤ 262142

/-! ## Writing -/

/-- A number in at least `width` decimal digits. -/
def padded (width n : Nat) : List Char :=
  let digits := Nat.toDigits 10 n
  List.replicate (width - digits.length) '0' ++ digits

/-- A year: four digits, with a sign and more of them if it is not of the first ten thousand. -/
def yearText (year : Int) : List Char :=
  if 0 ≤ year && year ≤ 9999 then padded 4 year.natAbs
  else (if year < 0 then '-' else '+') :: padded 4 year.natAbs

/-- The fraction of a second in the fewest groups of three digits. -/
def fractionText (nano : Nat) : List Char :=
  if nano = 0 then []
  else if nano % 1000000 = 0 then '.' :: padded 3 (nano / 1000000)
  else if nano % 1000 = 0 then '.' :: padded 6 (nano / 1000)
  else '.' :: padded 9 nano

/-- The text of an instant. -/
def toText (t : Instant) : String :=
  let (year, month, day) := dateOf (t.second / 86400)
  let second := (t.second % 86400).toNat
  let leap := t.nano / 1000000000
  String.ofList <|
    yearText year ++ '-' :: padded 2 month ++ '-' :: padded 2 day ++ 'T' ::
      padded 2 (second / 3600) ++ ':' :: padded 2 (second / 60 % 60) ++ ':' ::
        padded 2 (second % 60 + leap) ++ fractionText (t.nano % 1000000000) ++ ['Z']

/-! ## Reading -/

/-- The value of a decimal digit. -/
def digit? (c : Char) : Option Nat := if c.isDigit then some (c.toNat - '0'.toNat) else none

/-- Reads the decimal digits at the front, at least one and at most `width` if it is given. -/
def number? (width : Option Nat) (cs : List Char) : Option (Nat × List Char) :=
  let run := cs.takeWhile Char.isDigit
  let digits := match width with
    | some width => run.take width
    | none => run
  if digits.isEmpty then none
  else some (digits.foldl (fun n c => n * 10 + (c.toNat - '0'.toNat)) 0, cs.drop digits.length)

/-- Reads a component of one or two digits between two bounds, blanks before it. -/
def component? (low high : Nat) (cs : List Char) : Option (Nat × List Char) := do
  let (n, rest) ← number? (some 2) (Text.dropBlank cs)
  if low ≤ n && n ≤ high then some (n, rest) else none

/-- Reads a year: up to four digits, or a sign and any number of them. -/
def year? (cs : List Char) : Option (Int × List Char) :=
  match Text.dropBlank cs with
  | '-' :: rest => (number? none rest).map fun (n, rest) => (-(n : Int), rest)
  | '+' :: rest => (number? none rest).map fun (n, rest) => ((n : Int), rest)
  | cs => (number? (some 4) cs).map fun (n, rest) => ((n : Int), rest)

/-- Passes over blanks and then the character `mark`. -/
def after? (mark : Char) (cs : List Char) : Option (List Char) :=
  match Text.dropBlank cs with
  | c :: rest => if c = mark then some rest else none
  | [] => none

/-- Reads a fraction of a second, if a point comes first; digits behind the ninth do not count. -/
def fraction? : List Char → Option (Nat × List Char)
  | '.' :: rest => do
    let digits := rest.takeWhile Char.isDigit
    let (n, _) ← number? (some 9) rest
    return (n * Nat.pow 10 (9 - min 9 digits.length), rest.drop digits.length)
  | cs => some (0, cs)

/-- Reads the two minute digits of an offset. -/
def offsetMinutes? : List Char → Option (Nat × List Char)
  | tens :: units :: rest => do
    let tens ← digit? tens
    let units ← digit? units
    if tens ≤ 5 then some (tens * 10 + units, rest) else none
  | _ => none

/-- Reads hours and minutes of an offset; colons and blanks may stand between them. -/
def offsetSize? (cs : List Char) : Option (Nat × List Char) :=
  match cs with
  | tens :: units :: rest => do
    let tens ← digit? tens
    let units ← digit? units
    let (minutes, rest) ← offsetMinutes? (rest.dropWhile fun c => c = ':' || Text.isBlankChar c)
    return ((tens * 10 + units) * 3600 + minutes * 60, rest)
  | _ => none

/-- Reads an offset from universal time in seconds. -/
def offset? (cs : List Char) : Option (Int × List Char) :=
  let cs := Text.dropBlank cs
  if (cs.take 3).map Char.toUpper = ['U', 'T', 'C'] then some (0, cs.drop 3)
  else
    match cs with
    | 'Z' :: rest => some (0, rest)
    | 'z' :: rest => some (0, rest)
    | '+' :: rest => (offsetSize? rest).map fun (n, rest) => ((n : Int), rest)
    | '-' :: rest => (offsetSize? rest).map fun (n, rest) => (-(n : Int), rest)
    | '−' :: rest => (offsetSize? rest).map fun (n, rest) => (-(n : Int), rest)
    | _ => none

/-- Passes over the separator of date and time. -/
def separator? : List Char → Option (List Char)
  | c :: rest => if c = 'T' || c = 't' || c = ' ' then some rest else none
  | [] => none

/-- The instant that a text spells. -/
def parse? (s : String) : Option Instant := do
  let (year, cs) ← year? s.toList
  let (month, cs) ← component? 1 12 (← after? '-' cs)
  let (day, cs) ← component? 1 31 (← after? '-' cs)
  let (hour, cs) ← component? 0 23 (← separator? cs)
  let (minute, cs) ← component? 0 59 (← after? ':' cs)
  let (second, cs) ← component? 0 60 (← after? ':' cs)
  let (nano, cs) ← fraction? cs
  let (offset, cs) ← offset? cs
  if !(Text.dropBlank cs).isEmpty then none
  if !isYear year || monthLength year month < day || 86400 ≤ offset.natAbs then none
  let leap := second / 60
  let secondOfDay : Nat := hour * 3600 + minute * 60 + (second - leap)
  let moment := dayNumber year month day * 86400 + secondOfDay - offset
  if isYear (dateOf (moment / 86400)).1 then some ⟨moment, nano + leap * 1000000000⟩ else none

/-- Instants are written as texts. -/
def toJson (t : Instant) : Json := .text t.toText

/-- How instants are read. -/
def format : Json.Format Instant := .spelled "an RFC 3339 formatted date and time string" parse?

end Instant

end JobRunner

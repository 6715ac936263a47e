import ContractAtlas.Text.Blank
import ContractAtlas.Text.Search

/-!
# Timestamps

A moment in universal time, to the nanosecond, in the proleptic Gregorian calendar. It is written in
the form of RFC 3339 with as many groups of three fraction digits as it needs, and read from the
more lenient form with blanks between the parts and any offset. A leap second is the second before
it with a fraction of one second or more.
-/

namespace ContractAtlas

open Text

/-- A moment: seconds since the start of 1970 in universal time and the fraction in nanoseconds,
which reaches into a second second only during a leap second. -/
structure Timestamp where
  seconds : Int
  nanoseconds : Nat
deriving DecidableEq, Repr

namespace Timestamp

/-- The start of 1970. -/
def epoch : Timestamp := ⟨0, 0⟩

/-- The days from the start of 1970 to a date. -/
def daysOfDate (year : Int) (month day : Nat) : Int :=
  let shifted := if month <= 2 then year - 1 else year
  let era := shifted.fdiv 400
  let yearOfEra := shifted - era * 400
  let dayOfYear := (153 * ((month + 9) % 12) + 2) / 5 + day - 1
  era * 146097 + (yearOfEra * 365 + yearOfEra.fdiv 4 - yearOfEra.fdiv 100 + dayOfYear) - 719468

/-- The date of a number of days from the start of 1970. -/
def dateOfDays (days : Int) : Int × Nat × Nat :=
  let shifted := days + 719468
  let era := shifted.fdiv 146097
  let dayOfEra := (shifted - era * 146097).toNat
  let yearOfEra := (dayOfEra - dayOfEra / 1460 + dayOfEra / 36524 - dayOfEra / 146096) / 365
  let dayOfYear := dayOfEra - (365 * yearOfEra + yearOfEra / 4 - yearOfEra / 100)
  let shiftedMonth := (5 * dayOfYear + 2) / 153
  let day := dayOfYear - (153 * shiftedMonth + 2) / 5 + 1
  let month := (shiftedMonth + 2) % 12 + 1
  let year := era * 400 + yearOfEra
  (if month <= 2 then year + 1 else year, month, day)

/-- Whether a year has a 29th of February. -/
def isLeapYear (year : Int) : Bool :=
  year.fmod 4 = 0 && (year.fmod 100 != 0 || year.fmod 400 = 0)

/-- The number of days of a month, none for a month that there is not. -/
def daysInMonth (year : Int) (month : Nat) : Nat :=
  if month = 2 then (if isLeapYear year then 29 else 28)
  else if month = 4 || month = 6 || month = 9 || month = 11 then 30
  else if 1 <= month && month <= 12 then 31
  else 0

/-- The first and the last year of the calendar. -/
def yearRange : Int × Int := (-262143, 262142)

/-- A number with at least as many digits as given. -/
def padded (width number : Nat) : String :=
  let digits := Nat.toDigits 10 number
  String.ofList (List.replicate (width - digits.length) '0' ++ digits)

/-- The text of a year: four digits, or a sign and at least four digits when it has more or is
negative. -/
def renderYear (year : Int) : String :=
  if 0 <= year && year <= 9999 then padded 4 year.toNat
  else (if year < 0 then "-" else "+") ++ padded 4 year.natAbs

/-- The text of the fraction: nothing, or three, six or nine digits. -/
def renderFraction (nanoseconds : Nat) : String :=
  if nanoseconds = 0 then ""
  else if nanoseconds % 1000000 = 0 then "." ++ padded 3 (nanoseconds / 1000000)
  else if nanoseconds % 1000 = 0 then "." ++ padded 6 (nanoseconds / 1000)
  else "." ++ padded 9 nanoseconds

/-- The text of a moment. -/
def render (moment : Timestamp) : String :=
  let days := moment.seconds.fdiv 86400
  let secondOfDay := (moment.seconds - days * 86400).toNat
  let isLeap := 1000000000 <= moment.nanoseconds
  let second := secondOfDay % 60 + (if isLeap then 1 else 0)
  let fraction := if isLeap then moment.nanoseconds - 1000000000 else moment.nanoseconds
  let (year, month, day) := dateOfDays days
  renderYear year ++ "-" ++ padded 2 month ++ "-" ++ padded 2 day ++ "T" ++
    padded 2 (secondOfDay / 3600) ++ ":" ++ padded 2 (secondOfDay / 60 % 60) ++ ":" ++
    padded 2 second ++ renderFraction fraction ++ "Z"

/-- The number of a run of at most `width` digits, of which there is at least one, and the
characters after it. -/
def number? (width : Nat) (characters : List Char) : Option (Nat × List Char) :=
  let digits := (characters.take width).takeWhile isDigit
  (decimalValue? digits).map fun value => (value, characters.drop digits.length)

/-- The number of a year, with or without a sign. With a sign it may have any number of digits. -/
def year? (characters : List Char) : Option (Int × List Char) :=
  match characters with
  | '-' :: later => (number? later.length later).map fun read => (-read.1, read.2)
  | '+' :: later => (number? later.length later).map fun read => ((read.1 : Int), read.2)
  | _ => (number? 4 characters).map fun read => ((read.1 : Int), read.2)

/-- The characters after blanks and one given character. -/
def after? (expected : Char) (characters : List Char) : Option (List Char) :=
  match trimStartChars characters with
  | character :: later => if character = expected then some later else none
  | [] => none

/-- A number of one or two digits after blanks. -/
def short? (characters : List Char) : Option (Nat × List Char) :=
  number? 2 (trimStartChars characters)

/-- The nanoseconds of a fraction, of which only nine digits count, if there is a fraction. -/
def fraction? (characters : List Char) : Option (Nat × List Char) :=
  match characters with
  | '.' :: later => do
      let digits := later.takeWhile isDigit
      let value <- decimalValue? (digits.take 9)
      return (value * Nat.pow 10 (9 - (digits.take 9).length), later.drop digits.length)
  | _ => some (0, characters)

/-- The hours and minutes of an offset, in seconds, and the characters after them. -/
def offsetDigits? (characters : List Char) : Option (Int × List Char) := do
  let hours <- decimalValue? (characters.take 2)
  if (characters.take 2).length < 2 then none
  let later := (characters.drop 2).dropWhile fun character => character = ':' || isBlank character
  let minutes <- decimalValue? (later.take 2)
  if (later.take 2).length < 2 || 60 <= minutes then none
  return ((hours * 3600 + minutes * 60 : Nat), later.drop 2)

/-- The offset from universal time, in seconds, and the characters after it. -/
def offset? (characters : List Char) : Option (Int × List Char) :=
  match characters with
  | 'Z' :: later => some (0, later)
  | 'z' :: later => some (0, later)
  | '+' :: later => offsetDigits? later
  | '-' :: later => (offsetDigits? later).map fun read => (-read.1, read.2)
  | '\u2212' :: later => (offsetDigits? later).map fun read => (-read.1, read.2)
  | _ =>
      if (characters.take 3).map lowerAsciiChar = ['u', 't', 'c'] then some (0, characters.drop 3)
      else none

/-- The moment of a date, a time of day and an offset, if there is such a moment. -/
def ofParts? (year : Int) (month day hour minute second nanoseconds : Nat) (offset : Int) :
    Option Timestamp :=
  let isLeap := second = 60
  let seconds := daysOfDate year month day * 86400 +
    (hour * 3600 + minute * 60 + (if isLeap then 59 else second) : Nat) - offset
  let isDate := yearRange.1 <= year && year <= yearRange.2 && 1 <= day &&
    day <= daysInMonth year month
  let isTime := hour < 24 && minute < 60 && second <= 60 && offset.natAbs < 86400
  let inCalendar := daysOfDate yearRange.1 1 1 * 86400 <= seconds &&
    seconds < daysOfDate (yearRange.2 + 1) 1 1 * 86400
  if isDate && isTime && inCalendar then
    some ⟨seconds, if isLeap then nanoseconds + 1000000000 else nanoseconds⟩
  else none

/-- The moment that a text denotes. -/
def parse? (text : String) : Option Timestamp := do
  let (year, rest) <- year? (trimStartChars text.toList)
  let (month, rest) <- short? (<- after? '-' rest)
  let (day, rest) <- short? (<- after? '-' rest)
  let rest <- match rest with
    | character :: later =>
        if character = 'T' || character = 't' || character = ' ' then some later else none
    | [] => none
  let (hour, rest) <- short? rest
  let (minute, rest) <- short? (<- after? ':' rest)
  let (second, rest) <- short? (<- after? ':' rest)
  let (nanoseconds, rest) <- fraction? rest
  let (offset, rest) <- offset? (trimStartChars rest)
  if !(trimStartChars rest).isEmpty then none
  ofParts? year month day hour minute second nanoseconds offset

end Timestamp

end ContractAtlas

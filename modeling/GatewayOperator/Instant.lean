import GatewayOperator.Text.Blank
import GatewayOperator.Text.Decimal

/-!
# Instants

An instant is a number of seconds since 1970-01-01T00:00:00Z and a number of nanoseconds. Nanoseconds
of 10^9 or more stand for a leap second, which only the last second of a minute can have. Dates follow
the Gregorian calendar, extended backwards, for years between -262143 and 262142.

An instant is read from a relaxed form of RFC 3339: blanks may stand between the parts, a space in
place of the T, and one digit in place of two. It is written in whole seconds.
-/

set_option autoImplicit false

namespace GatewayOperator

/-- A moment in time. -/
structure Instant where
  seconds : Int
  nanos : Nat
  deriving DecidableEq, Repr

namespace Instant

/-- A date of the Gregorian calendar. -/
structure Date where
  year : Int
  month : Nat
  day : Nat
  deriving DecidableEq, Repr

/-- The number of days from 1970-01-01 to a date. The year is counted from March, so that the leap day
is its last day. -/
def Date.toDays (d : Date) : Int :=
  let y := if d.month ≤ 2 then d.year - 1 else d.year
  let era := y.fdiv 400
  let yearOfEra := y - era * 400
  let monthFromMarch : Int := (d.month + 9) % 12
  let dayOfYear := (153 * monthFromMarch + 2) / 5 + (d.day : Int) - 1
  let dayOfEra := yearOfEra * 365 + yearOfEra / 4 - yearOfEra / 100 + dayOfYear
  era * 146097 + dayOfEra - 719468

/-- The date a number of days after 1970-01-01. -/
def Date.ofDays (days : Int) : Date :=
  let z := days + 719468
  let era := z.fdiv 146097
  let dayOfEra := z - era * 146097
  let yearOfEra := (dayOfEra - dayOfEra / 1460 + dayOfEra / 36524 - dayOfEra / 146096) / 365
  let dayOfYear := dayOfEra - (365 * yearOfEra + yearOfEra / 4 - yearOfEra / 100)
  let monthFromMarch := (5 * dayOfYear + 2) / 153
  let day := dayOfYear - (153 * monthFromMarch + 2) / 5 + 1
  let month := if monthFromMarch < 10 then monthFromMarch + 3 else monthFromMarch - 9
  let year := yearOfEra + era * 400 + (if month ≤ 2 then 1 else 0)
  ⟨year, month.toNat, day.toNat⟩

/-- Whether a year is a leap year. -/
def isLeap (year : Int) : Bool :=
  year % 4 == 0 && (year % 100 != 0 || year % 400 == 0)

/-- The number of days of a month. -/
def daysIn (year : Int) (month : Nat) : Nat :=
  if month = 2 then if isLeap year then 29 else 28
  else if month = 4 ∨ month = 6 ∨ month = 9 ∨ month = 11 then 30
  else 31

/-- Whether the calendar has a year. -/
def hasYear (year : Int) : Bool := -262143 ≤ year && year ≤ 262142

/-- The date of an instant. -/
def date (t : Instant) : Date := Date.ofDays (t.seconds.fdiv 86400)

/-- The second of the day of an instant. -/
def secondOfDay (t : Instant) : Nat := (t.seconds.fmod 86400).toNat

/-- The instant of Unix seconds and nanoseconds, if there is one. -/
def ofUnix? (seconds : Int) (nanos : Nat) : Option Instant :=
  let t : Instant := ⟨seconds, nanos⟩
  if !hasYear t.date.year then none
  else if nanos < 1000000000 then some t
  else if nanos < 2000000000 ∧ seconds.fmod 60 = 59 then some t
  else none

/-- A year: four digits, or a sign and at least four digits outside 0 to 9999. -/
def yearText (year : Int) : List Char :=
  if year < 0 then '-' :: Text.padded 4 year.natAbs
  else if year ≤ 9999 then Text.padded 4 year.natAbs
  else '+' :: Text.padded 4 year.natAbs

/-- Date and time to the second. A leap second is shown as second 60. -/
def secondsText (t : Instant) : List Char :=
  let d := t.date
  let s := t.secondOfDay
  let second := if 1000000000 ≤ t.nanos then s % 60 + 1 else s % 60
  yearText d.year ++ '-' :: (Text.padded 2 d.month ++ '-' :: (Text.padded 2 d.day ++ 'T' ::
    (Text.padded 2 (s / 3600) ++ ':' :: (Text.padded 2 (s / 60 % 60) ++ ':' ::
      Text.padded 2 second))))

/-- The time stamp of an instant, in whole seconds. -/
def stamp (t : Instant) : String := String.ofList (t.secondsText ++ ['Z'])

/-- Why a text is no instant. -/
inductive Fault where
  | tooShort
  | tooLong
  | invalid
  | outOfRange
  /-- The text ends after the date or after the time of day. -/
  | incomplete
  /-- The calendar has the date, but not that of the same moment in UTC. -/
  | impossible
  deriving DecidableEq, Repr

/-- The wording of a fault. -/
def Fault.message : Fault → String
  | .tooShort => "premature end of input"
  | .tooLong => "trailing input"
  | .invalid => "input contains invalid characters"
  | .outOfRange => "input is out of range"
  | .incomplete => "input is not enough for unique date and time"
  | .impossible => "no possible date and time matching input"

/-- The text after its leading blanks. -/
def skipBlank (s : List Char) : List Char := s.dropWhile Text.isBlank

/-- The text after a character that it must start with. -/
def expect (c : Char) : List Char → Except Fault (List Char)
  | [] => .error .tooShort
  | x :: rest => if x = c then .ok rest else .error .invalid

/-- A number of one to `most` digits. -/
def number (most : Nat) (s : List Char) : Except Fault (Nat × List Char) :=
  if s = [] then .error .tooShort
  else
    let ds := (s.takeWhile Text.isDigit).take most
    if ds = [] then .error .invalid else .ok (Text.decimalValue ds, s.drop ds.length)

/-- A number of one or two digits in a range. -/
def numberIn (least greatest : Nat) (s : List Char) : Except Fault (Nat × List Char) := do
  let (n, rest) ← number 2 s
  if least ≤ n ∧ n ≤ greatest then pure (n, rest) else .error .outOfRange

/-- A year: four digits at most, or a sign and any number of digits. A number of more than 31 bits is no
year. -/
def yearNumber (s : List Char) : Except Fault (Int × List Char) := do
  let (year, rest) ← match s with
    | '-' :: digits => (number digits.length digits).map fun (n, r) => (-(n : Int), r)
    | '+' :: digits => (number digits.length digits).map fun (n, r) => ((n : Int), r)
    | s => (number 4 s).map fun (n, r) => ((n : Int), r)
  if -2147483648 ≤ year ∧ year ≤ 2147483647 then pure (year, rest) else .error .outOfRange

/-- The nanoseconds of an optional fraction; places beyond the ninth are read and dropped. -/
def nanoseconds (s : List Char) : Except Fault (Nat × List Char) :=
  match s with
  | '.' :: rest => do
    let (_, _) ← number 9 rest
    let ds := rest.takeWhile Text.isDigit
    let kept := ds.take 9
    pure (Text.decimalValue kept * Nat.pow 10 (9 - kept.length), rest.drop ds.length)
  | s => .ok (0, s)

/-- Two digits of an offset. -/
def twoDigits (s : List Char) : Except Fault (Nat × List Char) :=
  match s with
  | a :: b :: rest =>
    if Text.isDigit a && Text.isDigit b then .ok (Text.decimalValue [a, b], rest)
    else .error .invalid
  | [a] => .error (if a.toNat < 0x80 then .tooShort else .invalid)
  | [] => .error .tooShort

/-- The text after the colons and blanks at its start. -/
def skipColon (s : List Char) : List Char := s.dropWhile fun c => c == ':' || Text.isBlank c

/-- The offset from UTC in seconds: Z, UTC, or a sign with hours and minutes. -/
def offset (s : List Char) : Except Fault (Int × List Char) :=
  match s with
  | [] => .error .tooShort
  | c :: rest =>
    if c = 'Z' ∨ c = 'z' then .ok (0, rest)
    else if (s.take 3).map Char.toUpper = ['U', 'T', 'C'] then .ok (0, s.drop 3)
    else
      let sign : Option Int := if c = '+' then some 1 else if c = '-' ∨ c = '−' then some (-1) else none
      match sign with
      | none => .error .invalid
      | some sign => do
        let (hours, r) ← twoDigits rest
        let (minutes, r) ← twoDigits (skipColon r)
        if 59 < minutes then .error .outOfRange
        else pure (sign * (hours * 3600 + minutes * 60 : Nat), r)

/-- The date at the start of a text. -/
def readDate (s : List Char) : Except Fault (Date × List Char) := do
  let (year, s) ← yearNumber (skipBlank s)
  let s ← expect '-' (skipBlank s)
  let (month, s) ← numberIn 1 12 (skipBlank s)
  let s ← expect '-' (skipBlank s)
  let (day, s) ← numberIn 1 31 (skipBlank s)
  if s = [] then .error .incomplete else pure (⟨year, month, day⟩, s)

/-- The second of the day and the nanoseconds at the start of a text. Second 60 is a leap second. -/
def readTime (s : List Char) : Except Fault (Nat × Nat × List Char) := do
  let (hour, s) ← numberIn 0 23 (skipBlank s)
  let s ← expect ':' (skipBlank s)
  let (minute, s) ← numberIn 0 59 (skipBlank s)
  let s ← expect ':' (skipBlank s)
  let (second, s) ← numberIn 0 60 (skipBlank s)
  let (nanos, s) ← nanoseconds s
  let s := skipBlank s
  let whole := hour * 3600 + minute * 60
  if s = [] then .error .incomplete
  else if second = 60 then pure (whole + 59, nanos + 1000000000, s)
  else pure (whole + second, nanos, s)

/-- The text after the mark between date and time. -/
def skipMark : List Char → Except Fault (List Char)
  | [] => .error .tooShort
  | c :: rest => if c = 'T' ∨ c = 't' ∨ c = ' ' then .ok rest else .error .invalid

/-- The instant that a text denotes. -/
def read (text : String) : Except Fault Instant := do
  let (date, s) ← readDate text.toList
  let s ← skipMark s
  let (second, nanos, s) ← readTime s
  let (shift, s) ← offset s
  if skipBlank s ≠ [] then .error .tooLong
  else if !hasYear date.year ∨ daysIn date.year date.month < date.day ∨ 86399 < shift.natAbs then
    .error .outOfRange
  else
    let t : Instant := ⟨date.toDays * 86400 + second - shift, nanos⟩
    if hasYear t.date.year then pure t else .error .impossible

end Instant

end GatewayOperator

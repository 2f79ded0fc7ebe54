import TenantSearch.Time.Calendar
import TenantSearch.Time.Duration
import TenantSearch.Text.Blank
import TenantSearch.Decimal.Literal

/-!
# `TenantSearch.Time.Timestamp`: moments in universal time

A timestamp is a day, a second of the day and a fraction in nanoseconds. A leap second is the
last second of a minute with a fraction of at least one second.

Reading follows RFC 3339 with three liberties. Blank characters may stand before each part, the
day and the time may be joined by a space, and a year may have a sign and any number of digits.
The time is moved to universal time by its offset.

Writing has two forms. `Timestamp.canonical` keeps every digit of the fraction, in groups of
three, and `Timestamp.toMillis` always writes three digits and drops the rest.
-/

set_option autoImplicit false

namespace TenantSearch.Time

/-- The first and the last day of a timestamp: -262143-01-01 and 262142-12-31. -/
def firstDay : Int := -96465292

@[inherit_doc firstDay]
def lastDay : Int := 95026236

/-- The ends are the days of those dates. -/
example :
    Date.dayNumber ⟨-262143, 1, 1⟩ = firstDay ∧ Date.dayNumber ⟨262142, 12, 31⟩ = lastDay := by
  decide

/-- How many seconds a day has. -/
def secondsPerDay : Nat := 86400

/-- A moment in universal time. -/
structure Timestamp where
  /-- The day, counted from 1970-01-01. -/
  day : Int
  /-- The second of the day. -/
  second : Nat
  /-- The fraction in nanoseconds, a whole second more in a leap second. -/
  nano : Nat
  day_range : firstDay ≤ day ∧ day ≤ lastDay
  second_lt : second < secondsPerDay
  nano_range : nano < nanosPerSecond ∨ (second % 60 = 59 ∧ nano < 2 * nanosPerSecond)
deriving DecidableEq

/-- A date and a time of day as they are written, with the offset from universal time in
minutes. -/
structure WrittenTime where
  date : Date
  hour : Nat
  minute : Nat
  /-- Up to 60, which names a leap second. -/
  second : Nat
  nano : Nat
  offset : Int

namespace WrittenTime

/-- Whether the calendar and the clock have the parts. -/
def isValid (w : WrittenTime) : Bool :=
  w.date.isValid && -262143 ≤ w.date.year && w.date.year ≤ 262142
    && w.hour ≤ 23 && w.minute ≤ 59 && w.second ≤ 60 && -1440 < w.offset && w.offset < 1440

/-- The moment in universal time. -/
def toTimestamp? (w : WrittenTime) : Option Timestamp :=
  if w.isValid then
    let minutes : Int := w.hour * 60 + w.minute - w.offset
    let day := w.date.dayNumber + minutes / 1440
    let second := (minutes % 1440).toNat * 60 + min w.second 59
    let nano := if w.second = 60 then w.nano + nanosPerSecond else w.nano
    if h : (firstDay ≤ day ∧ day ≤ lastDay) ∧ second < secondsPerDay ∧
        (nano < nanosPerSecond ∨ (second % 60 = 59 ∧ nano < 2 * nanosPerSecond)) then
      some ⟨day, second, nano, h.1, h.2.1, h.2.2⟩
    else none
  else none

end WrittenTime

namespace Rfc3339

/-- What follows the leading blank characters. -/
def skipBlank (cs : List Char) : List Char := cs.dropWhile Text.isBlank

/-- Reads up to `most` digits, and at least one. -/
def number? (most : Nat) (cs : List Char) : Option (Nat × List Char) :=
  match (Decimal.spanDigits (cs.take most)).1 with
  | [] => none
  | digits => some (Decimal.ofDigits digits, cs.drop digits.length)

/-- Reads a year. With a sign it may have any number of digits. -/
def year? (cs : List Char) : Option (Int × List Char) :=
  match cs with
  | '-' :: rest => (number? rest.length rest).map fun (n, rest) => (-(n : Int), rest)
  | '+' :: rest => (number? rest.length rest).map fun (n, rest) => ((n : Int), rest)
  | rest => (number? 4 rest).map fun (n, rest) => ((n : Int), rest)

/-- Reads `mark` after blank characters, and then a number of one or two digits. -/
def marked? (mark : Char) (cs : List Char) : Option (Nat × List Char) :=
  match skipBlank cs with
  | c :: rest => if c = mark then number? 2 (skipBlank rest) else none
  | [] => none

/-- Reads the fraction of a second, cut after nine digits. -/
def fraction? (cs : List Char) : Option (Nat × List Char) :=
  match cs with
  | '.' :: rest =>
    match Decimal.spanDigits rest with
    | ([], _) => none
    | (digits, rest) =>
      let kept := digits.take 9
      some (Decimal.ofDigits kept * Nat.pow 10 (9 - kept.length), rest)
  | _ => some (0, cs)

/-- Reads exactly two digits. -/
def twoDigits? (cs : List Char) : Option (Nat × List Char) :=
  match cs with
  | a :: b :: rest => do
    let tens ← Decimal.digit? a
    let ones ← Decimal.digit? b
    return (tens * 10 + ones, rest)
  | _ => none

/-- The sign of an offset. It may be a minus sign proper. -/
def offsetSign? (c : Char) : Option Int :=
  if c = '+' then some 1
  else if c = '-' ∨ c = '\u2212' then some (-1)
  else none

/-- Whether the characters spell `UTC` in either case. -/
def isUtc (a b c : Char) : Bool :=
  (a = 'U' || a = 'u') && (b = 'T' || b = 't') && (c = 'C' || c = 'c')

/-- Reads a signed offset in minutes. Colons and blank characters may part the hours from the
minutes. -/
def signedOffset? (cs : List Char) : Option (Int × List Char) :=
  match cs with
  | c :: rest => do
    let sign ← offsetSign? c
    let (hours, rest) ← twoDigits? rest
    let (minutes, rest) ← twoDigits? (rest.dropWhile fun c => c = ':' || Text.isBlank c)
    if minutes ≤ 59 then return (sign * (hours * 60 + minutes), rest) else none
  | [] => none

/-- Reads the offset in minutes. -/
def offset? (cs : List Char) : Option (Int × List Char) :=
  match cs with
  | 'Z' :: rest => some (0, rest)
  | 'z' :: rest => some (0, rest)
  | a :: b :: c :: rest => if isUtc a b c then some (0, rest) else signedOffset? cs
  | _ => signedOffset? cs

/-- Reads a date and a time that take up the whole text. -/
def written? (cs : List Char) : Option WrittenTime := do
  let (year, rest) ← year? (skipBlank cs)
  let (month, rest) ← marked? '-' rest
  let (day, rest) ← marked? '-' rest
  match rest with
  | [] => none
  | c :: rest =>
    if c = 'T' ∨ c = 't' ∨ c = ' ' then
      let (hour, rest) ← number? 2 (skipBlank rest)
      let (minute, rest) ← marked? ':' rest
      let (second, rest) ← marked? ':' rest
      let (nano, rest) ← fraction? rest
      let (offset, rest) ← offset? (skipBlank rest)
      if (skipBlank rest).isEmpty then
        return { date := ⟨year, month, day⟩, hour, minute, second, nano, offset }
      else none
    else none

/-- The digits of `n`, with zeros before them up to `width`. -/
def padded (width n : Nat) : List Char :=
  let digits := Nat.toDigits 10 n
  List.replicate (width - digits.length) '0' ++ digits

/-- The year. Outside four digits it has a sign. -/
def yearText (year : Int) : List Char :=
  if 0 ≤ year ∧ year ≤ 9999 then padded 4 year.toNat
  else (if year < 0 then '-' else '+') :: padded 4 year.natAbs

/-- The digits of the fraction in groups of three, without the groups of zeros at the end. -/
def fractionText (nano : Nat) : List Char :=
  if nano = 0 then []
  else if nano % nanosPerMilli = 0 then '.' :: padded 3 (nano / nanosPerMilli)
  else if nano % 1000 = 0 then '.' :: padded 6 (nano / 1000)
  else '.' :: padded 9 nano

end Rfc3339

namespace Timestamp

/-- The timestamp of a text. -/
def read? (text : String) : Option Timestamp := do
  let w ← Rfc3339.written? text.toList
  w.toTimestamp?

/-- Whether the timestamp lies in a leap second. -/
def inLeapSecond (t : Timestamp) : Bool := nanosPerSecond ≤ t.nano

/-- The fraction of the second in nanoseconds. -/
def fraction (t : Timestamp) : Nat := if t.inLeapSecond then t.nano - nanosPerSecond else t.nano

/-- The text up to the second. -/
def wholeText (t : Timestamp) : List Char :=
  let date := Date.ofDayNumber t.day
  let second := t.second % 60 + (if t.inLeapSecond then 1 else 0)
  Rfc3339.yearText date.year ++ '-' :: Rfc3339.padded 2 date.month ++ '-' ::
    Rfc3339.padded 2 date.day ++ 'T' :: Rfc3339.padded 2 (t.second / 3600) ++ ':' ::
    Rfc3339.padded 2 (t.second / 60 % 60) ++ ':' :: Rfc3339.padded 2 second

/-- The text with the whole fraction. -/
def canonical (t : Timestamp) : String :=
  String.ofList (t.wholeText ++ Rfc3339.fractionText t.fraction ++ ['Z'])

/-- The text with a fraction of three digits. -/
def toMillis (t : Timestamp) : String :=
  String.ofList (t.wholeText ++ '.' :: Rfc3339.padded 3 (t.fraction / nanosPerMilli) ++ ['Z'])

end Timestamp

end TenantSearch.Time

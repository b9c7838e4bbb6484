import Rehearsal.Text.Blank
import Rehearsal.Double.Decimal

/-!
# Points in time

A timestamp is a number of seconds since the start of 1970, without leap seconds, and a number of
nanoseconds; a leap second is written as a second whose nanoseconds go on past the thousandth
million. `Date` is a day of the Gregorian calendar, `daysOf` and `ofDays` convert between a date
and its number. `render` writes a timestamp in universal time, and `read?` reads date, time and
offset, with blanks allowed between the parts.
-/

namespace Rehearsal

/-! ### Dates -/

/-- A day of the Gregorian calendar. -/
structure Date where
  year : Int
  /-- From 1 to 12. -/
  month : Nat
  /-- From 1 up. -/
  day : Nat
  deriving DecidableEq, Repr

namespace Date

def isLeapYear (year : Int) : Bool := year % 4 = 0 && (year % 100 != 0 || year % 400 = 0)

def daysInMonth (year : Int) (month : Nat) : Nat :=
  if month = 2 then if isLeapYear year then 29 else 28
  else if month = 4 ∨ month = 6 ∨ month = 9 ∨ month = 11 then 30
  else 31

def isValid (d : Date) : Bool :=
  1 ≤ d.month && d.month ≤ 12 && 1 ≤ d.day && d.day ≤ daysInMonth d.year d.month

/-- How many days there are from the first of March to the first of a month, March being 0. -/
def daysBeforeMonth (m : Nat) : Nat := (153 * m + 2) / 5

/-- How many days a date lies after the first of January 1970. The year is taken to begin in March,
so that a leap day comes last. -/
def daysOf (d : Date) : Int :=
  let y := if d.month ≤ 2 then d.year - 1 else d.year
  let m := (d.month + 9) % 12
  365 * y + y / 4 - y / 100 + y / 400 + daysBeforeMonth m + d.day - 1 - 719468

/-- The date so many days after the first of January 1970. -/
def ofDays (n : Int) : Date :=
  -- the days since the first of March of the year 0, in eras of 400 years
  let z := n + 719468
  let era := z / 146097
  let dayOfEra := (z % 146097).toNat
  let yearOfEra := (dayOfEra - dayOfEra / 1460 + dayOfEra / 36524 - dayOfEra / 146096) / 365
  let dayOfYear := dayOfEra - (365 * yearOfEra + yearOfEra / 4 - yearOfEra / 100)
  let m := (5 * dayOfYear + 2) / 153
  let month := if m < 10 then m + 3 else m - 9
  -- January and February belong to the year that began in March before
  { year := (yearOfEra : Int) + era * 400 + (if month ≤ 2 then 1 else 0)
    month := month
    day := dayOfYear - daysBeforeMonth m + 1 }

/-- The day of the week, Sunday being 0. -/
def weekday (d : Date) : Nat := ((d.daysOf + 4) % 7).toNat

/-- The number of the day in its year, from 1. -/
def dayOfYear (d : Date) : Nat := (d.daysOf - daysOf ⟨d.year, 1, 1⟩).toNat + 1

/-- The year and number of the week, from Monday to Sunday, that a date belongs to; the first week
of a year is the one with its first Thursday. -/
def week (d : Date) : Int × Nat :=
  let thursday := ofDays (d.daysOf + 3 - ((d.weekday + 6) % 7 : Nat))
  (thursday.year, (thursday.dayOfYear - 1) / 7 + 1)

end Date

/-! ### Timestamps -/

/-- A point in time. -/
structure Timestamp where
  /-- Seconds since the start of 1970. -/
  seconds : Int
  /-- Nanoseconds on top; in a leap second they go on past `nanosPerSecond`. -/
  nanos : Nat
  deriving DecidableEq, Repr

namespace Timestamp

/-- How many nanoseconds make a second. -/
def nanosPerSecond : Nat := 1_000_000_000

def date (t : Timestamp) : Date := Date.ofDays (t.seconds / 86400)

/-- Seconds since midnight. -/
def secondOfDay (t : Timestamp) : Nat := (t.seconds % 86400).toNat

def hour (t : Timestamp) : Nat := t.secondOfDay / 3600

def minute (t : Timestamp) : Nat := t.secondOfDay / 60 % 60

/-- The second, which is 60 in a leap second. -/
def second (t : Timestamp) : Nat :=
  t.secondOfDay % 60 + (if nanosPerSecond ≤ t.nanos then 1 else 0)

/-- The nanoseconds within the second. -/
def subsecond (t : Timestamp) : Nat := t.nanos % nanosPerSecond

/-- The digits of a number, filled up with a character to a width. -/
def padded (fill : Char) (width n : Nat) : List Char :=
  let ds := Decimal.digitsOf n
  List.replicate (width - ds.length) fill ++ ds

def twoDigits (n : Nat) : List Char := padded '0' 2 n

/-- A year with at least four digits; one that needs another form carries a sign. -/
def yearText (y : Int) : List Char :=
  if 0 ≤ y ∧ y ≤ 9999 then padded '0' 4 y.toNat
  else (if y < 0 then '-' else '+') :: padded '0' 4 y.natAbs

/-- The fraction of a second in as few groups of three digits as are needed. -/
def fractionText (nanos : Nat) : List Char :=
  if nanos = 0 then []
  else if nanos % 1_000_000 = 0 then '.' :: padded '0' 3 (nanos / 1_000_000)
  else if nanos % 1000 = 0 then '.' :: padded '0' 6 (nanos / 1000)
  else '.' :: padded '0' 9 nanos

/-- Date and time in universal time, without an offset. -/
def dateTimeText (t : Timestamp) : List Char :=
  let d := t.date
  yearText d.year ++ '-' :: twoDigits d.month ++ '-' :: twoDigits d.day
    ++ 'T' :: twoDigits t.hour ++ ':' :: twoDigits t.minute ++ ':' :: twoDigits t.second
    ++ fractionText t.subsecond

/-- The written form with `Z` for the offset. -/
def render (t : Timestamp) : String := String.ofList (t.dateTimeText ++ ['Z'])

/-- The written form with a numeric offset. -/
def renderWithOffset (t : Timestamp) : String :=
  String.ofList (t.dateTimeText ++ "+00:00".toList)

/-! ### Reading -/

/-- A number of at least one and at most `most` digits. -/
def readDigits? (most : Nat) (cs : List Char) : Option (Nat × List Char) :=
  let ds := (cs.take most).takeWhile Char.isDigit
  if ds.isEmpty then none else some (Decimal.valueOf 0 ds, cs.drop ds.length)

/-- Such a number, with blanks in front. -/
def readNumber? (most : Nat) (cs : List Char) : Option (Nat × List Char) :=
  readDigits? most (Text.trimLeft cs)

/-- A year: up to four digits, or a sign and any number of digits. -/
def readYear? (cs : List Char) : Option (Int × List Char) :=
  match Text.trimLeft cs with
  | '-' :: r => (readDigits? r.length r).map fun (n, r) => (-(n : Int), r)
  | '+' :: r => (readDigits? r.length r).map fun (n, r) => ((n : Int), r)
  | r => (readDigits? 4 r).map fun (n, r) => ((n : Int), r)

/-- This character, with blanks in front. -/
def expect? (c : Char) (cs : List Char) : Option (List Char) :=
  match Text.trimLeft cs with
  | d :: r => if d = c then some r else none
  | [] => none

/-- The fraction of a second in nanoseconds; digits past the ninth do not count. -/
def readFraction? : List Char → Option (Nat × List Char)
  | '.' :: r =>
    let ds := r.takeWhile Char.isDigit
    if ds.isEmpty then none
    else
      let padding := List.replicate (9 - ds.length) '0'
      some (Decimal.valueOf 0 (ds.take 9 ++ padding), r.drop ds.length)
  | r => some (0, r)

/-- Two digits. -/
def readTwo? : List Char → Option (Nat × List Char)
  | a :: b :: r =>
    if a.isDigit ∧ b.isDigit then some (Decimal.valueOf 0 [a, b], r) else none
  | _ => none

/-- An offset from universal time in seconds. -/
def readOffset? (cs : List Char) : Option (Int × List Char) :=
  let signed (negative : Bool) (r : List Char) : Option (Int × List Char) := do
    let (hours, r) ← readTwo? r
    let r := r.dropWhile fun c => c = ':' || Text.isBlank c
    let (minutes, r) ← readTwo? r
    if 59 < minutes then none
    else
      let n : Int := hours * 3600 + minutes * 60
      some (if negative then -n else n, r)
  match cs with
  | [] => none
  | 'Z' :: r | 'z' :: r => some (0, r)
  | '+' :: r => signed false r
  | '-' :: r => signed true r
  | c :: r =>
    if c.toNat = 0x2212 then signed true r
    else if (cs.take 3).map Char.toUpper = ['U', 'T', 'C'] then some (0, cs.drop 3)
    else none

/-- Does a second lie in a year that a timestamp may have, from -262143 to 262142? -/
def isInRange (seconds : Int) : Bool :=
  Date.daysOf ⟨-262143, 1, 1⟩ * 86400 ≤ seconds && seconds < Date.daysOf ⟨262143, 1, 1⟩ * 86400

/-- Read a date, a time and an offset. -/
def read? (s : String) : Option Timestamp := do
  let (year, r) ← readYear? s.toList
  let r ← expect? '-' r
  let (month, r) ← readNumber? 2 r
  let r ← expect? '-' r
  let (day, r) ← readNumber? 2 r
  let r ← match r with
    | c :: r => if c = 'T' ∨ c = 't' ∨ c = ' ' then some r else none
    | [] => none
  let (hour, r) ← readNumber? 2 r
  let r ← expect? ':' r
  let (minute, r) ← readNumber? 2 r
  let r ← expect? ':' r
  let (second, r) ← readNumber? 2 r
  let (nanos, r) ← readFraction? r
  let (offset, r) ← readOffset? (Text.trimLeft r)
  let date : Date := ⟨year, month, day⟩
  if !(Text.trimLeft r).isEmpty ∨ !date.isValid ∨ 23 < hour ∨ 59 < minute ∨ 60 < second
      ∨ 86400 ≤ offset.natAbs then none
  else
    -- a leap second is the one before it, with more than a second of nanoseconds
    let leap := second = 60
    let clock : Int := hour * 3600 + minute * 60 + (if leap then 59 else second)
    let seconds := date.daysOf * 86400 + clock
    if isInRange seconds && isInRange (seconds - offset) then
      some { seconds := seconds - offset, nanos := nanos + (if leap then nanosPerSecond else 0) }
    else none

end Timestamp
end Rehearsal

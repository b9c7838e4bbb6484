import Rehearsal.Function.Arguments
import Rehearsal.Timestamp

/-!
# The date function

A format is a text with directives, each a percent sign and a letter, with a choice of padding in
between: `-` for none, `_` for blanks, `0` for zeros. `formatTime?` writes a point of universal time
in a format; there is no text if a directive is unknown or cut short, or if padding is asked for
where no number is written.
-/

namespace Rehearsal.Function

/-- How a number is filled up. -/
inductive Padding
  | none
  | zeros
  | blanks

/-- Write a number that is filled up to a width. -/
def padNumber (padding : Padding) (width n : Nat) : List Char :=
  match padding with
  | .none => Timestamp.padded '0' 1 n
  | .zeros => Timestamp.padded '0' width n
  | .blanks => Timestamp.padded ' ' width n

/-- Write a year; one that has not four digits carries a sign. -/
def padYear (padding : Padding) (y : Int) : List Char :=
  if 0 ≤ y ∧ y ≤ 9999 then padNumber padding 4 y.toNat
  else (if y < 0 then '-' else '+') :: padNumber padding 4 y.natAbs

def monthNames : List String :=
  ["January", "February", "March", "April", "May", "June", "July", "August", "September",
    "October", "November", "December"]

def weekdayNames : List String :=
  ["Sunday", "Monday", "Tuesday", "Wednesday", "Thursday", "Friday", "Saturday"]

/-- The hour on a clock face. -/
def hour12 (t : Timestamp) : Nat := if t.hour % 12 = 0 then 12 else t.hour % 12

/-- A directive that writes one number: its own padding and the way to write it. -/
def numeric? (t : Timestamp) (c : Char) : Option (Padding × (Padding → List Char)) :=
  let d := t.date
  let two (n : Nat) := some (Padding.zeros, fun p => padNumber p 2 n)
  match c with
  | 'Y' => some (.zeros, fun p => padYear p d.year)
  | 'C' => two (d.year / 100).toNat
  | 'y' => two (d.year % 100).toNat
  | 'G' => some (.zeros, fun p => padYear p d.week.1)
  | 'g' => two (d.week.1 % 100).toNat
  | 'm' => two d.month
  | 'd' => two d.day
  | 'e' => some (.blanks, fun p => padNumber p 2 d.day)
  | 'H' => two t.hour
  | 'k' => some (.blanks, fun p => padNumber p 2 t.hour)
  | 'I' => two (hour12 t)
  | 'l' => some (.blanks, fun p => padNumber p 2 (hour12 t))
  | 'M' => two t.minute
  | 'S' => two t.second
  | 'U' => two ((d.dayOfYear + 6 - d.weekday) / 7)
  | 'W' => two ((d.dayOfYear + 6 - (d.weekday + 6) % 7) / 7)
  | 'V' => two d.week.2
  | 'j' => some (.zeros, fun p => padNumber p 3 d.dayOfYear)
  | 'f' => some (.zeros, fun p => padNumber p 9 t.subsecond)
  | 'u' => some (.none, fun p => padNumber p 1 ((d.weekday + 6) % 7 + 1))
  | 'w' => some (.none, fun p => padNumber p 1 d.weekday)
  | 'q' => some (.none, fun p => padNumber p 1 ((d.month + 2) / 3))
  | 's' => some (.none, fun p => (if t.seconds < 0 then ['-'] else [])
      ++ padNumber p 1 t.seconds.natAbs)
  | _ => none

/-- A directive that writes words, or several numbers. -/
def verbal? (t : Timestamp) (c : Char) : Option (List Char) :=
  let d := t.date
  let month := (monthNames.getD (d.month - 1) "").toList
  let weekday := (weekdayNames.getD d.weekday "").toList
  let year := padYear .zeros d.year
  let two := Timestamp.twoDigits
  let time := two t.hour ++ ':' :: two t.minute ++ ':' :: two t.second
  let day := padNumber .blanks 2 d.day
  match c with
  | 'A' => some weekday
  | 'a' => some (weekday.take 3)
  | 'B' => some month
  | 'b' | 'h' => some (month.take 3)
  | 'D' | 'x' => some (two d.month ++ '/' :: two d.day ++ '/' :: two (d.year % 100).toNat)
  | 'F' => some (year ++ '-' :: two d.month ++ '-' :: two d.day)
  | 'v' => some (day ++ '-' :: month.take 3 ++ '-' :: year)
  | 'R' => some (two t.hour ++ ':' :: two t.minute)
  | 'T' | 'X' => some time
  | 'r' => some (two (hour12 t) ++ ':' :: two t.minute ++ ':' :: two t.second
      ++ (if t.hour < 12 then " AM" else " PM").toList)
  | 'c' => some (weekday.take 3 ++ ' ' :: month.take 3 ++ ' ' :: day ++ ' ' :: time
      ++ ' ' :: year)
  | 'p' => some (if t.hour < 12 then "AM" else "PM").toList
  | 'P' => some (if t.hour < 12 then "am" else "pm").toList
  | 'Z' => some "+00:00".toList
  | 'z' => some "+0000".toList
  | '+' => some t.renderWithOffset.toList
  | 'n' => some ['\n']
  | 't' => some ['\t']
  | '%' => some ['%']
  | _ => none

/-- The leading digits of the fraction of a second. -/
def fractionDigits (t : Timestamp) (places : Nat) : List Char :=
  (padNumber .zeros 9 t.subsecond).take places

/-- How many places a digit asks for. -/
def places? (c : Char) : Option Nat :=
  if c = '3' then some 3 else if c = '6' then some 6 else if c = '9' then some 9 else none

/-- Write a point in time in a format. -/
def formatTime? (t : Timestamp) : List Char → Option (List Char)
  | '%' :: '.' :: 'f' :: r => (formatTime? t r).map (Timestamp.fractionText t.subsecond ++ ·)
  | '%' :: '.' :: n :: 'f' :: r => do
    let places ← places? n
    return '.' :: fractionDigits t places ++ (← formatTime? t r)
  | '%' :: ':' :: ':' :: ':' :: 'z' :: r => (formatTime? t r).map ("+00".toList ++ ·)
  | '%' :: ':' :: ':' :: 'z' :: r => (formatTime? t r).map ("+00:00:00".toList ++ ·)
  | '%' :: ':' :: 'z' :: r => (formatTime? t r).map ("+00:00".toList ++ ·)
  | '%' :: '-' :: c :: r => do
    let (_, write) ← numeric? t c
    return write .none ++ (← formatTime? t r)
  | '%' :: '_' :: c :: r => do
    let (_, write) ← numeric? t c
    return write .blanks ++ (← formatTime? t r)
  | '%' :: '0' :: c :: r => do
    let (_, write) ← numeric? t c
    return write .zeros ++ (← formatTime? t r)
  | '%' :: c :: r =>
    match places? c, r with
    | some places, 'f' :: r => (formatTime? t r).map (fractionDigits t places ++ ·)
    | _, r =>
      match numeric? t c with
      | some (padding, write) => (formatTime? t r).map (write padding ++ ·)
      | none => do return (← verbal? t c) ++ (← formatTime? t r)
  | ['%'] => none
  | c :: r => (formatTime? t r).map (c :: ·)
  | [] => some []

/-- The present date, by default as day, month and year. -/
def currentDate : Function := fun args => do
  liftM (checkCount "currentDate" (.between 0 1) args)
  let format := args.headD "%d.%m.%Y"
  match formatTime? (← Draw.now) format.toList with
  | some cs => return String.ofList cs
  | none => liftM (fail (α := String) "currentDate" (.dateFormat format))

end Rehearsal.Function

import Rowset.Text.Blank
import Rowset.Text.Decimal

/-!
# Calendar dates

Dates of the Gregorian calendar, continued in both directions. A date is written as year, month and
day; years of more than four digits and years before zero carry a sign. Reading is lenient about
blank space and leading zeros.
-/

namespace Rowset

open Rowset.Text

def isLeapYear (year : Int) : Bool :=
  year % 4 == 0 && (year % 100 != 0 || year % 400 == 0)

/-- The number of days of a month; months are numbered from one. -/
def daysInMonth (year : Int) (month : Nat) : Nat :=
  if month = 2 then if isLeapYear year then 29 else 28
  else if month = 4 ∨ month = 6 ∨ month = 9 ∨ month = 11 then 30
  else 31

/-- The years that dates may have. -/
def inYearRange (year : Int) : Bool := -262143 ≤ year && year ≤ 262142

/-- Whether there is such a day. -/
def isCalendarDay (year : Int) (month day : Nat) : Bool :=
  inYearRange year && 1 ≤ month && month ≤ 12 && 1 ≤ day && day ≤ daysInMonth year month

/-- A day of the calendar. -/
structure Date where
  year : Int
  month : Nat
  day : Nat
  valid : isCalendarDay year month day = true
deriving DecidableEq

namespace Date

/-- The date of a year, month and day, if there is one. -/
def of? (year : Int) (month day : Nat) : Option Date :=
  if valid : isCalendarDay year month day = true then some ⟨year, month, day, valid⟩ else none

/-- The first of January 1970, from which days are counted. -/
def epoch : Date := ⟨1970, 1, 1, by decide⟩

/-- The number of days since the epoch. Years are counted from March on, so that a leap day comes
last. -/
def dayNumber (d : Date) : Int :=
  let year := if d.month ≤ 2 then d.year - 1 else d.year
  let era := year / 400
  let yearOfEra := year - era * 400
  let dayOfYear : Int := ((153 * ((d.month + 9) % 12) + 2) / 5 + d.day - 1 : Nat)
  era * 146097 + yearOfEra * 365 + yearOfEra / 4 - yearOfEra / 100 + dayOfYear - 719468

/-- The date with a given number of days since the epoch. -/
def ofDayNumber? (n : Int) : Option Date :=
  let shifted := n + 719468
  let era := shifted / 146097
  let dayOfEra := (shifted - era * 146097).toNat
  let yearOfEra := (dayOfEra - dayOfEra / 1460 + dayOfEra / 36524 - dayOfEra / 146096) / 365
  let dayOfYear := dayOfEra - (365 * yearOfEra + yearOfEra / 4 - yearOfEra / 100)
  let monthFromMarch := (5 * dayOfYear + 2) / 153
  let day := dayOfYear - (153 * monthFromMarch + 2) / 5 + 1
  let month := if monthFromMarch < 10 then monthFromMarch + 3 else monthFromMarch - 9
  let year := era * 400 + yearOfEra
  of? (if month ≤ 2 then year + 1 else year) month day

/-- The day before. -/
def previous? (d : Date) : Option Date :=
  if 1 < d.day then of? d.year d.month (d.day - 1)
  else if 1 < d.month then of? d.year (d.month - 1) (daysInMonth d.year (d.month - 1))
  else of? (d.year - 1) 12 31

/-- The day after. -/
def next? (d : Date) : Option Date :=
  if d.day < daysInMonth d.year d.month then of? d.year d.month (d.day + 1)
  else if d.month < 12 then of? d.year (d.month + 1) 1
  else of? (d.year + 1) 1 1

/-! ## Text -/

/-- A year with at least four digits, signed unless it has four. -/
def yearText (year : Int) : List Char :=
  if 0 ≤ year ∧ year ≤ 9999 then Decimal.padded 4 year.toNat
  else (if year < 0 then '-' else '+') :: Decimal.padded 4 year.natAbs

def print (d : Date) : List Char :=
  yearText d.year ++ '-' :: Decimal.padded 2 d.month ++ '-' :: Decimal.padded 2 d.day

end Date

/-- Takes at least one and at most `limit` digits off the front. -/
def digitsUpTo? (limit : Nat) (cs : List Char) : Option (List Char × List Char) :=
  match (cs.take limit).takeWhile Char.isDigit with
  | [] => none
  | ds => some (ds, cs.drop ds.length)

/-- Takes a number of at most `limit` digits off the front, with blank space allowed before it. -/
def numberUpTo? (limit : Nat) (cs : List Char) : Option (Nat × List Char) :=
  (digitsUpTo? limit (dropBlank cs)).map fun (ds, rest) => (Decimal.toNat ds, rest)

/-- Takes a mark off the front, with blank space allowed before it. -/
def mark? (mark : Char) (cs : List Char) : Option (List Char) :=
  match dropBlank cs with
  | [] => none
  | c :: rest => if c = mark then some rest else none

namespace Date

/-- Takes a year off the front: up to four digits, or a sign and any number of them. -/
def year? (cs : List Char) : Option (Int × List Char) :=
  match dropBlank cs with
  | '-' :: rest =>
    (digitsUpTo? rest.length rest).map fun (ds, rest) => (-(Decimal.toNat ds : Int), rest)
  | '+' :: rest =>
    (digitsUpTo? rest.length rest).map fun (ds, rest) => ((Decimal.toNat ds : Int), rest)
  | rest => (digitsUpTo? 4 rest).map fun (ds, rest) => ((Decimal.toNat ds : Int), rest)

/-- Takes a date off the front. -/
def take? (cs : List Char) : Option (Date × List Char) := do
  let (year, cs) ← year? cs
  let cs ← mark? '-' cs
  let (month, cs) ← numberUpTo? 2 cs
  let cs ← mark? '-' cs
  let (day, cs) ← numberUpTo? 2 cs
  return (← of? year month day, cs)

/-- Reads a whole text as a date. -/
def parse? (cs : List Char) : Option Date := do
  let (date, rest) ← take? cs
  if (dropBlank rest).isEmpty then return date else none

end Date

end Rowset

import Rowset.Time.Date

/-!
# Points in time

A timestamp is a date and a time of day in universal time, to the nanosecond. A leap second is held
as the second before it with more than a thousand million nanoseconds. Within a minute it is written
as the second that follows, at the end of a minute as a 60th. Only the latter is ever read; a leap
second within a minute can be held all the same, since the nanoseconds of a time of day may be set by
themselves. Fractions are written with three, six or nine digits, the fewest that are exact. Reading
takes any offset from universal time and applies it.
-/

namespace Rowset

open Rowset.Text

/-- A time of day in universal time. Any second may be a leap second. -/
@[ext]
structure TimeOfDay where
  /-- Seconds since midnight. -/
  second : Nat
  /-- Nanoseconds of the second, or of it and the leap second behind it. -/
  nanosecond : Nat
  second_lt : second < 86400
  nanosecond_lt : nanosecond < 2000000000
deriving DecidableEq

/-- A point in time. -/
@[ext]
structure Timestamp where
  date : Date
  time : TimeOfDay
deriving DecidableEq

namespace TimeOfDay

/-- A time of day from its parts, of which the end of a minute alone is given a leap second. -/
def of? (second nanosecond : Nat) : Option TimeOfDay :=
  if parts : second < 86400 ∧ nanosecond < 2000000000 then
    if nanosecond < 1000000000 ∨ second % 60 = 59 then
      some ⟨second, nanosecond, parts.1, parts.2⟩
    else none
  else none

def midnight : TimeOfDay := ⟨0, 0, by decide, by decide⟩

/-- The digits behind the second, and the point before them. -/
def fractionText (nanosecond : Nat) : List Char :=
  if nanosecond = 0 then []
  else if nanosecond % 1000000 = 0 then '.' :: Decimal.padded 3 (nanosecond / 1000000)
  else if nanosecond % 1000 = 0 then '.' :: Decimal.padded 6 (nanosecond / 1000)
  else '.' :: Decimal.padded 9 nanosecond

def print (t : TimeOfDay) : List Char :=
  Decimal.padded 2 (t.second / 3600) ++ ':' :: Decimal.padded 2 (t.second / 60 % 60)
    ++ ':' :: Decimal.padded 2 (t.second % 60 + t.nanosecond / 1000000000)
    ++ fractionText (t.nanosecond % 1000000000)

/-- Takes the fraction of a second off the front, if there is one; digits beyond the ninth are
dropped. -/
def takeFraction? : List Char → Option (Nat × List Char)
  | '.' :: cs =>
    (digitsUpTo? 9 cs).map fun (ds, rest) =>
      (Decimal.toNat ((ds ++ List.replicate 9 '0').take 9), rest.dropWhile Char.isDigit)
  | cs => some (0, cs)

/-- Takes a time of day off the front. A 60th second belongs to the 59th. -/
def take? (cs : List Char) : Option (TimeOfDay × List Char) := do
  let (hour, cs) ← numberUpTo? 2 cs
  let cs ← mark? ':' cs
  let (minute, cs) ← numberUpTo? 2 cs
  let cs ← mark? ':' cs
  let (second, cs) ← numberUpTo? 2 cs
  let (nanosecond, cs) ← takeFraction? cs
  if 23 < hour ∨ 59 < minute ∨ 60 < second then none
  else if second = 60 then
    return (← of? (3600 * hour + 60 * minute + 59) (1000000000 + nanosecond), cs)
  else return (← of? (3600 * hour + 60 * minute + second) nanosecond, cs)

end TimeOfDay

namespace Timestamp

def epoch : Timestamp := ⟨.epoch, .midnight⟩

/-- Seconds since the epoch, leap seconds not counted. -/
def epochSecond (t : Timestamp) : Int := t.date.dayNumber * 86400 + t.time.second

/-- The timestamp with so many seconds and nanoseconds since the epoch. -/
def ofEpoch? (second : Int) (nanosecond : Nat) : Option Timestamp := do
  return ⟨← Date.ofDayNumber? (second / 86400), ← TimeOfDay.of? (second % 86400).toNat nanosecond⟩

/-- Date and time of day, without the offset that follows. -/
def localText (t : Timestamp) : List Char := t.date.print ++ 'T' :: t.time.print

/-- The timestamp with its offset from universal time spelled out. -/
def print (t : Timestamp) : List Char := t.localText ++ ['+', '0', '0', ':', '0', '0']

/-- The timestamp with the short mark of universal time. -/
def printShort (t : Timestamp) : List Char := t.localText ++ ['Z']

/-- Takes an offset from universal time, in minutes, off the front. -/
def takeOffset? : List Char → Option (Int × List Char)
  | 'Z' :: rest | 'z' :: rest => some (0, rest)
  | u :: t :: c :: rest =>
    if u.toUpper = 'U' ∧ t.toUpper = 'T' ∧ c.toUpper = 'C' then some (0, rest)
    else if u = '+' ∨ u = '-' ∨ u = '−' then do
      let (hours, rest) ← twoDigits? (t :: c :: rest)
      let (minutes, rest) ← twoDigits? (rest.dropWhile fun c => c == ':' || isBlank c)
      if 59 < minutes ∨ 23 < hours then none
      else
        let offset : Int := (60 * hours + minutes : Nat)
        return (if u = '+' then offset else -offset, rest)
    else none
  | _ => none
where
  twoDigits? : List Char → Option (Nat × List Char)
    | a :: b :: rest =>
      if a.isDigit && b.isDigit then some (Decimal.toNat [a, b], rest) else none
    | _ => none

/-- The point in time at which clocks ahead of universal time by so many minutes show `t`. -/
def behind? (t : Timestamp) (minutes : Int) : Option Timestamp := do
  let second : Int := t.time.second - 60 * minutes
  let time : TimeOfDay :=
    ⟨(second % 86400).toNat, t.time.nanosecond, by omega, t.time.nanosecond_lt⟩
  if second < 0 then return ⟨← t.date.previous?, time⟩
  else if 86400 ≤ second then return ⟨← t.date.next?, time⟩
  else return ⟨t.date, time⟩

/-- Reads a whole text as a date, a time of day and an offset from universal time. -/
def parse? (cs : List Char) : Option Timestamp := do
  let (date, cs) ← Date.take? cs
  match cs with
  | [] => none
  | separator :: cs =>
    if separator = 'T' ∨ separator = 't' ∨ separator = ' ' then
      let (time, cs) ← TimeOfDay.take? cs
      let (offset, rest) ← takeOffset? (dropBlank cs)
      if (dropBlank rest).isEmpty then behind? ⟨date, time⟩ offset else none
    else none

end Timestamp

end Rowset

import Listing.Text.Digits

/-!
# Dates, times of day and moments

Dates are those of the Gregorian calendar, carried back before its introduction,
with a year nought and negative years.  A time of day may be a leap second, the
sixty-first of its minute.

* `Date.next?` and `Date.previous?` step by one day;
* `Moment.earlier?` moves a moment by whole minutes, over midnight if need be;
* dates and moments are ordered by their parts, the greatest unit first.
-/

namespace Listing

/-- A year has a twenty-ninth of February. -/
def isLeapYear (year : Int) : Bool :=
  year % 4 = 0 && (year % 100 ≠ 0 || year % 400 = 0)

/-- The number of days of a month; nought for a month that does not exist. -/
def monthLength (year : Int) (month : Nat) : Nat :=
  if month = 2 then if isLeapYear year then 29 else 28
  else if month = 4 ∨ month = 6 ∨ month = 9 ∨ month = 11 then 30
  else if 1 ≤ month ∧ month ≤ 12 then 31
  else 0

/-- A day of a year between 262144 before and 262142 after the year nought. -/
structure Date where
  year : Int
  month : Nat
  day : Nat
  inYears : -262143 ≤ year ∧ year ≤ 262142
  inMonths : 1 ≤ month ∧ month ≤ 12
  inDays : 1 ≤ day ∧ day ≤ monthLength year month
  deriving DecidableEq

namespace Date

/-- The date with the given parts, if there is one. -/
def ofParts? (year : Int) (month day : Nat) : Option Date :=
  if inYears : -262143 ≤ year ∧ year ≤ 262142 then
    if inMonths : 1 ≤ month ∧ month ≤ 12 then
      if inDays : 1 ≤ day ∧ day ≤ monthLength year month then
        some ⟨year, month, day, inYears, inMonths, inDays⟩
      else none
    else none
  else none

/-- The following day. -/
def next? (d : Date) : Option Date :=
  (ofParts? d.year d.month (d.day + 1)).or <|
    (ofParts? d.year (d.month + 1) 1).or <| ofParts? (d.year + 1) 1 1

/-- The day before. -/
def previous? (d : Date) : Option Date :=
  (ofParts? d.year d.month (d.day - 1)).or <|
    (ofParts? d.year (d.month - 1) (monthLength d.year (d.month - 1))).or <|
      ofParts? (d.year - 1) 12 31

/-- The parts of a date, the year first. -/
def key (d : Date) : List Int := [d.year, d.month, d.day]

instance : Ord Date := ⟨compareOn key⟩

/-- A year in four digits; outside the years 0 to 9999 a sign goes in front. -/
def yearText (year : Int) : String :=
  let digits := Text.padded 4 year.natAbs
  if 0 ≤ year ∧ year ≤ 9999 then digits
  else if year < 0 then "-" ++ digits
  else "+" ++ digits

/-- A date as year, month and day between hyphens. -/
def text (d : Date) : String :=
  yearText d.year ++ "-" ++ Text.padded 2 d.month ++ "-" ++ Text.padded 2 d.day

end Date

/-- A time of day to the nanosecond; second 60 is a leap second. -/
structure TimeOfDay where
  hour : Nat
  minute : Nat
  second : Nat
  nanosecond : Nat
  hour_le : hour ≤ 23
  minute_le : minute ≤ 59
  second_le : second ≤ 60
  nanosecond_lt : nanosecond < 1000000000
  deriving DecidableEq

namespace TimeOfDay

/-- The time with the given parts, if there is one. -/
def ofParts? (hour minute second nanosecond : Nat) : Option TimeOfDay :=
  if h : hour ≤ 23 ∧ minute ≤ 59 ∧ second ≤ 60 ∧ nanosecond < 1000000000 then
    some ⟨hour, minute, second, nanosecond, h.1, h.2.1, h.2.2.1, h.2.2.2⟩
  else none

/-- The start of a day. -/
def midnight : TimeOfDay := ⟨0, 0, 0, 0, by decide, by decide, by decide, by decide⟩

/-- The parts of a time, the hour first. -/
def key (t : TimeOfDay) : List Int := [t.hour, t.minute, t.second, t.nanosecond]

/-- The fraction of a second in three, six or nine digits, as few as are exact; nothing for
a whole second. -/
def fractionText (nanosecond : Nat) : String :=
  if nanosecond = 0 then ""
  else if nanosecond % 1000000 = 0 then "." ++ Text.padded 3 (nanosecond / 1000000)
  else if nanosecond % 1000 = 0 then "." ++ Text.padded 6 (nanosecond / 1000)
  else "." ++ Text.padded 9 nanosecond

/-- A time as hour, minute and second between colons. -/
def text (t : TimeOfDay) : String :=
  Text.padded 2 t.hour ++ ":" ++ Text.padded 2 t.minute ++ ":" ++ Text.padded 2 t.second ++
    fractionText t.nanosecond

end TimeOfDay

/-- A time of day on a date.  Whether it is meant as world time or as the time of some place
is up to its use. -/
structure Moment where
  date : Date
  time : TimeOfDay
  deriving DecidableEq

namespace Moment

/-- The start of a day. -/
def startOf (d : Date) : Moment := ⟨d, .midnight⟩

/-- All parts of a moment, the year first. -/
def key (m : Moment) : List Int := m.date.key ++ m.time.key

instance : Ord Moment := ⟨compareOn key⟩

/-- The moment a number of minutes earlier, less than a day away; none beyond the first and
the last year.  A leap second stays one. -/
def earlier? (m : Moment) (minutes : Int) : Option Moment :=
  let total : Int := m.time.hour * 60 + m.time.minute - minutes
  let day := if total < 0 then m.date.previous?
    else if 1440 ≤ total then m.date.next?
    else some m.date
  let inDay := (total % 1440).toNat
  match day, TimeOfDay.ofParts? (inDay / 60) (inDay % 60) m.time.second m.time.nanosecond with
  | some date, some time => some ⟨date, time⟩
  | _, _ => none

/-- Date and time with a `T` between them. -/
def localText (m : Moment) : String := m.date.text ++ "T" ++ m.time.text

/-- A moment of world time, with the offset spelled out. -/
def offsetText (m : Moment) : String := m.localText ++ "+00:00"

/-- A moment of world time, with the letter for no offset. -/
def zuluText (m : Moment) : String := m.localText ++ "Z"

end Moment

end Listing

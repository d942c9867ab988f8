import Listing.Text.Blank
import Listing.Time.Calendar

/-!
# Reading dates and times

Dates and times are read along a layout, a list of parts such as numbers, marks
and optional blanks.  Numbers need not be padded and blanks may stand before
them; a year may carry a sign, and then has any number of digits.

* `Moment.readAny?` takes the forms accepted in parameters: the internet format
  with an offset, then local forms, then a bare date;
* `Moment.readWorld`, `Moment.readLocal` and `Date.readLoose` are the readers for
  documents, `Date.readPlain` that for parameters.
-/

namespace Listing

/-- Why a text is no date or time. -/
inductive TimeFault where
  /-- A number lies outside its range, or there is no such day. -/
  | outOfRange
  /-- The offset leads out of all years. -/
  | impossible
  /-- A character stands where it cannot. -/
  | invalid
  /-- The text ends too early. -/
  | tooShort
  /-- Text is left over. -/
  | trailing
  deriving DecidableEq, Repr

/-- The wording of a time fault. -/
def TimeFault.message : TimeFault → String
  | outOfRange => "input is out of range"
  | impossible => "no possible date and time matching input"
  | invalid => "input contains invalid characters"
  | tooShort => "premature end of input"
  | trailing => "trailing input"

namespace TimeLayout

/-- The numbers a layout can ask for. -/
inductive Unit where
  | year | month | day | hour | minute | second
  deriving DecidableEq, Repr

/-- One part of a layout. -/
inductive Part where
  /-- A number for a unit, with blanks before it. -/
  | number (unit : Unit)
  /-- Any blanks. -/
  | blanks
  /-- Exactly this character. -/
  | mark (c : Char)
  /-- A point and digits for the fraction of a second, or nothing. -/
  | fraction
  deriving DecidableEq, Repr

/-- The numbers read so far; what a layout does not ask for stays nought. -/
structure Numbers where
  year : Int
  month : Nat
  day : Nat
  hour : Nat
  minute : Nat
  second : Nat
  nanosecond : Nat

/-- Nothing read yet. -/
def Numbers.unread : Numbers := ⟨0, 0, 0, 0, 0, 0, 0⟩

/-- The greatest number that is held while digits are read. -/
def ceiling : Nat := 9223372036854775807

/-- Read the next digits, at least one and at most `width` if that is given. -/
def digits (width : Option Nat) (cs : List Char) : Except TimeFault (Nat × List Char) :=
  match cs with
  | [] => .error .tooShort
  | c :: _ =>
    if Text.isDigit c then
      let run := cs.takeWhile Text.isDigit
      let taken := match width with
        | some w => run.take w
        | none => run
      let value := Text.digitsValue taken
      if value ≤ ceiling then .ok (value, cs.drop taken.length) else .error .outOfRange
    else .error .invalid

/-- A year: up to four digits, or a sign and any number of digits. -/
def year (cs : List Char) : Except TimeFault (Int × List Char) :=
  match cs with
  | '-' :: rest => (digits none rest).map fun (n, rest) => (-(n : Int), rest)
  | '+' :: rest => (digits none rest).map fun (n, rest) => ((n : Int), rest)
  | _ => (digits (some 4) cs).map fun (n, rest) => ((n : Int), rest)

/-- A number that must lie in a range. -/
def inRange (low high n : Nat) : Except TimeFault Nat :=
  if low ≤ n ∧ n ≤ high then .ok n else .error .outOfRange

/-- Read one number into its unit. -/
def number (unit : Unit) (ns : Numbers) (cs : List Char) :
    Except TimeFault (Numbers × List Char) := do
  let cs := cs.dropWhile Text.isBlank
  match unit with
  | .year =>
    let (n, rest) ← year cs
    if -2147483648 ≤ n ∧ n < 2147483648 then pure ({ ns with year := n }, rest)
    else .error .outOfRange
  | .month =>
    let (n, rest) ← digits (some 2) cs
    return ({ ns with month := ← inRange 1 12 n }, rest)
  | .day =>
    let (n, rest) ← digits (some 2) cs
    return ({ ns with day := ← inRange 1 31 n }, rest)
  | .hour =>
    let (n, rest) ← digits (some 2) cs
    return ({ ns with hour := ← inRange 0 23 n }, rest)
  | .minute =>
    let (n, rest) ← digits (some 2) cs
    return ({ ns with minute := ← inRange 0 59 n }, rest)
  | .second =>
    let (n, rest) ← digits (some 2) cs
    return ({ ns with second := ← inRange 0 60 n }, rest)

/-- Read the fraction behind a point: nine digits count and further ones are passed over. -/
def fraction (cs : List Char) : Except TimeFault (Nat × List Char) := do
  let (n, rest) ← digits (some 9) cs
  let width := (cs.takeWhile Text.isDigit).length
  return (n * Nat.pow 10 (9 - width), rest.dropWhile Text.isDigit)

/-- Read the parts of a layout one after the other. -/
def read : List Part → Numbers → List Char → Except TimeFault (Numbers × List Char)
  | [], ns, cs => .ok (ns, cs)
  | .number unit :: parts, ns, cs => do
    let (ns, cs) ← number unit ns cs
    read parts ns cs
  | .blanks :: parts, ns, cs => read parts ns (cs.dropWhile Text.isBlank)
  | .mark c :: parts, ns, cs =>
    match cs with
    | [] => .error .tooShort
    | d :: rest => if c = d then read parts ns rest else .error .invalid
  | .fraction :: parts, ns, cs =>
    match cs with
    | '.' :: rest => do
      let (n, rest) ← fraction rest
      read parts { ns with nanosecond := n } rest
    | _ => read parts ns cs

/-- Read a whole text along a layout. -/
def readAll (parts : List Part) (s : String) : Except TimeFault Numbers := do
  match ← read parts .unread s.toList with
  | (ns, []) => pure ns
  | _ => .error .trailing

/-- The date that the numbers name. -/
def Numbers.date (ns : Numbers) : Except TimeFault Date :=
  match Date.ofParts? ns.year ns.month ns.day with
  | some d => .ok d
  | none => .error .outOfRange

/-- The moment that the numbers name. -/
def Numbers.moment (ns : Numbers) : Except TimeFault Moment := do
  let date ← ns.date
  match TimeOfDay.ofParts? ns.hour ns.minute ns.second ns.nanosecond with
  | some time => pure ⟨date, time⟩
  | none => .error .outOfRange

/-! ## Layouts -/

/-- A date, its parts between hyphens. -/
def plainDate : List Part := [.number .year, .mark '-', .number .month, .mark '-', .number .day]

/-- A time, its parts between colons. -/
def plainTime : List Part := [.number .hour, .mark ':', .number .minute, .mark ':', .number .second]

/-- A date with blanks allowed between its parts. -/
def looseDate : List Part :=
  [.number .year, .blanks, .mark '-', .number .month, .blanks, .mark '-', .number .day]

/-- A time to a fraction of a second with blanks allowed between its parts. -/
def looseTime : List Part :=
  [.number .hour, .blanks, .mark ':', .number .minute, .blanks, .mark ':', .number .second,
    .fraction, .blanks]

/-- The local forms that parameters may take, the first that fits counting: with a `T` and
perhaps a fraction, or with blanks or nothing between date and time. -/
def localForms : List (List Part) :=
  [plainDate ++ [.mark 'T'] ++ plainTime ++ [.fraction], plainDate ++ [.blanks] ++ plainTime]

/-! ## Offsets -/

/-- The letters and the blank that may separate a date from a time. -/
def separator : List Char → Except TimeFault (List Char)
  | [] => .error .tooShort
  | c :: rest => if c = 'T' ∨ c = 't' ∨ c = ' ' then .ok rest else .error .invalid

/-- Exactly two digits. -/
def twoDigits : List Char → Except TimeFault (Nat × Nat × List Char)
  | [] => .error .tooShort
  | [c] => .error (if c.toNat < 128 then .tooShort else .invalid)
  | c :: d :: rest =>
    if Text.isDigit c && Text.isDigit d then .ok (Text.digitValue c, Text.digitValue d, rest)
    else .error .invalid

/-- What may stand between the hours and the minutes of an offset. -/
inductive OffsetMark where
  /-- One colon. -/
  | colon
  /-- Any number of colons and blanks. -/
  | loose

/-- Pass over what stands between hours and minutes. -/
def OffsetMark.pass : OffsetMark → List Char → Except TimeFault (List Char)
  | .colon, [] => .error .tooShort
  | .colon, c :: rest => if c = ':' then .ok rest else .error .invalid
  | .loose, cs => .ok (cs.dropWhile fun c => c = ':' || Text.isBlank c)

/-- An offset from world time in minutes, and what follows it. -/
def offset (between : OffsetMark) (cs : List Char) : Except TimeFault (Int × List Char) :=
  match cs with
  | [] => .error .tooShort
  | c :: rest =>
    if c = 'Z' ∨ c = 'z' then .ok (0, rest)
    else if c = '+' ∨ c = '-' ∨ c = Char.ofNat 0x2212 then do
      let (h₁, h₂, rest) ← twoDigits rest
      let rest ← between.pass rest
      let (m₁, m₂, rest) ← twoDigits rest
      if 6 ≤ m₁ then .error .outOfRange
      else
        let minutes : Int := (10 * h₁ + h₂) * 60 + (10 * m₁ + m₂)
        pure (if c = '+' then minutes else -minutes, rest)
    else .error .invalid

/-- Take the offset off a local moment; an offset is less than a day. -/
def toWorld (m : Moment) (minutes : Int) : Except TimeFault Moment :=
  if minutes.natAbs < 1440 then
    match m.earlier? minutes with
    | some m => .ok m
    | none => .error .impossible
  else .error .outOfRange

end TimeLayout

open TimeLayout

/-- A date with nothing around it. -/
def Date.readPlain (s : String) : Except TimeFault Date := do (← readAll plainDate s).date

/-- A date with blanks around its parts. -/
def Date.readLoose (s : String) : Except TimeFault Date := do
  (← readAll (looseDate ++ [.blanks]) s).date

namespace Moment

/-- A local moment, with a capital `T` between date and time and blanks around the parts. -/
def readLocal (s : String) : Except TimeFault Moment := do
  (← readAll (looseDate ++ [.blanks, .mark 'T'] ++ looseTime) s).moment

/-- The offset at the end of a loosely written moment: the name of world time or an offset,
with blanks before and behind. -/
def readOffset (cs : List Char) : Except TimeFault Int := do
  let (minutes, rest) ← match cs with
    | a :: b :: c :: rest =>
      if [a, b, c].map Text.asciiUpper = ['U', 'T', 'C'] then pure (0, rest)
      else offset .loose cs
    | _ => offset .loose cs
  if (rest.dropWhile Text.isBlank).isEmpty then pure minutes else .error .trailing

/-- A moment with an offset, loosely written. -/
def readWorld (s : String) : Except TimeFault Moment := do
  let (ns, rest) ← read looseDate .unread s.toList
  let rest ← separator rest
  let (ns, rest) ← read looseTime ns rest
  let minutes ← readOffset rest
  toWorld (← ns.moment) minutes

/-- The text has a digit at each of the given places. -/
def digitsAt (places : List Nat) (cs : List Char) : Bool :=
  places.all fun i => (cs[i]?).any Text.isDigit

/-- A moment in the strict internet format: every number padded, no blank but the one that
may stand for the `T`, and an offset of two padded numbers with a colon. -/
def readStrict (s : String) : Except TimeFault Moment := do
  let cs := s.toList
  if !digitsAt [0, 1, 2, 3, 5, 6, 8, 9, 11, 12, 14, 15, 17, 18] cs then .error .invalid
  let (ns, rest) ← read plainDate .unread cs
  let rest ← separator rest
  let (ns, rest) ← read (plainTime ++ [.fraction]) ns rest
  match ← offset .colon rest with
  | (minutes, []) => toWorld (← ns.moment) minutes
  | _ => .error .trailing

/-- The first of several readings that succeeds. -/
def firstOf? : List (Except TimeFault Moment) → Option Moment
  | [] => none
  | .ok m :: _ => some m
  | .error _ :: rest => firstOf? rest

/-- A moment in any of the forms that parameters may take; without an offset it is world
time, and without a time of day the start of the day. -/
def readAny? (s : String) : Option Moment :=
  firstOf? <| [readStrict s] ++ localForms.map (fun form => readAll form s >>= Numbers.moment) ++
    [(Date.readPlain s).map startOf]

end Moment

end Listing

/-
  DATES of the Gregorian calendar and instants in milliseconds since 1970.

  1. **Dates** — `Date.isValid` knows the lengths of the months, `Date.dayNumber` counts days from
     1970-01-01, before which the count is negative.
  2. **Instants** — a `Reading` is what a clock on the wall shows together with its distance from
     universal time; `Reading.instant?` is the instant it names.  The second 60 is a leap second: it
     counts as one more second after 59.
-/

namespace FeatureFlags.Calendar

/-- A day of the calendar, valid or not. -/
structure Date where
  year : Int
  month : Nat
  day : Nat
deriving DecidableEq, Repr

def isLeapYear (year : Int) : Bool := year % 4 = 0 ∧ (year % 100 ≠ 0 ∨ year % 400 = 0)

/-- How many days a month has; none for a month that does not exist. -/
def daysInMonth (year : Int) (month : Nat) : Nat :=
  if month = 2 then if isLeapYear year then 29 else 28
  else if month = 4 ∨ month = 6 ∨ month = 9 ∨ month = 11 then 30
  else if 1 ≤ month ∧ month ≤ 12 then 31
  else 0

namespace Date

def isValid (d : Date) : Bool := 1 ≤ d.day ∧ d.day ≤ daysInMonth d.year d.month

/-- Days since 1970-01-01.  Years are counted from March, so that a leap day ends its year. -/
def dayNumber (d : Date) : Int :=
  let year := if d.month ≤ 2 then d.year - 1 else d.year
  let month : Int := (d.month + 9) % 12
  let leapDays := year / 4 - year / 100 + year / 400
  365 * year + leapDays + (153 * month + 2) / 5 + ((d.day : Int) - 1) - 719468

/-- The day of the week, Monday being 0. -/
def weekday (d : Date) : Int := (d.dayNumber + 3) % 7

example :
    (⟨1970, 1, 1⟩ : Date).dayNumber = 0 ∧ (⟨2020, 2, 29⟩ : Date).dayNumber = 18321 := by decide

end Date

/-- What a clock shows: a date, a time of day, and the seconds it is ahead of universal time. -/
structure Reading where
  date : Date
  hour : Nat
  minute : Nat
  second : Nat
  /-- Whole milliseconds of the second. -/
  millis : Nat
  offset : Int
deriving DecidableEq, Repr

/-- **The instant** a clock reading names, in milliseconds since 1970, unless a part of the reading
    is out of range. -/
def Reading.instant? (r : Reading) : Option Int :=
  if r.date.isValid ∧ r.hour < 24 ∧ r.minute < 60 ∧ r.second ≤ 60 ∧ r.offset.natAbs < 86400 then
    let seconds := r.date.dayNumber * 86400 + r.hour * 3600 + r.minute * 60 + r.second - r.offset
    some (seconds * 1000 + r.millis)
  else none

/-! ## Reading numbers and signs -/

/-- Exactly `count` digits at the front of a text. -/
def digits? (count : Nat) (cs : List Char) : Option (Nat × List Char) :=
  let front := cs.take count
  if front.length = count ∧ front.all Char.isDigit then
    some (front.foldl (fun n c => 10 * n + (c.toNat - '0'.toNat)) 0, cs.drop count)
  else none

/-- One given character at the front of a text. -/
def expect? (c : Char) : List Char → Option (List Char)
  | d :: rest => if d = c then some rest else none
  | [] => none

/-- The sign of an offset: `true` for behind universal time. -/
def sign? : List Char → Option (Bool × List Char)
  | '+' :: rest => some (false, rest)
  | '-' :: rest => some (true, rest)
  | _ => none

/-- An offset of hours and minutes, in seconds. -/
def offsetOf (behind : Bool) (hours minutes : Nat) : Int :=
  let seconds : Int := hours * 3600 + minutes * 60
  if behind then -seconds else seconds

end FeatureFlags.Calendar

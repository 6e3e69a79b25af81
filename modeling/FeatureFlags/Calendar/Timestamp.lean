/-
  TIMESTAMPS as they stand in flag data: `2020-01-31T23:59:59.999+02:00`.

  Four digits of year, two of everything else; the date and the time are parted by `T` or a space,
  the second may have a fraction, and the offset is `Z` or hours and minutes with a colon.
  Fractions of a millisecond are dropped.
-/
import FeatureFlags.Calendar.Date

namespace FeatureFlags.Calendar

/-- Milliseconds of a fraction's digits. -/
def millisOf (digits : List Char) : Nat :=
  ((digits ++ ['0', '0', '0']).take 3).foldl (fun n c => 10 * n + (c.toNat - '0'.toNat)) 0

/-- An optional fraction of a second: a point and at least one digit. -/
def fraction? : List Char → Option (Nat × List Char)
  | '.' :: rest =>
    let digits := rest.takeWhile Char.isDigit
    if digits = [] then none else some (millisOf digits, rest.dropWhile Char.isDigit)
  | cs => some (0, cs)

/-- The offset of a timestamp, in seconds.  The minus sign may be the typographic one. -/
def timestampOffset? (cs : List Char) : Option (Int × List Char) :=
  match cs with
  | 'Z' :: rest => some (0, rest)
  | 'z' :: rest => some (0, rest)
  | _ => do
    let (behind, rest) ← match cs with
      | '−' :: rest => some (true, rest)
      | _ => sign? cs
    let (hours, rest) ← digits? 2 rest
    let rest ← expect? ':' rest
    let (minutes, rest) ← digits? 2 rest
    if minutes < 60 then some (offsetOf behind hours minutes, rest) else none

/-- **The instant of a timestamp**, in milliseconds since 1970. -/
def timestamp? (s : String) : Option Int := do
  let (year, rest) ← digits? 4 s.toList
  let rest ← expect? '-' rest
  let (month, rest) ← digits? 2 rest
  let rest ← expect? '-' rest
  let (day, rest) ← digits? 2 rest
  let rest ← ((expect? 'T' rest).or (expect? 't' rest)).or (expect? ' ' rest)
  let (hour, rest) ← digits? 2 rest
  let rest ← expect? ':' rest
  let (minute, rest) ← digits? 2 rest
  let rest ← expect? ':' rest
  let (second, rest) ← digits? 2 rest
  let (millis, rest) ← fraction? rest
  let (offset, rest) ← timestampOffset? rest
  if rest = [] then Reading.instant? ⟨⟨year, month, day⟩, hour, minute, second, millis, offset⟩
  else none

example : timestamp? "1970-01-02T01:00:00.5+01:00" = some 86400500 := by decide +kernel

end FeatureFlags.Calendar

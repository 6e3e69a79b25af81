/-
  MAIL DATES as servers send them: `Sun, 06 Nov 1994 08:49:37 GMT`.

  The day of the week may be missing but must be right; the year may have two or three digits; the
  seconds may be missing; the zone is a number or one of the old names, and comments in parentheses
  may follow it.
-/
import FeatureFlags.Calendar.Date

namespace FeatureFlags.Calendar

def isSpace (c : Char) : Bool := c = ' ' || c = '\t' || c = '\n' || c = '\r'

/-- A text without the blanks at its front. -/
def skipSpaces (cs : List Char) : List Char := cs.dropWhile isSpace

/-- A text without the blanks at its front, of which there must be one. -/
def spaces? (cs : List Char) : Option (List Char) :=
  match cs with
  | c :: rest => if isSpace c then some (skipSpaces rest) else none
  | [] => none

/-- The place of a three-letter name in a list of names, at the front of a text. -/
def name? (names : List String) (cs : List Char) : Option (Nat × List Char) :=
  let front := String.ofList ((cs.take 3).map Char.toLower)
  if front ∈ names then some (names.idxOf front, cs.drop 3) else none

def weekdayNames : List String := ["mon", "tue", "wed", "thu", "fri", "sat", "sun"]

def monthNames : List String :=
  ["jan", "feb", "mar", "apr", "may", "jun", "jul", "aug", "sep", "oct", "nov", "dec"]

/-- An optional day of the week, which a comma follows. -/
def dayName? (cs : List Char) : Option (Option Nat × List Char) :=
  match name? weekdayNames cs with
  | some (weekday, rest) => (expect? ',' rest).map fun rest => (some weekday, rest)
  | none => some (none, cs)

/-- A day of the month, of one or two digits. -/
def dayNumber? (cs : List Char) : Option (Nat × List Char) := (digits? 2 cs).or (digits? 1 cs)

/-- A year: two digits stand for 2000 to 2049 and 1950 to 1999, three count from 1900. -/
def mailYear? (cs : List Char) : Option (Int × List Char) :=
  let digits := cs.takeWhile Char.isDigit
  let rest := cs.dropWhile Char.isDigit
  (digits? digits.length cs).bind fun (n, _) =>
    if digits.length < 2 then none
    else if digits.length = 2 then some ((if n < 50 then 2000 + n else 1900 + n : Nat), rest)
    else if digits.length = 3 then some ((1900 + n : Nat), rest)
    else if n ≤ 262142 then some ((n : Nat), rest)
    else none

/-- Optional seconds after a colon. -/
def seconds? (cs : List Char) : Option (Nat × List Char) :=
  match expect? ':' (skipSpaces cs) with
  | some rest => digits? 2 rest
  | none => some (0, cs)

/-- Hours ahead of universal time for the old names of zones. -/
def zoneHours? (name : String) : Option Int :=
  match name with
  | "gmt" | "ut" | "z" => some 0
  | "edt" => some (-4)
  | "est" | "cdt" => some (-5)
  | "cst" | "mdt" => some (-6)
  | "mst" | "pdt" => some (-7)
  | "pst" => some (-8)
  | "j" => none
  | name => if name.length = 1 then some 0 else none

/-- The zone of a mail date, in seconds. -/
def mailOffset? (cs : List Char) : Option (Int × List Char) :=
  let name := cs.takeWhile Char.isAlpha
  if name ≠ [] then
    (zoneHours? (String.ofList (name.map Char.toLower))).map fun hours =>
      (hours * 3600, cs.dropWhile Char.isAlpha)
  else do
    let (behind, rest) ← sign? cs
    let (hours, rest) ← digits? 2 rest
    let (minutes, rest) ← digits? 2 rest
    if minutes < 60 then some (offsetOf behind hours minutes, rest) else none

/-- The text after a comment whose `depth` opening parentheses were read. -/
def afterComment? (depth : Nat) : List Char → Option (List Char)
  | '\\' :: _ :: rest => afterComment? depth rest
  | '(' :: rest => afterComment? (depth + 1) rest
  | ')' :: rest => if depth ≤ 1 then some rest else afterComment? (depth - 1) rest
  | _ :: rest => afterComment? depth rest
  | [] => none

/-- Whether nothing but comments is left.  Each comment is shorter than the text it opens. -/
def onlyComments (fuel : Nat) (cs : List Char) : Bool :=
  match fuel with
  | 0 => cs = []
  | fuel + 1 =>
    if cs = [] then true
    else match skipSpaces cs with
      | '(' :: rest =>
        match afterComment? 1 rest with
        | some rest => onlyComments fuel rest
        | none => false
      | _ => false

/-- **The instant of a mail date**, in milliseconds since 1970. -/
def mailDate? (s : String) : Option Int := do
  let (weekday, rest) ← dayName? (skipSpaces s.toList)
  let (day, rest) ← dayNumber? (skipSpaces rest)
  let rest ← spaces? rest
  let (month, rest) ← name? monthNames rest
  let rest ← spaces? rest
  let (year, rest) ← mailYear? rest
  let rest ← spaces? rest
  let (hour, rest) ← digits? 2 rest
  let rest ← expect? ':' (skipSpaces rest)
  let (minute, rest) ← digits? 2 (skipSpaces rest)
  let (second, rest) ← seconds? rest
  let rest ← spaces? rest
  let (offset, rest) ← mailOffset? rest
  let date : Date := ⟨year, month + 1, day⟩
  let rightDay := weekday.all fun w => date.weekday = (w : Int)
  if rightDay && onlyComments rest.length rest then
    Reading.instant? ⟨date, hour, minute, second, 0, offset⟩
  else none

example : mailDate? "Sun, 06 Nov 1994 08:49:37 GMT" = some 784111777000 := by decide +kernel

end FeatureFlags.Calendar

/-
  JSON — documents whose numbers are integers or floating-point, and ATTRIBUTE values, whose numbers
  are all floating-point.

  1. **Numbers** — a JSON number remembers how it was written: an integer stays exact, everything
     else is a binary64 number.
  2. **Between the two** — `toAttribute` reads every number as floating-point.  Back there are two
     ways: `Attribute.toJson` writes a whole number as an integer again, `Attribute.toFloatJson`
     keeps every number floating-point.
-/
import FeatureFlags.Document

namespace FeatureFlags

/-- A JSON number. -/
inductive Number where
  | int (value : Int)
  | float (value : Float)
deriving DecidableEq, Inhabited

namespace Number

/-- The nearest floating-point number. -/
def toFloat : Number → Float
  | int i => Float.ofInt i
  | float x => x

/-- A floating-point number: infinities and not-a-number have no JSON form. -/
def ofFloat? (x : Float) : Option Number := if x.isFinite then some (.float x) else none

/-- The integer that a floating-point number is, if it is one and fits 64 bits. -/
def whole? (x : Float) : Option Int :=
  -- without its fraction, the number is that integer, or no integer at all
  let cut : Int := if x < 0 then -((-x).toUInt64.toNat : Int) else x.toUInt64.toNat
  if x.abs < 9223372036854775808.0 ∧ Float.ofInt cut == x then some cut else none

end Number

/-- JSON data. -/
abbrev Json := Document Number

/-- The value of a context attribute or of a clause. -/
abbrev Attribute := Document Float

namespace Json

/-- Read every number as floating-point. -/
def toAttribute (j : Json) : Attribute := j.bind fun n => .number n.toFloat

def ofInt (i : Int) : Json := .number (.int i)

def ofNat (n : Nat) : Json := .number (.int n)

def ofUInt64 (n : UInt64) : Json := .number (.int n.toNat)

/-- A floating-point number, or `null` for one that JSON cannot write. -/
def ofFloat (x : Float) : Json := (Number.ofFloat? x).elim .null .number

/-- A value, or `null` for none. -/
def ofOption {α : Type} (f : α → Json) : Option α → Json
  | none => .null
  | some a => f a

def ofTexts (texts : List String) : Json := .list (texts.map .text)

/-- An object with the given members. -/
def ofMembers (members : List (String × Json)) : Json := .object (Entries.ofList members)

def object? : Json → Option (Entries Json)
  | .object fields => some fields
  | _ => none

def list? : Json → Option (List Json)
  | .list items => some items
  | _ => none

/-- The integer of a number that was written as one. -/
def int? : Json → Option Int
  | .number (.int i) => some i
  | _ => none

end Json

namespace Attribute

/-- Write whole numbers as integers, and other finite numbers as they are. -/
def toJson (a : Attribute) : Json :=
  a.bind fun x => match Number.whole? x with
    | some i => Json.ofInt i
    | none => Json.ofFloat x

/-- Write every number as floating-point. -/
def toFloatJson (a : Attribute) : Json := a.bind Json.ofFloat

end Attribute

end FeatureFlags

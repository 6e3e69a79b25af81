/-
  NOTATION of decimals: which are written positionally, and how the others are.

  A `Notation` record lists the decisions of a number format; `Notation.write` carries them out.
  `Decimal.json` is the record of the one format this library writes.
-/
import FeatureFlags.Decimal.Shortest

namespace FeatureFlags.Decimal

/-- The decisions of a number format. -/
structure Format where
  /-- The decimal point stands at least this many places after the first digit. -/
  lowestPoint : Int
  /-- The decimal point stands at most this many places after the first digit. -/
  highestPoint : Int
  /-- What stands between digits and exponent when the exponent is not negative. -/
  upMark : String
  /-- What stands between digits and exponent when the exponent is negative. -/
  downMark : String

/-- Numbers from `0.00001` up to below `10 ^ 16` are written positionally, always with a point;
    the others have an exponent with its sign. -/
def json : Format := ⟨-4, 16, "e+", "e-"⟩

/-- Write `d`, whose digits are not followed by zeros unless `d` is zero. -/
def Format.write (format : Format) (d : Decimal) : String :=
  let digits := Nat.toDigits 10 d.digits
  let point := digits.length + d.exponent
  if d.digits = 0 then "0.0"
  else if format.lowestPoint ≤ point ∧ point ≤ format.highestPoint then
    if point ≤ 0 then
      String.ofList ("0.".toList ++ List.replicate (-point).toNat '0' ++ digits)
    else if digits.length ≤ point then
      String.ofList (digits ++ List.replicate d.exponent.toNat '0' ++ ".0".toList)
    else
      String.ofList (digits.take point.toNat ++ '.' :: digits.drop point.toNat)
  else
    let exponent := point - 1
    let mark := if exponent < 0 then format.downMark else format.upMark
    let fraction := match digits.drop 1 with
      | [] => []
      | more => '.' :: more
    String.ofList (digits.take 1 ++ fraction) ++ mark ++ toString exponent.natAbs

/-- A finite number in its shortest form. -/
def Format.writeFloat (format : Format) (x : Float) : String :=
  (if Binary.isNegative x then "-" else "") ++ format.write (shortest x)

end FeatureFlags.Decimal

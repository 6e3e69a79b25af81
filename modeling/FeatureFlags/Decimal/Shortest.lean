/-
  THE SHORTEST DECIMAL of a floating-point number.

  A finite binary64 number has many decimals that read back as itself: exactly those in the interval
  of reals that round to it.  `Decimal.shortest` picks the one with the FEWEST digits, and of those
  the NEAREST to the number.

  1. **Parts** — `Binary.ofFloat` decodes the bits into `mantissa · 2 ^ exponent`; `Binary.Scaled`
     holds the number and the two ends of its interval as multiples of one unit, so that all that
     follows is arithmetic on natural numbers.
  2. **Search** — for 1, 2, … 17 digits, `hit?` tests the number's two neighbours on the grid of
     decimals with that many digits.  The first grid with a hit wins.

  The search is exact: no floating-point operation takes part in it.
-/

namespace FeatureFlags

/-- The number `digits · 10 ^ exponent`. -/
structure Decimal where
  digits : Nat
  exponent : Int
deriving DecidableEq, Repr

/-- The magnitude `mantissa · 2 ^ exponent` of a finite floating-point number. -/
structure Binary where
  mantissa : Nat
  exponent : Int
  /-- The next smaller magnitude is only half as far away as the next larger one. -/
  narrowBelow : Bool
deriving DecidableEq, Repr

/-- Decode a finite number.  The sign is not part of the magnitude. -/
def Binary.ofFloat (x : Float) : Binary :=
  let bits : Nat := x.toBits.toNat
  let fraction : Nat := bits % Nat.pow 2 52
  let biased : Nat := bits / Nat.pow 2 52 % Nat.pow 2 11
  if biased = 0 then ⟨fraction, -1074, false⟩
  else ⟨Nat.pow 2 52 + fraction, (biased : Int) - 1075, fraction = 0 ∧ 1 < biased⟩

/-- The sign bit, set for `-0.0` too. -/
def Binary.isNegative (x : Float) : Bool := x.toBits.toNat / Nat.pow 2 63 = 1

namespace Decimal

/-- How many decimal digits a natural number has; 1 for zero. -/
def digitCount (n : Nat) : Nat := (Nat.toDigits 10 n).length

/-- A magnitude with the ends of the interval that rounds to it, all over one denominator. -/
structure Scaled where
  low : Nat
  value : Nat
  high : Nat
  unit : Nat
  /-- Whether the ends themselves round to the number: ties go to the even mantissa. -/
  closed : Bool

def Scaled.ofBinary (b : Binary) : Scaled :=
  let up := Nat.pow 2 (b.exponent - 2).toNat
  { low := (4 * b.mantissa - (if b.narrowBelow then 1 else 2)) * up
    value := 4 * b.mantissa * up
    high := (4 * b.mantissa + 2) * up
    unit := Nat.pow 2 (2 - b.exponent).toNat
    closed := b.mantissa % 2 = 0 }

/-- The place of the leading digit: the least `k` with `value / unit < 10 ^ k`, for a value that
    is not zero. -/
def Scaled.magnitude (s : Scaled) : Int :=
  if s.unit ≤ s.value then digitCount (s.value / s.unit)
  else 1 - (digitCount ((s.unit - 1) / s.value) : Int)

/-- Whether `digits · 10 ^ exponent` rounds to the number. -/
def Scaled.admits (s : Scaled) (d : Decimal) : Bool :=
  let point := d.digits * Nat.pow 10 d.exponent.toNat * s.unit
  let scale := Nat.pow 10 (-d.exponent).toNat
  if s.closed then s.low * scale ≤ point && point ≤ s.high * scale
  else s.low * scale < point && point < s.high * scale

/-- The better of the number's two neighbours on the grid of decimals with `count` digits, if one
    of them rounds to the number.  A tie goes to the even neighbour; above `99…9` comes a power of
    ten, which is written with one digit. -/
def Scaled.hit? (s : Scaled) (count : Nat) : Option Decimal :=
  let exponent := s.magnitude - count
  let scaled := s.value * Nat.pow 10 (-exponent).toNat
  let step := Nat.pow 10 exponent.toNat * s.unit
  let below : Decimal := ⟨scaled / step, exponent⟩
  let above : Decimal :=
    if scaled / step + 1 = Nat.pow 10 count then ⟨1, exponent + count⟩
    else ⟨scaled / step + 1, exponent⟩
  let twice := 2 * (scaled % step)
  let nearer := if twice < step ∨ twice = step ∧ below.digits % 2 = 0 then below else above
  match s.admits below, s.admits above with
  | true, true => some nearer
  | true, false => some below
  | false, true => some above
  | false, false => none

/-- **The shortest decimal** that reads back as the magnitude of `x`; of those the nearest.
    Seventeen digits always suffice. -/
def shortest (x : Float) : Decimal :=
  let b := Binary.ofFloat x
  if b.mantissa = 0 then ⟨0, 0⟩
  else
    let s := Scaled.ofBinary b
    ((List.range 17).findSome? fun n => s.hit? (n + 1)).getD ⟨0, 0⟩

example : shortest 0.3 = ⟨3, -1⟩ := by decide +kernel
example : shortest (0.1 + 0.2) = ⟨30000000000000004, -17⟩ := by decide +kernel

end Decimal

end FeatureFlags

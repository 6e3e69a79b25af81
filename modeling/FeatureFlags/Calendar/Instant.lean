/-
  INSTANTS — points in time, in microseconds since the start of 1970.

  The calendar covers the years from -262143 to 262142; other instants are out of range.
-/
import FeatureFlags.Calendar.Date

namespace FeatureFlags.Calendar

/-- A point in time, in microseconds since the start of 1970. -/
abbrev Instant := Int

namespace Instant

/-- The instant of a number of milliseconds. -/
def ofMilliseconds (ms : Int) : Instant := 1000 * ms

/-- The start of the first day of the calendar. -/
def first : Instant := (⟨-262143, 1, 1⟩ : Date).dayNumber * 86400000000

/-- The end of the last day of the calendar. -/
def bound : Instant := (⟨262143, 1, 1⟩ : Date).dayNumber * 86400000000

/-- The instant of a number of microseconds, unless it is out of range. -/
def ofMicroseconds? (us : Int) : Option Instant :=
  if first ≤ us ∧ us < bound then some us else none

/-- The nearest whole number of milliseconds; a half goes away from zero. -/
def toMilliseconds (t : Instant) : Int :=
  if 0 ≤ t then (t + 500) / 1000 else -((-t + 500) / 1000)

/-- The milliseconds that have begun before an instant. -/
def floorMilliseconds (t : Instant) : Int := Int.fdiv t 1000

theorem toMilliseconds_ofMilliseconds (ms : Int) : (ofMilliseconds ms).toMilliseconds = ms := by
  unfold ofMilliseconds toMilliseconds
  split <;> omega

theorem floorMilliseconds_lt_iff {t : Instant} {ms : Int} :
    t.floorMilliseconds < ms ↔ t < ofMilliseconds ms := by
  rw [floorMilliseconds, ofMilliseconds, Int.fdiv_eq_ediv_of_nonneg t (by omega), Int.mul_comm]
  exact Int.ediv_lt_iff_lt_mul (by omega)

end Instant

end FeatureFlags.Calendar

/-
  READINGS OF AN ATTRIBUTE — what buckets and dates make of the value of an attribute.
-/
import FeatureFlags.Calendar.Timestamp
import FeatureFlags.Json.Basic

namespace FeatureFlags.Attribute

/-- The text by which a value is spread over buckets: a text is taken as it is, a finite number is
    cut to an integer of 64 bits, and no other value can be spread. -/
def bucketText? : Attribute → Option String
  | .text s => some s
  | .number x => if x.isFinite then some (toString x.toInt64.toInt) else none
  | _ => none

/-- A value as an instant in milliseconds: a number, or a text that is a timestamp. -/
def instant? : Attribute → Option Float
  | .number x => some x
  | .text s => (Calendar.timestamp? s).map Float.ofInt
  | _ => none

end FeatureFlags.Attribute

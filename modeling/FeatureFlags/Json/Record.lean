/-
  RECORDS IN JSON — reading objects with known members into structures.

  A record is an object; members that it does not know are left alone.  It may also stand as the
  list of its values in the order of its members, of which the last ones may be missing.

  1. **Members** — `required` must be there; `orDefault` has a default for a missing member, but a
     null is no missing member; `optional` takes null for none.
  2. **Values** — `uint64?`, `uint32?` and `int64?` take integers in range only, never a number that
     was written with a point or an exponent; `variant?` reads the name of a choice.
-/
import FeatureFlags.Json.Basic

namespace FeatureFlags.Json

/-! ## Values -/

def uint64? (j : Json) : Option UInt64 :=
  j.int?.bind fun i =>
    if 0 ≤ i ∧ i < 18446744073709551616 then some (UInt64.ofNat i.toNat) else none

def uint32? (j : Json) : Option UInt32 :=
  j.int?.bind fun i => if 0 ≤ i ∧ i < 4294967296 then some (UInt32.ofNat i.toNat) else none

def int64? (j : Json) : Option Int64 :=
  j.int?.bind fun i =>
    if -9223372036854775808 ≤ i ∧ i < 9223372036854775808 then some (Int64.ofInt i) else none

/-- Any number, as floating-point. -/
def float? : Json → Option Float
  | .number n => some n.toFloat
  | _ => none

/-- Every item of a list. -/
def listOf? {α : Type} (read : Json → Option α) (j : Json) : Option (List α) :=
  (list? j).bind fun items => items.mapM read

def texts? (j : Json) : Option (List String) := listOf? Document.text? j

/-- A value, or null for none. -/
def orNull? {α : Type} (read : Json → Option α) : Json → Option (Option α)
  | .null => some none
  | j => (read j).map some

/-- The name of a choice: a text, or an object whose one member of that name is null. -/
def variant? : Json → Option String
  | .text name => some name
  | .object [(name, .null)] => some name
  | _ => none

/-! ## Records -/

/-- The members of a record with the given member names. -/
def record? (names : List String) : Json → Option (Entries Json)
  | .object fields => some fields
  | .list items => if items.length ≤ names.length then some (names.zip items) else none
  | _ => none

/-- A member that must be there. -/
def required {α : Type} (fields : Entries Json) (name : String) (read : Json → Option α) :
    Option α :=
  (Entries.get? name fields).bind read

/-- A member with a default. -/
def orDefault {α : Type} (fields : Entries Json) (name : String) (default : α)
    (read : Json → Option α) : Option α :=
  match Entries.get? name fields with
  | none => some default
  | some j => read j

/-- A member that may be null or missing. -/
def optional {α : Type} (fields : Entries Json) (name : String) (read : Json → Option α) :
    Option (Option α) :=
  orDefault fields name none (orNull? read)

end FeatureFlags.Json

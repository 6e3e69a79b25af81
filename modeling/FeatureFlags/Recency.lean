/-
  RECENCY WINDOWS — bounded maps that forget what was used longest ago.

  The items are listed by their last use, the most recent first.  A window holds at least one item.

  1. **Operations** — `touch` makes a name the most recent one, `put` adds or replaces a value and
     makes it the most recent; what no longer fits is dropped from the end.
  2. **View** — `get?`.
-/

namespace FeatureFlags

/-- A map of bounded size whose items are listed by their last use. -/
structure Recency (β : Type) where
  capacity : Nat
  items : List (String × β)

namespace Recency

variable {β : Type}

/-- An empty window.  A capacity of zero counts as one. -/
def ofCapacity (capacity : Nat) : Recency β := ⟨max capacity 1, []⟩

/-- The value under a name. -/
def get? (name : String) (r : Recency β) : Option β :=
  (r.items.find? fun item => item.1 = name).map (·.2)

/-- The items of other names. -/
def others (name : String) (r : Recency β) : List (String × β) :=
  r.items.filter fun item => item.1 ≠ name

/-- Make a name the most recent one, if it has a value. -/
def touch (name : String) (r : Recency β) : Recency β :=
  match r.get? name with
  | some value => { r with items := (name, value) :: r.others name }
  | none => r

/-- Set the value of a name and make it the most recent one. -/
def put (name : String) (value : β) (r : Recency β) : Recency β :=
  { r with items := ((name, value) :: r.others name).take r.capacity }

/-- Forget everything. -/
def clear (r : Recency β) : Recency β := { r with items := [] }

end Recency

end FeatureFlags

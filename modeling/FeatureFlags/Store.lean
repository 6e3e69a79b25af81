/-
  THE STORE — the flags and segments that a client knows.

  Items have versions: an update counts only if its version is newer than that of the stored item.
  Deleting puts a tombstone, an item marked as deleted, so that older updates do not bring the item
  back.  Reading never shows a tombstone.
-/
import FeatureFlags.Flag.Basic

namespace FeatureFlags

/-- Flags and segments by their keys. -/
structure Store where
  /-- Whether a full set of data has arrived. -/
  initialized : Bool
  flags : Entries Flag
  segments : Entries Segment
deriving DecidableEq

namespace Store

/-- A store that has received nothing yet. -/
def empty : Store := ⟨false, [], []⟩

/-- A store that has received a full set of data. -/
def ofData (flags : Entries Flag) (segments : Entries Segment) : Store := ⟨true, flags, segments⟩

/-! ## Reading -/

/-- The flag of a key. -/
def flag? (s : Store) (key : String) : Option Flag :=
  (Entries.get? key s.flags).filter fun f => !f.deleted

/-- The segment of a key. -/
def segment? (s : Store) (key : String) : Option Segment :=
  (Entries.get? key s.segments).filter fun x => !x.deleted

/-- All flags that are not deleted. -/
def allFlags (s : Store) : Entries Flag := s.flags.filter fun entry => !entry.2.deleted

/-! ## Updates -/

/-- Put an item under its key if it is newer than the one there. -/
def putNewer {α : Type} (version : α → UInt64) (key : String) (item : α) (items : Entries α) :
    Bool × Entries α :=
  match Entries.get? key items with
  | some old =>
    if version old < version item then (true, Entries.insert key item items) else (false, items)
  | none => (true, Entries.insert key item items)

/-- **Update a flag.**  The answer says whether the update counted. -/
def upsertFlag (s : Store) (f : Flag) : Bool × Store :=
  let (applied, flags) := putNewer Flag.version f.key f s.flags
  (applied, { s with flags })

/-- **Update a segment.** -/
def upsertSegment (s : Store) (x : Segment) : Bool × Store :=
  let (applied, segments) := putNewer Segment.version x.key x s.segments
  (applied, { s with segments })

/-- Delete a flag. -/
def deleteFlag (s : Store) (key : String) (version : UInt64) : Bool × Store :=
  s.upsertFlag { Flag.ofKey key with version, deleted := true }

/-- Delete a segment. -/
def deleteSegment (s : Store) (key : String) (version : UInt64) : Bool × Store :=
  s.upsertSegment { Segment.ofKey key with version, deleted := true }

end Store

end FeatureFlags

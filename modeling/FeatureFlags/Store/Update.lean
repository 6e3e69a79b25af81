/-
  UPDATES OF THE STORE — one after the other.

  A full set of data is followed by single updates: an item in a new version, or the deletion of an
  item.  They come over a network, so they may come late, twice, or in any order.

  1. **Items** — flags and segments together; an item is known by its kind and its key.
  2. **Updates** — a deletion is the update that puts a tombstone.
  3. **Reading** — `stored?` finds an item, a tombstone too; `shown?` is what readers of the store
     see.
-/
import FeatureFlags.Store

namespace FeatureFlags.Store

/-! ## Items -/

inductive ItemKind where
  | flags
  | segments
deriving DecidableEq, Repr

/-- What a store holds under a key. -/
inductive Item where
  | flag (flag : Flag)
  | segment (segment : Segment)
deriving DecidableEq

namespace Item

def kind : Item → ItemKind
  | flag _ => .flags
  | segment _ => .segments

def key : Item → String
  | flag f => f.key
  | segment x => x.key

def version : Item → UInt64
  | flag f => f.version
  | segment x => x.version

def deleted : Item → Bool
  | flag f => f.deleted
  | segment x => x.deleted

/-- The mark of a deleted item. -/
def tombstone (kind : ItemKind) (key : String) (version : UInt64) : Item :=
  match kind with
  | .flags => flag { Flag.ofKey key with version, deleted := true }
  | .segments => segment { Segment.ofKey key with version, deleted := true }

end Item

/-! ## Updates -/

/-- **One update of a store.** -/
inductive Update where
  | put (item : Item)
  | delete (kind : ItemKind) (key : String) (version : UInt64)
deriving DecidableEq

/-- The item that an update brings. -/
def Update.item : Update → Item
  | put item => item
  | delete kind key version => .tombstone kind key version

/-- Make one update.  The answer says whether it counted. -/
def apply (s : Store) : Update → Bool × Store
  | .put (.flag f) => s.upsertFlag f
  | .put (.segment x) => s.upsertSegment x
  | .delete .flags key version => s.deleteFlag key version
  | .delete .segments key version => s.deleteSegment key version

/-- **Make one update after the other.** -/
def run (s : Store) (updates : List Update) : Store :=
  updates.foldl (fun s u => (s.apply u).2) s

@[simp] theorem run_nil (s : Store) : s.run [] = s := rfl

@[simp] theorem run_cons (s : Store) (u : Update) (updates : List Update) :
    s.run (u :: updates) = (s.apply u).2.run updates := rfl

theorem run_append (s : Store) (first second : List Update) :
    s.run (first ++ second) = (s.run first).run second := List.foldl_append

/-! ## Reading -/

/-- The item that is stored under a key, which may be a tombstone. -/
def stored? (s : Store) (kind : ItemKind) (key : String) : Option Item :=
  match kind with
  | .flags => (Entries.get? key s.flags).map .flag
  | .segments => (Entries.get? key s.segments).map .segment

/-- The item that readers find under a key. -/
def shown? (s : Store) (kind : ItemKind) (key : String) : Option Item :=
  match kind with
  | .flags => (s.flag? key).map .flag
  | .segments => (s.segment? key).map .segment

end FeatureFlags.Store

/-
  BIG SEGMENTS — segments whose members are listed in a store outside.

  The store knows contexts by a digest of their key, and segments by key and generation.  It answers
  two requests: the memberships of a context, and when it was last brought up to date.  What it
  answers may change from one call to the next, and every call may fail, so a `Source` is a function
  of the number of the call.
-/
import FeatureFlags.Digest.Base64
import FeatureFlags.Digest.Sha256
import FeatureFlags.Entries
import FeatureFlags.Failure

namespace FeatureFlags

namespace BigSegments

/-- Which segment generations a context is in (`true`) or kept out of (`false`). -/
abbrev Membership := Entries Bool

/-- The name under which the store knows a context. -/
def contextHash (key : String) : String :=
  String.ofList (Digest.base64 (Digest.Sha256.digest (Digest.bytesOf key)))

/-- The name of one generation of a segment. -/
def generationName (segmentKey : String) (generation : UInt64) : String :=
  segmentKey ++ ".g" ++ toString generation.toNat

/-- A store of memberships.  The first argument is the number of calls made before. -/
structure Source where
  /-- The memberships of a context, none if the store does not know it. -/
  membership : Nat → String → Except Failure (Option Membership)
  /-- When the store was brought up to date, in milliseconds since 1970; none if never. -/
  lastUpToDate : Nat → Except Failure (Option Int64)

/-- A store that always answers the same: from a table by context keys, but not for the keys that it
    is unavailable for. -/
def Source.ofTable (memberships : Entries Membership) (unavailable : List String)
    (lastUpToDate : Except Failure (Option Int64)) : Source where
  membership := fun _ hash =>
    if unavailable.any fun key =>
      contextHash key = hash then .error (.bigSegmentStore "unavailable")
    else .ok ((memberships.find? fun entry => contextHash entry.1 = hash).map (·.2))
  lastUpToDate := fun _ => lastUpToDate

/-- How answers are kept. -/
structure Settings where
  /-- For how many contexts memberships are kept. -/
  cacheSize : Nat
  /-- For how long a membership is kept, in milliseconds. -/
  cacheTime : Nat
  /-- For how long the status of the store is kept, in milliseconds. -/
  statusPoll : Nat
  /-- After how long a store counts as stale, in milliseconds. -/
  staleAfter : Nat
deriving DecidableEq, Repr

/-- The settings where nothing else is said. -/
def Settings.standard : Settings := ⟨1000, 5000, 5000, 120000⟩

/-- What is known about the store. -/
structure StoreStatus where
  available : Bool
  stale : Bool
deriving DecidableEq, Repr

/-- What the store is asked. -/
inductive Request where
  | membership (hash : String)
  | metadata
deriving DecidableEq, Repr

/-- A call to the store, and why it failed if it did. -/
structure Call where
  request : Request
  failure : Option Failure
deriving DecidableEq, Repr

end BigSegments

/-- A store of big segments with its settings. -/
structure BigSegments where
  source : BigSegments.Source
  settings : BigSegments.Settings

end FeatureFlags

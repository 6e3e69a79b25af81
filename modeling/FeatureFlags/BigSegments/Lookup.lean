/-
  LOOKING UP BIG SEGMENTS — with answers kept for a while.

  1. **Status** — asked for at most once per poll interval.  A store that does not answer counts as
     unavailable; one that was never up to date, or too long ago, as stale.
  2. **Membership** — kept per context key in a recency window.  A failed call is not kept and
     leaves the window as it is.
-/
import FeatureFlags.BigSegments.Basic
import FeatureFlags.Evaluation.Reason
import FeatureFlags.Recency

namespace FeatureFlags.BigSegments

/-- The time of day and a steady time, both in milliseconds. -/
structure Clock where
  wall : Int64
  steady : Nat
deriving DecidableEq

/-- What is kept of earlier answers. -/
structure Cache where
  /-- Memberships with the steady time of their arrival. -/
  memberships : Recency (Option Membership × Nat)
  status : Option (StoreStatus × Nat)
  /-- The number of calls made so far. -/
  asked : Nat

def Cache.ofSettings (s : Settings) : Cache := ⟨.ofCapacity s.cacheSize, none, 0⟩

/-- A cache in use, with the calls made, the first one first. -/
structure Session where
  cache : Cache
  calls : List Call

abbrev Asking := StateM Session

/-- Count a call. -/
def noteCall (request : Request) (failure : Option Failure) : Asking Unit :=
  modify fun s => {
    cache := { s.cache with asked := s.cache.asked + 1 }
    calls := s.calls ++ [⟨request, failure⟩] }

/-! ## Status -/

/-- Whether a store is stale: never up to date, or at least `staleAfter` ago in 64-bit
    arithmetic. -/
def isStale (now : Int64) (staleAfter : Nat) : Option Int64 → Bool
  | none => true
  | some last => Int64.ofNat staleAfter ≤ now - last

/-- Ask for the status and keep it. -/
def askStatus (b : BigSegments) (clock : Clock) : Asking StoreStatus := do
  let status ← match b.source.lastUpToDate (← get).cache.asked with
    | .ok last => do
      noteCall .metadata none
      pure ⟨true, isStale clock.wall b.settings.staleAfter last⟩
    | .error e => do
      noteCall .metadata (some e)
      pure ⟨false, false⟩
  modify fun s => { s with cache := { s.cache with status := some (status, clock.steady) } }
  pure status

/-- **The status of the store**, kept or asked for. -/
def currentStatus (b : BigSegments) (clock : Clock) : Asking StoreStatus := do
  match (← get).cache.status with
  | some (status, since) =>
    if clock.steady - since < b.settings.statusPoll then pure status else askStatus b clock
  | none => askStatus b clock

/-- What a store status means for an evaluation. -/
def StoreStatus.toBigSegmentsStatus (s : StoreStatus) : BigSegmentsStatus :=
  if !s.available then .storeError else if s.stale then .stale else .healthy

theorem StoreStatus.toBigSegmentsStatus_eq_storeError_iff {status : StoreStatus} :
    status.toBigSegmentsStatus = .storeError ↔ status.available = false := by
  obtain ⟨available, stale⟩ := status
  cases available <;> cases stale <;> decide

/-! ## Membership -/

/-- The kept membership of a context that is not too old. -/
def kept? (b : BigSegments) (clock : Clock) (key : String) (c : Cache) :
    Option (Option Membership) :=
  match c.memberships.get? key with
  | some (membership, since) =>
    if clock.steady - since < b.settings.cacheTime then some membership else none
  | none => none

/-- Ask for the membership of a context, and keep it if there is an answer. -/
def askMembership (b : BigSegments) (clock : Clock) (key : String) :
    Asking (Except Failure (Option Membership)) := do
  let hash := contextHash key
  let answer := b.source.membership (← get).cache.asked hash
  match answer with
  | .ok membership =>
    noteCall (.membership hash) none
    modify fun s => { s with cache := { s.cache with
      memberships := s.cache.memberships.put key (membership, clock.steady) } }
  | .error e => noteCall (.membership hash) (some e)
  pure answer

/-- **The membership of a context**, with the status of the store. -/
def membershipOf (b : BigSegments) (clock : Clock) (key : String) :
    Asking (Option Membership × BigSegmentsStatus) := do
  let cache := (← get).cache
  modify fun s => { s with cache := { s.cache with memberships := s.cache.memberships.touch key } }
  let answer ← match kept? b clock key cache with
    | some membership => pure (.ok membership)
    | none => askMembership b clock key
  match answer with
  | .ok membership => pure (membership, (← currentStatus b clock).toBigSegmentsStatus)
  | .error _ => pure (none, .storeError)

end FeatureFlags.BigSegments

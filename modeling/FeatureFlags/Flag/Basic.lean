/-
  FLAGS AND SEGMENTS — the data that evaluation works on.

  A `Flag` has variations and says who gets which: its targets first, then its rules in order, then
  its fallthrough.  A rule or a fallthrough serves one variation or spreads contexts by weight.  A
  `Segment` is a set of contexts, given by lists, by rules, or by a store outside.

  All numbers have the width they have in the data, so that writing and reading lose nothing.
-/
import FeatureFlags.Flag.Clause
import FeatureFlags.KeySet

namespace FeatureFlags

/-- The place of a variation in its flag. -/
abbrev VariationIndex := UInt64

/-- Another flag that must be on and serve a certain variation. -/
structure Prerequisite where
  key : String
  variation : VariationIndex
deriving DecidableEq, Repr

/-- Context keys that get a certain variation. -/
structure Target where
  /-- The kind of the keys; users if none is named. -/
  contextKind : Option Kind
  values : KeySet
  variation : VariationIndex
deriving DecidableEq

namespace Rollout

/-- What a rollout is for.  An experiment marks what it serves. -/
inductive Purpose where
  | rollout
  | experiment
deriving DecidableEq, Repr, Inhabited

end Rollout

/-- A variation with its share of the contexts, in units of 1/100000. -/
structure WeightedVariation where
  variation : VariationIndex
  weight : UInt32
  /-- Served outside the experiment. -/
  untracked : Bool
deriving DecidableEq, Repr

/-- A spread of contexts over variations. -/
structure Rollout where
  kind : Rollout.Purpose
  contextKind : Option Kind
  bucketBy : Option String
  seed : Option Int64
  variations : List WeightedVariation
deriving DecidableEq

def Rollout.isExperiment (r : Rollout) : Bool := r.kind = .experiment

/-- What a rule or a fallthrough serves.  A fixed variation goes before a rollout. -/
structure Serving where
  variation : Option VariationIndex
  rollout : Option Rollout
deriving DecidableEq

instance : Inhabited Serving := ⟨⟨none, none⟩⟩

structure FlagRule where
  id : Option String
  clauses : List Clause
  serving : Serving
  trackEvents : Bool
deriving DecidableEq

/-- Where a flag may be shown. -/
structure ClientSideAvailability where
  usingMobileKey : Bool
  usingEnvironmentId : Bool
deriving DecidableEq, Repr

/-- What a flag says about the migration it steers. -/
structure MigrationSettings where
  /-- Check consistency for one out of so many operations. -/
  checkRatio : Option UInt32
deriving DecidableEq, Repr

/-- **A feature flag.** -/
structure Flag where
  key : String
  version : UInt64
  on : Bool
  prerequisites : List Prerequisite
  /-- Targets of users. -/
  targets : List Target
  contextTargets : List Target
  rules : List FlagRule
  fallthrough : Serving
  offVariation : Option VariationIndex
  variations : List Json
  salt : String
  trackEvents : Bool
  trackEventsFallthrough : Bool
  /-- Until when full events are sent for debugging, in milliseconds since 1970. -/
  debugEventsUntilDate : Option UInt64
  clientSideAvailability : Option ClientSideAvailability
  /-- The older form of availability by environment. -/
  clientSide : Bool
  migration : Option MigrationSettings
  /-- Send one out of so many full events; all of them without a ratio. -/
  samplingRatio : Option UInt32
  excludeFromSummaries : Bool
  deleted : Bool
deriving DecidableEq

namespace Flag

/-- A flag of which only the key is known. -/
def ofKey (key : String) : Flag where
  key := key
  version := 0
  on := false
  prerequisites := []
  targets := []
  contextTargets := []
  rules := []
  fallthrough := ⟨none, none⟩
  offVariation := none
  variations := []
  salt := ""
  trackEvents := false
  trackEventsFallthrough := false
  debugEventsUntilDate := none
  clientSideAvailability := none
  clientSide := false
  migration := none
  samplingRatio := none
  excludeFromSummaries := false
  deleted := false

/-- The value of a variation. -/
def variation? (f : Flag) (index : VariationIndex) : Option Json := f.variations[index.toNat]?

/-- Whether browsers may see the flag. -/
def isClientSide (f : Flag) : Bool :=
  match f.clientSideAvailability with
  | some availability => availability.usingEnvironmentId
  | none => f.clientSide

end Flag

/-- Keys of one kind that a segment includes or excludes. -/
structure SegmentTarget where
  contextKind : Kind
  values : KeySet
deriving DecidableEq

structure SegmentRule where
  id : Option String
  clauses : List Clause
  /-- The share of matching contexts that belong, in units of 1/100000; all without a weight. -/
  weight : Option UInt32
  bucketBy : Option String
  rolloutContextKind : Option Kind
deriving DecidableEq

/-- **A segment**: a set of contexts that clauses can refer to. -/
structure Segment where
  key : String
  version : UInt64
  /-- Keys of users that belong. -/
  included : KeySet
  /-- Keys of users that do not belong. -/
  excluded : KeySet
  includedContexts : List SegmentTarget
  excludedContexts : List SegmentTarget
  rules : List SegmentRule
  salt : String
  /-- Membership is kept in a store outside. -/
  unbounded : Bool
  unboundedContextKind : Option Kind
  generation : Option UInt64
  deleted : Bool
deriving DecidableEq

namespace Segment

/-- A segment of which only the key is known. -/
def ofKey (key : String) : Segment where
  key := key
  version := 0
  included := KeySet.empty
  excluded := KeySet.empty
  includedContexts := []
  excludedContexts := []
  rules := []
  salt := ""
  unbounded := false
  unboundedContextKind := none
  generation := none
  deleted := false

end Segment

end FeatureFlags

/-
  FLAG STATES — the values of all flags for one context, for a program that starts elsewhere.

  A state holds for each flag its value, and what the other program needs to report evaluations
  itself.  As JSON the values stand beside two members whose names begin with a dollar sign.
-/
import FeatureFlags.Calendar.Instant
import FeatureFlags.Evaluation.Codec
import FeatureFlags.Event.Codec
import FeatureFlags.Event.Factory

namespace FeatureFlags

open Calendar (Instant)
open Json (ofMembers ofUInt64)

/-- What the state of a flag is besides its value. -/
structure FlagState where
  variation : Option VariationIndex
  version : Option UInt64
  reason : Option Reason
  /-- Report evaluations in full. -/
  trackEvents : Bool
  /-- Report the reason as well. -/
  trackReason : Bool
  debugEventsUntilDate : Option UInt64
deriving DecidableEq

/-- **The state of all flags.** -/
structure FlagsState where
  /-- Whether there were data to make the state from. -/
  valid : Bool
  values : Entries Json
  states : Entries FlagState
deriving DecidableEq

namespace FlagsState

/-- What a state should hold. -/
structure Options where
  withReasons : Bool
  /-- Only flags that may be shown to client-side programs. -/
  clientSideOnly : Bool
  /-- Leave out version and reason of flags whose evaluations are not reported in full. -/
  detailsOnlyForTracked : Bool
deriving DecidableEq, Repr

/-- The state without data. -/
def invalid : FlagsState := ⟨false, [], []⟩

/-- A state that holds no flag yet. -/
def empty : FlagsState := ⟨true, [], []⟩

/-- Whether events of a flag are being debugged. -/
def isDebugged (now : Instant) (f : Flag) : Bool :=
  f.debugEventsUntilDate.any fun date =>
    date.toNat < 9223372036854775808 && now.floorMilliseconds < (date.toNat : Int)

/-- What is told about a flag.  An experiment always needs the reason. -/
def stateOf (options : Options) (now : Instant) (f : Flag) (d : Detail Json) : FlagState :=
  let forced := f.forcesTracking d.reason
  let tracked := f.trackEvents || forced
  let detailed := !options.detailsOnlyForTracked || tracked || isDebugged now f
  { variation := d.index
    version := if detailed then some f.version else none
    reason := if forced || (options.withReasons && detailed) then some d.reason else none
    trackEvents := tracked
    trackReason := forced
    debugEventsUntilDate := f.debugEventsUntilDate }

/-- **Add a flag** with the outcome of its evaluation. -/
def add (s : FlagsState) (options : Options) (now : Instant) (f : Flag) (d : Detail Json) :
    FlagsState :=
  { s with
    values := Entries.insert f.key (d.value.getD .null) s.values
    states := Entries.insert f.key (stateOf options now f d) s.states }

/-! ## As JSON -/

end FlagsState

def FlagState.toJson (s : FlagState) : Json := ofMembers <|
  member "variation" ofUInt64 s.variation ++
  member "version" ofUInt64 s.version ++
  member "reason" Reason.toJson s.reason ++
  Reason.flagMember "trackEvents" s.trackEvents ++
  Reason.flagMember "trackReason" s.trackReason ++
  member "debugEventsUntilDate" ofUInt64 s.debugEventsUntilDate

/-- **Write a state.**  The two members of its own win over flags of these names. -/
def FlagsState.toJson (s : FlagsState) : Json := .object <|
  Entries.insert "$valid" (.bool s.valid) <|
  Entries.insert "$flagsState" (.object (Entries.mapValues FlagState.toJson s.states)) s.values

end FeatureFlags

/-
  MAKING EVENTS — from evaluations.

  Whoever wants reasons gets them in every event.  Others get them only where an experiment needs
  them: in an experiment, and where the rule or the fallthrough that decided tracks its events.
  Such events are also sent in full.
-/
import FeatureFlags.Event.Basic

namespace FeatureFlags

open Calendar (Instant)

/-- Whether an evaluation must be reported in full whatever the flag says. -/
def Flag.forcesTracking (f : Flag) (r : Reason) : Bool :=
  r.inExperiment ||
  match r.cause with
  | .fallthrough _ => f.trackEventsFallthrough
  | .ruleMatch ruleIndex _ _ => f.rules[ruleIndex.toNat]?.any (·.trackEvents)
  | _ => false

/-- How events are made. -/
structure EventFactory where
  withReasons : Bool
  /-- The time at which events are made. -/
  now : Instant
deriving DecidableEq, Repr

namespace EventFactory

/-- **The event of an evaluation.**  Where it gave no value, the default stands for it. -/
def ofEvaluation (e : EventFactory) (f : Flag) (context : Context) (d : Detail Json)
    (default : Option Json) (prereqOf : Option String) : FeatureEvent :=
  let forced := f.forcesTracking d.reason
  { creationDate := e.now
    context
    key := f.key
    version := some f.version
    variation := d.index
    value := (d.value.or default).getD .null
    default
    reason := if e.withReasons || forced then some d.reason else none
    prereqOf
    trackEvents := f.trackEvents || forced
    debugEventsUntilDate := f.debugEventsUntilDate
    samplingRatio := f.samplingRatio
    excludeFromSummaries := f.excludeFromSummaries }

/-- The event of asking for a flag that does not exist. -/
def ofUnknownFlag (e : EventFactory) (key : String) (context : Context) (default : Json) :
    FeatureEvent where
  creationDate := e.now
  context := context
  key := key
  version := none
  variation := none
  value := default
  default := some default
  reason := if e.withReasons then some (Reason.ofFault .flagNotFound) else none
  prereqOf := none
  trackEvents := false
  debugEventsUntilDate := none
  samplingRatio := none
  excludeFromSummaries := false

end EventFactory

end FeatureFlags

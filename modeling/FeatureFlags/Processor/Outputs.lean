/-
  OUTPUTS OF AN EVENT — which output events one input event asks for.

  1. An event of a context not met lately is announced by an index event; an identify event
     announces its context itself, and operations of migrations name none.
  2. Then comes the event itself: a feature event only if it is tracked, and once more in full while
     it is being debugged.
  3. Sampling keeps one event out of so many, and never an index event back.
-/
import FeatureFlags.Event.Codec
import FeatureFlags.Event.Redaction
import FeatureFlags.Event.Summary

namespace FeatureFlags

open Calendar (Instant)

/-- Whether sampling keeps an event.  No ratio and the ratio 1 keep every event, the ratio 0 keeps
    none; for every other ratio the draw decides. -/
def isSampled (drawn : Bool) : Option UInt32 → Bool
  | none => true
  | some ratio => if ratio = 0 then false else if ratio = 1 then true else drawn

/-- A ratio as output events tell it: the ratio 1 is not worth telling. -/
def toldRatio (ratio : Option UInt32) : Option UInt32 := ratio.filter (· ≠ 1)

namespace FeatureEvent

/-- Whether an event is sent for debugging: its date is later than its creation, the local time and
    the last known time of the server. -/
def isDebugged (e : FeatureEvent) (now : Instant) (serverTime : Option Instant) : Bool :=
  let past : Instant := max (max now e.creationDate) (serverTime.getD e.creationDate)
  e.debugEventsUntilDate.any fun date =>
    date.toNat < 9223372036854775808 && past.floorMilliseconds < (date.toNat : Int)

/-- The event as it is sent: with the keys of its context, or for debugging with the context. -/
def output (e : FeatureEvent) (r : Redaction) (debug : Bool) : FeatureOutput where
  creationDate := e.creationDate
  key := e.key
  contextKeys := if debug then none else some e.context.keys
  context := if debug then some (r.filter e.context) else none
  version := e.version
  variation := e.variation
  value := e.value
  default := e.default
  reason := e.reason
  prereqOf := e.prereqOf
  samplingRatio := toldRatio e.samplingRatio

end FeatureEvent

def CustomEvent.output (e : CustomEvent) : CustomOutput where
  creationDate := e.creationDate
  key := e.key
  contextKeys := e.context.keys
  data := e.data
  metricValue := e.metricValue
  samplingRatio := toldRatio e.samplingRatio

def MigrationEvent.output (e : MigrationEvent) : MigrationOutput where
  creationDate := e.creationDate
  contextKeys := e.context.keys
  operation := e.operation
  evaluation := e.evaluation.toJson
  measurements := e.measurements.map Migration.Measurement.toJson
  samplingRatio := toldRatio e.samplingRatio

namespace InputEvent

/-- Whether an event counts for meeting its context. -/
def meetsContext : InputEvent → Bool
  | migration _ => false
  | _ => true

/-- The announcement of a context that was not met lately. -/
def announcement (e : InputEvent) (r : Redaction) (isNew : Bool) : List OutputEvent :=
  match e with
  | feature _ | custom _ => if isNew then [.index e.creationDate (r.filter e.context)] else []
  | identify _ | migration _ => []

/-- The event itself, as it is sent if sampling keeps it. -/
def itself (e : InputEvent) (r : Redaction) (debugged : Bool) : List OutputEvent :=
  match e with
  | feature f =>
    (if f.trackEvents then [.feature (f.output r false)] else []) ++
      (if debugged then [.debug (f.output r true)] else [])
  | identify i => [.identify i.creationDate (r.filter i.context)]
  | custom c => [.custom c.output]
  | migration m => [.migration m.output]

/-- Whether an event is sent for debugging. -/
def isDebugged (e : InputEvent) (now : Instant) (serverTime : Option Instant) : Bool :=
  match e with
  | feature f => f.isDebugged now serverTime
  | _ => false

/-- **The output events that an event asks for**, in order. -/
def outputs (e : InputEvent) (r : Redaction) (isNew debugged sampled : Bool) : List OutputEvent :=
  e.announcement r isNew ++ (if sampled then e.itself r debugged else [])

end InputEvent

/-- Count an event in a tally.  Only evaluations are counted, unless their flag is excluded. -/
def Summary.Tally.addEvent (t : Tally) : InputEvent → Tally
  | .feature f => if f.excludeFromSummaries then t else t.add f
  | _ => t

end FeatureFlags

/-
  EVENTS — what a program does with flags, as the event processor takes it in.
-/
import FeatureFlags.Calendar.Instant
import FeatureFlags.Context.Basic
import FeatureFlags.Evaluation.Reason
import FeatureFlags.Migration.Basic

namespace FeatureFlags

open Calendar (Instant)

/-- An evaluation of a flag. -/
structure FeatureEvent where
  creationDate : Instant
  context : Context
  key : String
  /-- The version of the flag; none for a flag that is not known. -/
  version : Option UInt64
  variation : Option VariationIndex
  value : Json
  default : Option Json
  reason : Option Reason
  /-- The flag for which this one was evaluated as a prerequisite. -/
  prereqOf : Option String
  /-- Send the event in full, and not only as part of a summary. -/
  trackEvents : Bool
  /-- Until when the event is sent for debugging, in milliseconds since 1970. -/
  debugEventsUntilDate : Option UInt64
  samplingRatio : Option UInt32
  excludeFromSummaries : Bool
deriving DecidableEq

/-- A context that the program announces. -/
structure IdentifyEvent where
  creationDate : Instant
  context : Context
  samplingRatio : Option UInt32
deriving DecidableEq

/-- An event of the program's own. -/
structure CustomEvent where
  creationDate : Instant
  context : Context
  key : String
  data : Option Json
  metricValue : Option Float
  samplingRatio : Option UInt32
deriving DecidableEq

namespace Migration

/-- At most one thing for each implementation. -/
structure PerOrigin (α : Type) where
  old : Option α
  new : Option α
deriving DecidableEq

namespace PerOrigin

variable {α β : Type}

def empty : PerOrigin α := ⟨none, none⟩

def get? (p : PerOrigin α) : Origin → Option α
  | .old => p.old
  | .new => p.new

def set (p : PerOrigin α) (origin : Origin) (value : α) : PerOrigin α :=
  match origin with
  | .old => { p with old := some value }
  | .new => { p with new := some value }

def map (f : α → β) (p : PerOrigin α) : PerOrigin β := ⟨p.old.map f, p.new.map f⟩

def isEmpty (p : PerOrigin α) : Bool := p.old.isNone && p.new.isNone

/-- Whether both have one. -/
def isFull (p : PerOrigin α) : Bool := p.old.isSome && p.new.isSome

/-- The values by the names of the implementations. -/
def toEntries (p : PerOrigin α) : Entries α :=
  Entries.ofList <|
    (p.new.toList.map fun a => (Origin.new.name, a)) ++
    (p.old.toList.map fun a => (Origin.old.name, a))

end PerOrigin

/-- What was measured about an operation. -/
inductive Measurement where
  /-- Which implementations ran. -/
  | invoked (origins : PerOrigin Unit)
  /-- Whether both gave the same, checked for one out of so many operations. -/
  | consistent (value : Bool) (samplingRatio : UInt32)
  /-- How long they took, in milliseconds. -/
  | latency (milliseconds : PerOrigin Float)
  /-- Which ones failed. -/
  | error (origins : PerOrigin Unit)
deriving DecidableEq

/-- The evaluation that decided the stage. -/
structure Evaluated where
  key : String
  value : Stage
  default : Stage
  reason : Reason
  variation : Option VariationIndex
  version : Option UInt64
deriving DecidableEq

end Migration

/-- An operation of a migration. -/
structure MigrationEvent where
  creationDate : Instant
  context : Context
  operation : Migration.Operation
  evaluation : Migration.Evaluated
  measurements : List Migration.Measurement
  samplingRatio : Option UInt32
deriving DecidableEq

/-- **What the event processor takes in.** -/
inductive InputEvent where
  | feature (event : FeatureEvent)
  | identify (event : IdentifyEvent)
  | custom (event : CustomEvent)
  | migration (event : MigrationEvent)
deriving DecidableEq

namespace InputEvent

def context : InputEvent → Context
  | feature e => e.context
  | identify e => e.context
  | custom e => e.context
  | migration e => e.context

def creationDate : InputEvent → Instant
  | feature e => e.creationDate
  | identify e => e.creationDate
  | custom e => e.creationDate
  | migration e => e.creationDate

def samplingRatio : InputEvent → Option UInt32
  | feature e => e.samplingRatio
  | identify e => e.samplingRatio
  | custom e => e.samplingRatio
  | migration e => e.samplingRatio

end InputEvent

end FeatureFlags

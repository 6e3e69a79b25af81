/-
  OUTPUT EVENTS — what is sent to the events service.
-/
import FeatureFlags.Event.Basic

namespace FeatureFlags

open Calendar (Instant)

/-- An evaluation in full.  For tracking it names the context by its keys, for debugging it shows
    the context. -/
structure FeatureOutput where
  creationDate : Instant
  key : String
  contextKeys : Option (Entries String)
  context : Option Json
  version : Option UInt64
  variation : Option VariationIndex
  value : Json
  default : Option Json
  reason : Option Reason
  prereqOf : Option String
  samplingRatio : Option UInt32
deriving DecidableEq

/-- An event of the program's own. -/
structure CustomOutput where
  creationDate : Instant
  key : String
  contextKeys : Entries String
  data : Option Json
  metricValue : Option Float
  samplingRatio : Option UInt32
deriving DecidableEq

/-- An operation of a migration. -/
structure MigrationOutput where
  creationDate : Instant
  contextKeys : Entries String
  operation : Migration.Operation
  evaluation : Json
  measurements : List Json
  samplingRatio : Option UInt32
deriving DecidableEq

/-- How often a flag gave one variation in one version. -/
structure SummaryCounter where
  variation : Option VariationIndex
  version : Option UInt64
  value : Json
  count : UInt64
  /-- The flag was not known. -/
  unknown : Bool
deriving DecidableEq

/-- What is summed up about one flag. -/
structure FlagSummary where
  default : Json
  contextKinds : List String
  counters : List SummaryCounter
deriving DecidableEq

/-- What is summed up about all flags. -/
structure SummaryOutput where
  startDate : Instant
  endDate : Instant
  features : Entries FlagSummary
deriving DecidableEq

/-- **What is sent to the events service.** -/
inductive OutputEvent where
  /-- A context that was not met lately. -/
  | index (creationDate : Instant) (context : Json)
  | feature (event : FeatureOutput)
  | debug (event : FeatureOutput)
  | identify (creationDate : Instant) (context : Json)
  | custom (event : CustomOutput)
  | migration (event : MigrationOutput)
  | summary (event : SummaryOutput)
deriving DecidableEq

namespace OutputEvent

/-- The name of the kind of an event. -/
def kind : OutputEvent → String
  | index .. => "index"
  | feature _ => "feature"
  | debug _ => "debug"
  | identify .. => "identify"
  | custom _ => "custom"
  | migration _ => "migration_op"
  | summary _ => "summary"

def isSummary : OutputEvent → Bool
  | summary _ => true
  | _ => false

end OutputEvent

end FeatureFlags

/-
  THE LOG — what the library warns about.

  Every warning is a value; its level and wording follow from it.
-/
import FeatureFlags.Failure

namespace FeatureFlags

inductive LogLevel where
  | warning
  | error
deriving DecidableEq, Repr

/-- An entry of the log. -/
inductive LogEntry where
  -- evaluation
  | evaluationFailed
  | variationOutOfRange
  | prerequisiteDepth
  | prerequisiteCycle
  | prerequisiteMissing
  | segmentCycle
  -- big segments
  | membershipQueryFailed (failure : Failure)
  | metadataQueryFailed (failure : Failure)
  -- events
  | queueFull
  | closeTimedOut
  | scheduledFlushFailed (failure : Failure)
  | finalFlushFailed (failure : Failure)
  | sdkKeyRejected
  | deliveryRetried (failure : Failure)
  | deliveryFailed (failure : Failure)
  | sendingDisabled (failure : Failure)
  -- client
  | notInitialized
  | unknownFlag
  | wrongType
  | unknownStage
  | stateNotInitialized
  | stateEvaluationFailed
  | migrationEventFailed (failure : Failure)
  | hookFailed (stage hook error : String)
  | hookNameFailed
deriving DecidableEq, Repr

namespace LogEntry

def level : LogEntry → LogLevel
  | migrationEventFailed _ | hookFailed .. | hookNameFailed => .error
  | _ => .warning

/-- The wording of an entry. -/
def message : LogEntry → String
  | evaluationFailed => "failed to evaluate flag"
  | variationOutOfRange => "variation index out of range"
  | prerequisiteDepth => "prerequisite depth limit exceeded"
  | prerequisiteCycle => "prerequisite relationship forms a cycle"
  | prerequisiteMissing => "prerequisite flag not found"
  | segmentCycle => "segment rules form a cycle"
  | membershipQueryFailed e => "big segment store membership query failed: " ++ e.message
  | metadataQueryFailed e => "big segment store metadata query failed: " ++ e.message
  | queueFull => "exceeded event queue capacity, increase capacity to avoid dropping events"
  | closeTimedOut => "timed out waiting for final event flush"
  | scheduledFlushFailed e => "scheduled event flush failed: " ++ e.message
  | finalFlushFailed e => "final event flush failed: " ++ e.message
  | sdkKeyRejected => "events service rejected the SDK key"
  | deliveryRetried e => "error delivering events, will retry: " ++ e.message
  | deliveryFailed e => "error delivering events: " ++ e.message
  | sendingDisabled e =>
    "unrecoverable error delivering events, event sending is disabled: " ++ e.message
  | notInitialized =>
    "variation called before the feature store was initialized, returning default value"
  | unknownFlag => "unknown feature flag, returning default value"
  | wrongType => "flag value does not have the requested type, returning default value"
  | unknownStage => "unrecognized migration stage, returning default value"
  | stateNotInitialized =>
    "all_flags_state() called before the feature store was initialized, returning empty state"
  | stateEvaluationFailed => "error while evaluating all flags"
  | migrationEventFailed e => "failed to create migration op event: " ++ e.message
  | hookFailed stage hook error =>
    "an error was encountered in " ++ Text.quoted stage ++ " of the " ++ Text.quoted hook
      ++ " hook: " ++ error
  | hookNameFailed => "exception thrown getting metadata for hook, unable to get hook name"

end LogEntry

end FeatureFlags

/-
  FAILURES — what can go wrong outside evaluation.
-/
import FeatureFlags.Context.Kind
import FeatureFlags.Migration.Basic

namespace FeatureFlags

/-- Why an operation of the library failed. -/
inductive Failure where
  /-- A client that is not offline needs an SDK key. -/
  | missingSdkKey
  | invalidContext (cause : ContextError)
  /-- The address of the events service is no URL. -/
  | invalidBaseUrl
  | unauthorized
  /-- Events could not be delivered this time. -/
  | eventDelivery (reason : String)
  /-- A delivery was refused for good. -/
  | invalidSdkKey
  | eventProcessorClosed
  | invalidMigration (cause : Migration.Fault)
  /-- The store of big segments gave no answer. -/
  | bigSegmentStore (reason : String)
  /-- A connection failed. -/
  | network
deriving DecidableEq, Repr

/-- The wording of a failure. -/
def Failure.message : Failure → String
  | missingSdkKey => "an SDK key is required unless the client is offline"
  | invalidContext cause => "invalid context: " ++ cause.message
  | invalidBaseUrl => "invalid events URI configuration"
  | unauthorized => "unauthorized, SDK key is likely invalid"
  | eventDelivery reason => "event delivery failed: " ++ reason
  | invalidSdkKey => "SDK key is invalid, event sending has been disabled"
  | eventProcessorClosed => "event processor is closed"
  | invalidMigration cause => "invalid migration operation: " ++ cause.message
  | bigSegmentStore reason => "big segment store error: " ++ reason
  | network => "network error"

end FeatureFlags

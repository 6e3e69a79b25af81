/-
  CONFIGURATION of a client.

  All durations are in microseconds.
-/
import FeatureFlags.Context.Reference
import FeatureFlags.Platform

namespace FeatureFlags

structure Config where
  sdkKey : String
  /-- Send nothing and give every caller's default. -/
  offline : Bool
  baseUri : String
  streamUri : String
  eventsUri : String
  sendEvents : Bool
  /-- How many events may wait for the next flush. -/
  eventsCapacity : Nat
  flushInterval : Nat
  /-- How many contexts are remembered as already announced. -/
  contextKeysCapacity : Nat
  contextKeysFlushInterval : Nat
  allAttributesPrivate : Bool
  privateAttributes : List Reference
  diagnosticOptOut : Bool
  diagnosticRecordingInterval : Nat
  connectTimeout : Nat
  timeout : Nat
  /-- Changes of flags are streamed, and not asked for. -/
  stream : Bool
  pollInterval : Nat
  reconnectTime : Nat
  useRelayDaemon : Bool
  sdk : SdkInfo
  platform : Platform
deriving DecidableEq

namespace Config

def standardBaseUri : String := "https://sdk.flagpole.dev"

def standardStreamUri : String := "https://stream.flagpole.dev"

def standardEventsUri : String := "https://events.flagpole.dev"

/-- So many microseconds. -/
def seconds (n : Nat) : Nat := 1000000 * n

/-- Diagnostics are not recorded more often than once a minute. -/
def leastDiagnosticInterval : Nat := seconds 60

/-- The configuration for an SDK key. -/
def ofSdkKey (sdkKey : String) (platform : Platform) : Config where
  sdkKey := sdkKey
  offline := false
  baseUri := standardBaseUri
  streamUri := standardStreamUri
  eventsUri := standardEventsUri
  sendEvents := true
  eventsCapacity := 10000
  flushInterval := seconds 5
  contextKeysCapacity := 1000
  contextKeysFlushInterval := seconds 300
  allAttributesPrivate := false
  privateAttributes := []
  diagnosticOptOut := false
  diagnosticRecordingInterval := seconds 900
  connectTimeout := seconds 5
  timeout := seconds 5
  stream := true
  pollInterval := seconds 30
  reconnectTime := seconds 1
  useRelayDaemon := false
  sdk := SdkInfo.own
  platform := platform

/-- Set how often diagnostics are recorded. -/
def withDiagnosticInterval (c : Config) (interval : Nat) : Config :=
  { c with diagnosticRecordingInterval := max interval leastDiagnosticInterval }

end Config

end FeatureFlags

/-
  DIAGNOSTICS — what the library tells about its own work.

  One event at the start describes library, platform and configuration; each later one counts what
  happened since the one before.  The records of a window appear in exactly one event.
-/
import FeatureFlags.Config
import FeatureFlags.Event.Codec

namespace FeatureFlags

open Calendar (Instant)
open Json (ofMembers ofNat ofUInt64)

namespace Diagnostics

/-- Who reports. -/
structure Id where
  diagnosticId : String
  /-- The last six characters of the SDK key. -/
  sdkKeySuffix : String
deriving DecidableEq, Repr

/-- The last six characters of a text. -/
def suffix (text : String) : String :=
  String.ofList (text.toList.drop (text.toList.length - 6))

/-- An attempt to open the stream of changes. -/
structure StreamInit where
  timestamp : Instant
  failed : Bool
  /-- In microseconds. -/
  duration : Nat
deriving DecidableEq, Repr

/-- A diagnostic event. -/
inductive Event where
  | init (id : Id) (creationDate : Instant) (config : Config) (storeType : String)
  | stats (id : Id) (creationDate dataSinceDate : Instant)
      (droppedEvents deduplicatedUsers eventsInLastBatch : UInt64) (streamInits : List StreamInit)
deriving DecidableEq

end Diagnostics

/-- The records of a running library. -/
structure Diagnostics where
  id : Diagnostics.Id
  startTime : Instant
  config : Config
  /-- How flags are stored. -/
  storeType : String
  /-- When the current window began. -/
  dataSince : Instant
  streamInits : List Diagnostics.StreamInit
deriving DecidableEq

namespace Diagnostics

/-- Start recording. -/
def start (diagnosticId sdkKey : String) (now : Instant) (config : Config) (storeType : String) :
    Diagnostics where
  id := ⟨diagnosticId, suffix sdkKey⟩
  startTime := now
  config := config
  storeType := storeType
  dataSince := now
  streamInits := []

/-- The event of the start. -/
def initEvent (d : Diagnostics) : Event := .init d.id d.startTime d.config d.storeType

/-- Record an attempt to open the stream. -/
def recordStreamInit (d : Diagnostics) (attempt : StreamInit) : Diagnostics :=
  { d with streamInits := d.streamInits ++ [attempt] }

/-- **The event of the current window**, after which a new window begins. -/
def statsEvent (d : Diagnostics) (now : Instant) (dropped deduplicated lastBatch : UInt64) :
    Event × Diagnostics :=
  (.stats d.id now d.dataSince dropped deduplicated lastBatch d.streamInits,
    { d with dataSince := now, streamInits := [] })

/-! ## As JSON -/

/-- A duration in milliseconds, a half rounded up. -/
def millisJson (microseconds : Nat) : Json := ofNat ((microseconds + 500) / 1000)

def Id.toJson (id : Id) : Json := ofMembers [
  ("diagnosticId", .text id.diagnosticId),
  ("sdkKeySuffix", .text id.sdkKeySuffix)]

def sdkJson (s : SdkInfo) : Json := ofMembers <| [
  ("name", .text s.name),
  ("version", .text s.version)] ++
  member "wrapperName" .text s.wrapperName ++
  member "wrapperVersion" .text s.wrapperVersion

def platformJson (p : Platform) : Json := ofMembers [
  ("name", .text p.name),
  ("osName", .text p.osName),
  ("osArch", .text p.osArch)]

def configJson (c : Config) (storeType : String) : Json := ofMembers [
  ("customBaseURI", .bool (c.baseUri ≠ Config.standardBaseUri)),
  ("customStreamURI", .bool (c.streamUri ≠ Config.standardStreamUri)),
  ("customEventsURI", .bool (c.eventsUri ≠ Config.standardEventsUri)),
  ("eventsCapacity", ofNat c.eventsCapacity),
  ("connectTimeoutMillis", millisJson c.connectTimeout),
  ("socketTimeoutMillis", millisJson c.timeout),
  ("eventsFlushIntervalMillis", millisJson c.flushInterval),
  ("pollingIntervalMillis", millisJson c.pollInterval),
  ("reconnectTimeMillis", millisJson c.reconnectTime),
  ("contextKeysFlushIntervalMillis", millisJson c.contextKeysFlushInterval),
  ("diagnosticRecordingIntervalMillis", millisJson c.diagnosticRecordingInterval),
  ("streamingDisabled", .bool !c.stream),
  ("usingRelayDaemon", .bool c.useRelayDaemon),
  ("offline", .bool c.offline),
  ("allAttributesPrivate", .bool c.allAttributesPrivate),
  ("contextKeysCapacity", ofNat c.contextKeysCapacity),
  ("usingProxy", .bool c.platform.usingProxy),
  ("usingProxyAuthenticator", .bool c.platform.usingProxyAuthenticator),
  ("dataStoreType", .text storeType)]

def StreamInit.toJson (s : StreamInit) : Json := ofMembers [
  ("timestamp", dateJson s.timestamp),
  ("failed", .bool s.failed),
  ("durationMillis", millisJson s.duration)]

/-- **Write a diagnostic event.** -/
def Event.toJson : Event → Json
  | .init id creationDate config storeType => ofMembers [
      ("kind", .text "diagnostic-init"),
      ("id", id.toJson),
      ("creationDate", dateJson creationDate),
      ("sdk", sdkJson config.sdk),
      ("configuration", configJson config storeType),
      ("platform", platformJson config.platform)]
  | .stats id creationDate dataSinceDate dropped deduplicated lastBatch streamInits => ofMembers [
      ("kind", .text "diagnostic"),
      ("id", id.toJson),
      ("creationDate", dateJson creationDate),
      ("dataSinceDate", dateJson dataSinceDate),
      ("droppedEvents", ofUInt64 dropped),
      ("deduplicatedUsers", ofUInt64 deduplicated),
      ("eventsInLastBatch", ofUInt64 lastBatch),
      ("streamInits", .list (streamInits.map StreamInit.toJson))]

end Diagnostics

end FeatureFlags

/-
  OUTPUT EVENTS AS JSON.

  An event is an object whose member `kind` names its kind, or the list of its values after that
  name.  Dates are whole milliseconds.  What is none is left out.
-/
import FeatureFlags.Event.Output
import FeatureFlags.Evaluation.Codec

namespace FeatureFlags

open Calendar (Instant)
open Json (ofMembers ofOption ofTexts ofUInt64 ofUInt32 required orDefault optional listOf? uint64?
  uint32? int64? texts? record? variant?)

/-! ## Parts -/

/-- Write a date in milliseconds. -/
def dateJson (t : Instant) : Json := Json.ofInt t.toMilliseconds

/-- Read a date in milliseconds. -/
def date? (j : Json) : Option Instant :=
  (int64? j).bind fun ms => Instant.ofMicroseconds? (Instant.ofMilliseconds ms.toInt)

/-- A member that is left out if it is none. -/
def member {α : Type} (name : String) (write : α → Json) : Option α → List (String × Json)
  | none => []
  | some a => [(name, write a)]

def keysJson (keys : Entries String) : Json := .object (Entries.mapValues .text keys)

/-- Read an object whose members are read one by one. -/
def entries? {α : Type} (read : Json → Option α) (j : Json) : Option (Entries α) := do
  (← Json.object? j).mapM fun field => (read field.2).map fun a => (field.1, a)

def keys? (j : Json) : Option (Entries String) := entries? Document.text? j

def any? (j : Json) : Option Json := some j

namespace Migration

def Operation.toJson (op : Operation) : Json := .text op.name

def Operation.ofJson? (j : Json) : Option Operation := (variant? j).bind Operation.ofName?

def Origin.ofJson? (j : Json) : Option Origin := (variant? j).bind Origin.ofName?

def Stage.ofJson? (j : Json) : Option Stage :=
  (variant? j).bind fun name => (Stage.ofName name).toOption

def PerOrigin.toJson {α : Type} (write : α → Json) (p : PerOrigin α) : Json :=
  .object (Entries.mapValues write p.toEntries)

def Measurement.toJson : Measurement → Json
  | .invoked origins => ofMembers [
      ("key", .text "invoked"), ("values", origins.toJson fun _ => .bool true)]
  | .consistent value ratio => ofMembers [
      ("key", .text "consistent"), ("value", .bool value), ("samplingRatio", ofUInt32 ratio)]
  | .latency milliseconds => ofMembers [
      ("key", .text "latency_ms"), ("values", milliseconds.toJson Json.ofFloat)]
  | .error origins => ofMembers [
      ("key", .text "error"), ("values", origins.toJson fun _ => .bool true)]

def Evaluated.toJson (e : Evaluated) : Json := ofMembers <| [
  ("key", .text e.key),
  ("value", .text e.value.name),
  ("default", .text e.default.name),
  ("reason", e.reason.toJson)] ++
  member "variation" ofUInt64 e.variation ++
  member "version" ofUInt64 e.version

end Migration

/-! ## Writing -/

def FeatureOutput.members (e : FeatureOutput) : List (String × Json) := [
  ("creationDate", dateJson e.creationDate),
  ("key", .text e.key),
  ("value", e.value)] ++
  member "contextKeys" keysJson e.contextKeys ++
  member "context" id e.context ++
  member "version" ofUInt64 e.version ++
  member "variation" ofUInt64 e.variation ++
  member "default" id e.default ++
  member "reason" Reason.toJson e.reason ++
  member "prereqOf" .text e.prereqOf ++
  member "samplingRatio" ofUInt32 e.samplingRatio

def CustomOutput.members (e : CustomOutput) : List (String × Json) := [
  ("creationDate", dateJson e.creationDate),
  ("key", .text e.key),
  ("contextKeys", keysJson e.contextKeys)] ++
  member "data" id e.data ++
  member "metricValue" Json.ofFloat e.metricValue ++
  member "samplingRatio" ofUInt32 e.samplingRatio

def MigrationOutput.members (e : MigrationOutput) : List (String × Json) := [
  ("creationDate", dateJson e.creationDate),
  ("contextKeys", keysJson e.contextKeys),
  ("operation", e.operation.toJson),
  ("evaluation", e.evaluation),
  ("measurements", .list e.measurements)] ++
  member "samplingRatio" ofUInt32 e.samplingRatio

def SummaryCounter.toJson (c : SummaryCounter) : Json := ofMembers <|
  member "variation" ofUInt64 c.variation ++
  member "version" ofUInt64 c.version ++
  [("value", c.value), ("count", ofUInt64 c.count)] ++
  Reason.flagMember "unknown" c.unknown

def FlagSummary.toJson (s : FlagSummary) : Json := ofMembers [
  ("default", s.default),
  ("contextKinds", ofTexts s.contextKinds),
  ("counters", .list (s.counters.map SummaryCounter.toJson))]

def SummaryOutput.members (e : SummaryOutput) : List (String × Json) := [
  ("startDate", dateJson e.startDate),
  ("endDate", dateJson e.endDate),
  ("features", .object (Entries.mapValues FlagSummary.toJson e.features))]

namespace OutputEvent

/-- The members of an event besides its kind. -/
def members : OutputEvent → List (String × Json)
  | index creationDate context | identify creationDate context =>
    [("creationDate", dateJson creationDate), ("context", context)]
  | feature e | debug e => e.members
  | custom e => e.members
  | migration e => e.members
  | summary e => e.members

/-- **Write an event.** -/
def toJson (e : OutputEvent) : Json := ofMembers (("kind", .text e.kind) :: e.members)

end OutputEvent

/-! ## Reading -/

/-- A date with a context: what an index and an identify event hold. -/
def datedContext? (j : Json) : Option (Instant × Json) := do
  let fields ← record? ["creationDate", "context"] j
  let creationDate ← required fields "creationDate" date?
  let context ← required fields "context" any?
  pure (creationDate, context)

def FeatureOutput.ofJson? (j : Json) : Option FeatureOutput := do
  let fields ← record? ["creationDate", "key", "contextKeys", "context", "version", "variation",
    "value", "default", "reason", "prereqOf", "samplingRatio"] j
  let creationDate ← required fields "creationDate" date?
  let key ← required fields "key" Document.text?
  let contextKeys ← optional fields "contextKeys" keys?
  let context ← optional fields "context" any?
  let version ← optional fields "version" uint64?
  let variation ← optional fields "variation" uint64?
  let value ← required fields "value" any?
  let default ← optional fields "default" any?
  let reason ← optional fields "reason" Reason.ofJson?
  let prereqOf ← optional fields "prereqOf" Document.text?
  let samplingRatio ← optional fields "samplingRatio" uint32?
  pure { creationDate, key, contextKeys, context, version, variation, value, default, reason,
         prereqOf, samplingRatio }

def CustomOutput.ofJson? (j : Json) : Option CustomOutput := do
  let fields ←
    record? ["creationDate", "key", "contextKeys", "data", "metricValue", "samplingRatio"] j
  let creationDate ← required fields "creationDate" date?
  let key ← required fields "key" Document.text?
  let contextKeys ← required fields "contextKeys" keys?
  let data ← optional fields "data" any?
  let metricValue ← optional fields "metricValue" Json.float?
  let samplingRatio ← optional fields "samplingRatio" uint32?
  pure { creationDate, key, contextKeys, data, metricValue, samplingRatio }

def MigrationOutput.ofJson? (j : Json) : Option MigrationOutput := do
  let fields ← record? ["creationDate", "contextKeys", "operation", "evaluation", "measurements",
    "samplingRatio"] j
  let creationDate ← required fields "creationDate" date?
  let contextKeys ← required fields "contextKeys" keys?
  let operation ← required fields "operation" Migration.Operation.ofJson?
  let evaluation ← required fields "evaluation" any?
  let measurements ← required fields "measurements" Json.list?
  let samplingRatio ← optional fields "samplingRatio" uint32?
  pure { creationDate, contextKeys, operation, evaluation, measurements, samplingRatio }

def SummaryCounter.ofJson? (j : Json) : Option SummaryCounter := do
  let fields ← record? ["variation", "version", "value", "count", "unknown"] j
  let variation ← optional fields "variation" uint64?
  let version ← optional fields "version" uint64?
  let value ← required fields "value" any?
  let count ← required fields "count" uint64?
  let unknown ← orDefault fields "unknown" false Document.bool?
  pure { variation, version, value, count, unknown }

def FlagSummary.ofJson? (j : Json) : Option FlagSummary := do
  let fields ← record? ["default", "contextKinds", "counters"] j
  let default ← orDefault fields "default" .null any?
  let contextKinds ← required fields "contextKinds" texts?
  let counters ← required fields "counters" (listOf? SummaryCounter.ofJson?)
  pure { default, contextKinds, counters }

def SummaryOutput.ofJson? (j : Json) : Option SummaryOutput := do
  let fields ← record? ["startDate", "endDate", "features"] j
  let startDate ← required fields "startDate" date?
  let endDate ← required fields "endDate" date?
  let features ← required fields "features" (entries? FlagSummary.ofJson?)
  pure { startDate, endDate, features }

namespace OutputEvent

/-- The kind of an event, and the rest of it. -/
def tagged? : Json → Option (String × Json)
  | .object fields => do
    let kind ← (Entries.get? "kind" fields).bind Document.text?
    pure (kind, .object (Entries.erase "kind" fields))
  | .list (kind :: rest) => kind.text?.map fun kind => (kind, .list rest)
  | _ => none

/-- **Read an event.** -/
def ofJson? (j : Json) : Option OutputEvent := do
  let (kind, rest) ← tagged? j
  match kind with
  | "index" => (datedContext? rest).map fun (creationDate, context) => index creationDate context
  | "feature" => (FeatureOutput.ofJson? rest).map feature
  | "debug" => (FeatureOutput.ofJson? rest).map debug
  | "identify" =>
    (datedContext? rest).map fun (creationDate, context) => identify creationDate context
  | "custom" => (CustomOutput.ofJson? rest).map custom
  | "migration_op" => (MigrationOutput.ofJson? rest).map migration
  | "summary" => (SummaryOutput.ofJson? rest).map summary
  | _ => none

end OutputEvent

end FeatureFlags

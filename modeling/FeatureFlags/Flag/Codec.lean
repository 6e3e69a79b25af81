/-
  FLAGS AND SEGMENTS AS JSON.

  Writing puts down every member, null for what is none, except that a rule or a fallthrough leaves
  out the variation or rollout it does not have.  Reading takes defaults for missing members and
  refuses data of a wrong type.
-/
import FeatureFlags.Flag.Basic
import FeatureFlags.Json.Record

namespace FeatureFlags

open Json (ofMembers ofOption ofTexts ofUInt64 required orDefault optional listOf? uint64? uint32?
  int64? texts? record? variant?)

/-! ## Leaves -/

def Kind.toJson (k : Kind) : Json := .text k.name

def Kind.ofJson? (j : Json) : Option Kind := j.text?.bind fun s => (Kind.ofText s).toOption

def KeySet.toJson (s : KeySet) : Json := ofTexts s.toList

def KeySet.ofJson? (j : Json) : Option KeySet := (texts? j).map KeySet.ofList

def Json.ofUInt32 (n : UInt32) : Json := Json.ofNat n.toNat

def Json.ofInt64 (n : Int64) : Json := Json.ofInt n.toInt

def Operator.toJson (op : Operator) : Json := .text op.name

def Operator.ofJson? (j : Json) : Option Operator := (variant? j).map Operator.ofName

def Rollout.Purpose.toJson : Rollout.Purpose → Json
  | .rollout => .text "rollout"
  | .experiment => .text "experiment"

def Rollout.Purpose.ofJson? (j : Json) : Option Rollout.Purpose :=
  match variant? j with
  | some "rollout" => some .rollout
  | some "experiment" => some .experiment
  | _ => none

/-! ## Clauses -/

def Clause.toJson (c : Clause) : Json := ofMembers [
  ("contextKind", ofOption Kind.toJson c.contextKind),
  ("attribute", .text c.attributeName),
  ("op", c.op.toJson),
  ("values", .list (c.values.map Attribute.toFloatJson)),
  ("negate", .bool c.negate)]

def Clause.ofJson? (j : Json) : Option Clause := do
  let fields ← record? ["contextKind", "attribute", "op", "values", "negate"] j
  let contextKind ← optional fields "contextKind" Kind.ofJson?
  let attributeName ← required fields "attribute" Document.text?
  let op ← required fields "op" Operator.ofJson?
  let values ← orDefault fields "values" [] (listOf? fun v => some (Json.toAttribute v))
  let negate ← orDefault fields "negate" false Document.bool?
  pure { contextKind, attributeName, op, values, negate }

/-! ## Parts of flags -/

def Prerequisite.toJson (p : Prerequisite) : Json :=
  ofMembers [("key", .text p.key), ("variation", ofUInt64 p.variation)]

def Prerequisite.ofJson? (j : Json) : Option Prerequisite := do
  let fields ← record? ["key", "variation"] j
  let key ← required fields "key" Document.text?
  let variation ← required fields "variation" uint64?
  pure { key, variation }

def Target.toJson (t : Target) : Json := ofMembers [
  ("contextKind", ofOption Kind.toJson t.contextKind),
  ("values", t.values.toJson),
  ("variation", ofUInt64 t.variation)]

def Target.ofJson? (j : Json) : Option Target := do
  let fields ← record? ["contextKind", "values", "variation"] j
  let contextKind ← optional fields "contextKind" Kind.ofJson?
  let values ← orDefault fields "values" KeySet.empty KeySet.ofJson?
  let variation ← required fields "variation" uint64?
  pure { contextKind, values, variation }

def WeightedVariation.toJson (w : WeightedVariation) : Json := ofMembers [
  ("variation", ofUInt64 w.variation),
  ("weight", Json.ofUInt32 w.weight),
  ("untracked", .bool w.untracked)]

def WeightedVariation.ofJson? (j : Json) : Option WeightedVariation := do
  let fields ← record? ["variation", "weight", "untracked"] j
  let variation ← required fields "variation" uint64?
  let weight ← required fields "weight" uint32?
  let untracked ← orDefault fields "untracked" false Document.bool?
  pure { variation, weight, untracked }

def Rollout.toJson (r : Rollout) : Json := ofMembers [
  ("kind", r.kind.toJson),
  ("contextKind", ofOption Kind.toJson r.contextKind),
  ("bucketBy", ofOption .text r.bucketBy),
  ("seed", ofOption Json.ofInt64 r.seed),
  ("variations", .list (r.variations.map WeightedVariation.toJson))]

def Rollout.ofJson? (j : Json) : Option Rollout := do
  let fields ← record? ["kind", "contextKind", "bucketBy", "seed", "variations"] j
  let kind ← orDefault fields "kind" .rollout Rollout.Purpose.ofJson?
  let contextKind ← optional fields "contextKind" Kind.ofJson?
  let bucketBy ← optional fields "bucketBy" Document.text?
  let seed ← optional fields "seed" int64?
  let variations ← orDefault fields "variations" [] (listOf? WeightedVariation.ofJson?)
  pure { kind, contextKind, bucketBy, seed, variations }

/-- The members of what is served; what is none is left out. -/
def Serving.members (s : Serving) : List (String × Json) :=
  (match s.variation with
    | none => []
    | some i => [("variation", ofUInt64 i)]) ++
  (match s.rollout with
    | none => []
    | some r => [("rollout", r.toJson)])

def Serving.toJson (s : Serving) : Json := ofMembers s.members

def Serving.ofFields? (fields : Entries Json) : Option Serving := do
  let variation ← optional fields "variation" uint64?
  let rollout ← optional fields "rollout" Rollout.ofJson?
  pure { variation, rollout }

def Serving.ofJson? (j : Json) : Option Serving :=
  (record? ["variation", "rollout"] j).bind Serving.ofFields?

/-- A rule's serving stands among the rule's own members. -/
def FlagRule.toJson (r : FlagRule) : Json := ofMembers <| [
  ("id", ofOption .text r.id),
  ("clauses", .list (r.clauses.map Clause.toJson)),
  ("trackEvents", .bool r.trackEvents)] ++ r.serving.members

def FlagRule.ofJson? (j : Json) : Option FlagRule := do
  let fields ← Json.object? j
  let id ← optional fields "id" Document.text?
  let clauses ← orDefault fields "clauses" [] (listOf? Clause.ofJson?)
  let serving ← Serving.ofFields? fields
  let trackEvents ← orDefault fields "trackEvents" false Document.bool?
  pure { id, clauses, serving, trackEvents }

def ClientSideAvailability.toJson (a : ClientSideAvailability) : Json := ofMembers [
  ("usingMobileKey", .bool a.usingMobileKey),
  ("usingEnvironmentId", .bool a.usingEnvironmentId)]

def ClientSideAvailability.ofJson? (j : Json) : Option ClientSideAvailability := do
  let fields ← record? ["usingMobileKey", "usingEnvironmentId"] j
  let usingMobileKey ← orDefault fields "usingMobileKey" false Document.bool?
  let usingEnvironmentId ← orDefault fields "usingEnvironmentId" false Document.bool?
  pure { usingMobileKey, usingEnvironmentId }

def MigrationSettings.toJson (m : MigrationSettings) : Json :=
  ofMembers [("checkRatio", ofOption Json.ofUInt32 m.checkRatio)]

def MigrationSettings.ofJson? (j : Json) : Option MigrationSettings := do
  let fields ← record? ["checkRatio"] j
  let checkRatio ← optional fields "checkRatio" uint32?
  pure { checkRatio }

/-! ## Flags -/

namespace Flag

/-- The members of a flag, in the order of its list form. -/
def memberNames : List String :=
  ["key", "version", "on", "prerequisites", "targets", "contextTargets", "rules", "fallthrough",
    "offVariation", "variations", "salt", "trackEvents", "trackEventsFallthrough",
    "debugEventsUntilDate", "clientSideAvailability", "clientSide", "migration", "samplingRatio",
    "excludeFromSummaries", "deleted"]

/-- **Write a flag.** -/
def toJson (f : Flag) : Json := ofMembers [
  ("key", .text f.key),
  ("version", ofUInt64 f.version),
  ("on", .bool f.on),
  ("prerequisites", .list (f.prerequisites.map Prerequisite.toJson)),
  ("targets", .list (f.targets.map Target.toJson)),
  ("contextTargets", .list (f.contextTargets.map Target.toJson)),
  ("rules", .list (f.rules.map FlagRule.toJson)),
  ("fallthrough", f.fallthrough.toJson),
  ("offVariation", ofOption ofUInt64 f.offVariation),
  ("variations", .list f.variations),
  ("salt", .text f.salt),
  ("trackEvents", .bool f.trackEvents),
  ("trackEventsFallthrough", .bool f.trackEventsFallthrough),
  ("debugEventsUntilDate", ofOption ofUInt64 f.debugEventsUntilDate),
  ("clientSideAvailability", ofOption ClientSideAvailability.toJson f.clientSideAvailability),
  ("clientSide", .bool f.clientSide),
  ("migration", ofOption MigrationSettings.toJson f.migration),
  ("samplingRatio", ofOption Json.ofUInt32 f.samplingRatio),
  ("excludeFromSummaries", .bool f.excludeFromSummaries),
  ("deleted", .bool f.deleted)]

/-- **Read a flag.** -/
def ofJson? (j : Json) : Option Flag := do
  let fields ← record? memberNames j
  let key ← required fields "key" Document.text?
  let version ← orDefault fields "version" 0 uint64?
  let on ← orDefault fields "on" false Document.bool?
  let prerequisites ← orDefault fields "prerequisites" [] (listOf? Prerequisite.ofJson?)
  let targets ← orDefault fields "targets" [] (listOf? Target.ofJson?)
  let contextTargets ← orDefault fields "contextTargets" [] (listOf? Target.ofJson?)
  let rules ← orDefault fields "rules" [] (listOf? FlagRule.ofJson?)
  let fallthrough ← orDefault fields "fallthrough" default Serving.ofJson?
  let offVariation ← optional fields "offVariation" uint64?
  let variations ← orDefault fields "variations" [] Json.list?
  let salt ← orDefault fields "salt" "" Document.text?
  let trackEvents ← orDefault fields "trackEvents" false Document.bool?
  let trackEventsFallthrough ← orDefault fields "trackEventsFallthrough" false Document.bool?
  let debugEventsUntilDate ← optional fields "debugEventsUntilDate" uint64?
  let clientSideAvailability ←
    optional fields "clientSideAvailability" ClientSideAvailability.ofJson?
  let clientSide ← orDefault fields "clientSide" false Document.bool?
  let migration ← optional fields "migration" MigrationSettings.ofJson?
  let samplingRatio ← optional fields "samplingRatio" uint32?
  let excludeFromSummaries ← orDefault fields "excludeFromSummaries" false Document.bool?
  let deleted ← orDefault fields "deleted" false Document.bool?
  pure {
    key, version, on, prerequisites, targets, contextTargets, rules, fallthrough, offVariation,
    variations, salt, trackEvents, trackEventsFallthrough, debugEventsUntilDate,
    clientSideAvailability, clientSide, migration, samplingRatio, excludeFromSummaries, deleted }

end Flag

/-! ## Segments -/

def SegmentTarget.toJson (t : SegmentTarget) : Json :=
  ofMembers [("contextKind", t.contextKind.toJson), ("values", t.values.toJson)]

def SegmentTarget.ofJson? (j : Json) : Option SegmentTarget := do
  let fields ← record? ["contextKind", "values"] j
  let contextKind ← required fields "contextKind" Kind.ofJson?
  let values ← orDefault fields "values" KeySet.empty KeySet.ofJson?
  pure { contextKind, values }

def SegmentRule.toJson (r : SegmentRule) : Json := ofMembers [
  ("id", ofOption .text r.id),
  ("clauses", .list (r.clauses.map Clause.toJson)),
  ("weight", ofOption Json.ofUInt32 r.weight),
  ("bucketBy", ofOption .text r.bucketBy),
  ("rolloutContextKind", ofOption Kind.toJson r.rolloutContextKind)]

def SegmentRule.ofJson? (j : Json) : Option SegmentRule := do
  let fields ← record? ["id", "clauses", "weight", "bucketBy", "rolloutContextKind"] j
  let id ← optional fields "id" Document.text?
  let clauses ← orDefault fields "clauses" [] (listOf? Clause.ofJson?)
  let weight ← optional fields "weight" uint32?
  let bucketBy ← optional fields "bucketBy" Document.text?
  let rolloutContextKind ← optional fields "rolloutContextKind" Kind.ofJson?
  pure { id, clauses, weight, bucketBy, rolloutContextKind }

namespace Segment

/-- The members of a segment, in the order of its list form. -/
def memberNames : List String :=
  ["key", "version", "included", "excluded", "includedContexts", "excludedContexts", "rules",
    "salt", "unbounded", "unboundedContextKind", "generation", "deleted"]

/-- **Write a segment.** -/
def toJson (s : Segment) : Json := ofMembers [
  ("key", .text s.key),
  ("version", ofUInt64 s.version),
  ("included", s.included.toJson),
  ("excluded", s.excluded.toJson),
  ("includedContexts", .list (s.includedContexts.map SegmentTarget.toJson)),
  ("excludedContexts", .list (s.excludedContexts.map SegmentTarget.toJson)),
  ("rules", .list (s.rules.map SegmentRule.toJson)),
  ("salt", .text s.salt),
  ("unbounded", .bool s.unbounded),
  ("unboundedContextKind", ofOption Kind.toJson s.unboundedContextKind),
  ("generation", ofOption ofUInt64 s.generation),
  ("deleted", .bool s.deleted)]

/-- **Read a segment.** -/
def ofJson? (j : Json) : Option Segment := do
  let fields ← record? memberNames j
  let key ← required fields "key" Document.text?
  let version ← orDefault fields "version" 0 uint64?
  let included ← orDefault fields "included" KeySet.empty KeySet.ofJson?
  let excluded ← orDefault fields "excluded" KeySet.empty KeySet.ofJson?
  let includedContexts ← orDefault fields "includedContexts" [] (listOf? SegmentTarget.ofJson?)
  let excludedContexts ← orDefault fields "excludedContexts" [] (listOf? SegmentTarget.ofJson?)
  let rules ← orDefault fields "rules" [] (listOf? SegmentRule.ofJson?)
  let salt ← orDefault fields "salt" "" Document.text?
  let unbounded ← orDefault fields "unbounded" false Document.bool?
  let unboundedContextKind ← optional fields "unboundedContextKind" Kind.ofJson?
  let generation ← optional fields "generation" uint64?
  let deleted ← orDefault fields "deleted" false Document.bool?
  pure {
    key, version, included, excluded, includedContexts, excludedContexts, rules, salt, unbounded,
    unboundedContextKind, generation, deleted }

end Segment

end FeatureFlags

/-
  REASONS AND DETAILS AS JSON.

  The cause and the status of big segments stand in one object.  `kind` names the cause; members
  that are none or false are left out.
-/
import FeatureFlags.Evaluation.Reason
import FeatureFlags.Flag.Codec

namespace FeatureFlags

open Json (ofMembers ofOption ofUInt64 required orDefault optional uint64? variant?)

namespace Fault

def name : Fault → String
  | flagNotFound => "FLAG_NOT_FOUND"
  | userNotSpecified => "USER_NOT_SPECIFIED"
  | clientNotReady => "CLIENT_NOT_READY"
  | malformedFlag => "MALFORMED_FLAG"
  | wrongType => "WRONG_TYPE"
  | exception => "EXCEPTION"

def all : List Fault :=
  [flagNotFound, userNotSpecified, clientNotReady, malformedFlag, wrongType, exception]

def ofName? (name : String) : Option Fault := all.find? fun fault => fault.name = name

def ofJson? (j : Json) : Option Fault := (variant? j).bind ofName?

end Fault

namespace BigSegmentsStatus

def name : BigSegmentsStatus → String
  | healthy => "HEALTHY"
  | stale => "STALE"
  | storeError => "STORE_ERROR"
  | notConfigured => "NOT_CONFIGURED"

def all : List BigSegmentsStatus := [healthy, stale, storeError, notConfigured]

def ofName? (name : String) : Option BigSegmentsStatus := all.find? fun s => s.name = name

def ofJson? (j : Json) : Option BigSegmentsStatus := (variant? j).bind ofName?

end BigSegmentsStatus

namespace Reason

/-- A member that is written only when true. -/
def flagMember (name : String) : Bool → List (String × Json)
  | true => [(name, .bool true)]
  | false => []

/-- The members of a cause. -/
def Cause.members : Cause → List (String × Json)
  | .off => [("kind", .text "OFF")]
  | .fallthrough inExperiment =>
    ("kind", .text "FALLTHROUGH") :: flagMember "inExperiment" inExperiment
  | .targetMatch => [("kind", .text "TARGET_MATCH")]
  | .ruleMatch ruleIndex ruleId inExperiment =>
    [("kind", .text "RULE_MATCH"), ("ruleIndex", ofUInt64 ruleIndex)] ++
      (match ruleId with
        | none => []
        | some id => [("ruleId", .text id)]) ++
      flagMember "inExperiment" inExperiment
  | .prerequisiteFailed key =>
    [("kind", .text "PREREQUISITE_FAILED"), ("prerequisiteKey", .text key)]
  | .error fault => [("kind", .text "ERROR"), ("errorKind", .text fault.name)]

/-- **Write a reason.** -/
def toJson (r : Reason) : Json :=
  ofMembers <| r.cause.members ++
    match r.bigSegments with
    | none => []
    | some status => [("bigSegmentsStatus", .text status.name)]

/-- The cause of the given kind. -/
def Cause.ofFields? (kind : String) (fields : Entries Json) : Option Cause :=
  match kind with
  | "OFF" => some .off
  | "FALLTHROUGH" => (orDefault fields "inExperiment" false Document.bool?).map .fallthrough
  | "TARGET_MATCH" => some .targetMatch
  | "RULE_MATCH" => do
    let ruleIndex ← required fields "ruleIndex" uint64?
    let ruleId ← optional fields "ruleId" Document.text?
    let inExperiment ← orDefault fields "inExperiment" false Document.bool?
    pure (.ruleMatch ruleIndex ruleId inExperiment)
  | "PREREQUISITE_FAILED" =>
    (required fields "prerequisiteKey" Document.text?).map .prerequisiteFailed
  | "ERROR" => (required fields "errorKind" Fault.ofJson?).map .error
  | _ => none

/-- The kinds of causes, in the order of their numbers. -/
def Cause.kinds : List String :=
  ["OFF", "FALLTHROUGH", "TARGET_MATCH", "RULE_MATCH", "PREREQUISITE_FAILED", "ERROR"]

/-- The kind of a cause may also be given by its number. -/
def Cause.kind? : Json → Option String
  | .text kind => some kind
  | .number (.int i) => if 0 ≤ i then kinds[i.toNat]? else none
  | _ => none

/-- **Read a reason.** -/
def ofJson? (j : Json) : Option Reason := do
  let fields ← Json.object? j
  let bigSegments ← optional fields "bigSegmentsStatus" BigSegmentsStatus.ofJson?
  let kind ← required fields "kind" Cause.kind?
  let cause ← Cause.ofFields? kind fields
  pure { cause, bigSegments }

end Reason

/-- Write a detail. -/
def Detail.toJson {α : Type} (write : α → Json) (d : Detail α) : Json := ofMembers [
  ("value", ofOption write d.value),
  ("variationIndex", ofOption ofUInt64 d.index),
  ("reason", d.reason.toJson)]

end FeatureFlags

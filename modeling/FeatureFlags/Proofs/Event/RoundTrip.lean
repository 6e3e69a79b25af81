/-
  OUTPUT EVENTS READ BACK — what is written of an event is read as it was, but for nulls that are
  lost.

  A member that is none is left out, and a null in its place is read as none, too.  Among the
  members that may be none, three hold any value, so they may hold null: the context and the default
  of an evaluation and the data of an event of the program's own.

  1. **Members that are left out** — what is written are the members that are `present`, and reading
     one that may hold any value loses null (`optional_any?`).
  2. **Leaves** — whole milliseconds of the calendar (`date?_dateJson`), and objects that are read
     member by member (`entries?_mapValues`).
  3. **Reasons** — the members of a cause, with the status of big segments next to them.
  4. **Events** — one lemma for each; the kind of an event is told from its other members
     (`tagged?_toJson`).
  5. **Main result** (`toJson_roundTrip`) — an event is read as it is `withoutNulls`, that is, as it
     was exactly if it holds no null in such a place.
-/
import FeatureFlags.Event.Codec
import FeatureFlags.Proofs.Json.Record
import Mathlib.Data.List.Basic

namespace FeatureFlags

open Calendar (Instant)
open Entries (get? ofList)
open Json
  (ofMembers ofUInt64 ofUInt32 required orDefault optional present present_nil present_append
  present_some bind_of required_of orDefault_of optional_of_map read_ofMembers
    read_present listOf?_map
  uint64?_ofUInt64 uint32?_ofUInt32)

/-! ## Members that are left out -/

namespace Json

/-- True, or left out. -/
def ifTrue (b : Bool) : Option Json := if b then some (.bool true) else none

/-- A value that is there; null counts as none. -/
def nonNull : Option Json → Option Json
  | some .null => none
  | a => a

/-- The optional value survives reading unless it is the JSON null. -/
theorem nonNull_eq_iff {a : Option Json} : nonNull a = a ↔ some .null ≠ a := by
  cases a with
  | none => simp [nonNull]
  | some j => cases j <;> simp [nonNull]

theorem null_ne_nonNull (a : Option Json) : some .null ≠ nonNull a := by
  cases a with
  | none => simp [nonNull]
  | some j => cases j <;> simp [nonNull]

end Json

section Present

variable {α : Type} {name : String} {write : α → Json} {rest : List (String × Option Json)}

/-- What may be none. -/
theorem present_map (a : Option α) :
    present ((name, a.map write) :: rest) = member name write a ++ present rest := by
  cases a <;> rfl

theorem present_ifTrue (b : Bool) :
    present ((name, Json.ifTrue b) :: rest) = Reason.flagMember name b ++ present rest := by
  cases b <;> rfl

end Present

section Readers

variable {name : String} {fields : Entries Json}

theorem orDefault_ifTrue {b : Bool} (h : get? name fields = Json.ifTrue b) :
    orDefault fields name false Document.bool? = some b := by
  cases b <;> rw [orDefault, h] <;> rfl

/-- Of any value, null is read as none. -/
theorem optional_any? {a : Option Json} (h : get? name fields = a.map id) :
    optional fields name any? = some (Json.nonNull a) := by
  rw [Json.optional, orDefault, h]
  cases a with
  | none => rfl
  | some j => cases j <;> rfl

end Readers

/-! ## Leaves -/

theorem Fault.ofJson?_name (fault : Fault) : Fault.ofJson? (.text fault.name) = some fault := by
  cases fault <;> rfl

theorem BigSegmentsStatus.ofJson?_name (status : BigSegmentsStatus) :
    BigSegmentsStatus.ofJson? (.text status.name) = some status := by
  cases status <;> rfl

theorem Migration.Operation.ofJson?_toJson (op : Migration.Operation) :
    Migration.Operation.ofJson? op.toJson = some op := by
  cases op <;> rfl

/-- A whole number of milliseconds, within the calendar. -/
def Calendar.Instant.IsWhole (t : Instant) : Prop :=
  (∃ ms, t = Instant.ofMilliseconds ms) ∧ Instant.first ≤ t ∧ t < Instant.bound

/-- A date of whole milliseconds is written as their number. -/
theorem date?_dateJson {t : Instant} (h : t.IsWhole) : date? (dateJson t) = some t := by
  obtain ⟨⟨ms, rfl⟩, hfirst, hbound⟩ := h
  have hmin : -8334601228800000000 ≤ 1000 * ms := hfirst
  have hmax : 1000 * ms < 8210266876800000000 := hbound
  have hms : (Int64.ofInt ms).toInt = ms := Int64.toInt_ofInt_of_le (by omega) (by omega)
  have hread : Json.int64? (dateJson (Instant.ofMilliseconds ms)) = some (Int64.ofInt ms) := by
    rw [dateJson, Instant.toMilliseconds_ofMilliseconds]
    conv_lhs => rw [← hms]
    exact Json.int64?_ofInt64 _
  rw [date?, hread, Option.bind_some, hms, Instant.ofMicroseconds?, if_pos ⟨hfirst, hbound⟩]

/-- An object is read member by member. -/
theorem entries?_mapValues {α : Type} {read : Json → Option α} {write : α → Json}
    {entries : Entries α} (hread : ∀ a, read (write a) = some a) :
    entries? read (.object (Entries.mapValues write entries)) = some entries := by
  refine Json.mapM_map fun entry _ => ?_
  rw [hread]
  rfl

theorem keys?_keysJson (keys : Entries String) : keys? (keysJson keys) = some keys :=
  entries?_mapValues fun _ => rfl

/-! ## Reasons -/

namespace Reason

/-- The name of the kind of a cause. -/
def Cause.kind : Cause → String
  | .off => "OFF"
  | .fallthrough _ => "FALLTHROUGH"
  | .targetMatch => "TARGET_MATCH"
  | .ruleMatch .. => "RULE_MATCH"
  | .prerequisiteFailed _ => "PREREQUISITE_FAILED"
  | .error _ => "ERROR"

/-- The members of a cause besides its kind. -/
def Cause.parts : Cause → List (String × Option Json)
  | .off | .targetMatch => []
  | .fallthrough inExperiment => [("inExperiment", Json.ifTrue inExperiment)]
  | .ruleMatch ruleIndex ruleId inExperiment => [
      ("ruleIndex", some (ofUInt64 ruleIndex)), ("ruleId", ruleId.map .text),
      ("inExperiment", Json.ifTrue inExperiment)]
  | .prerequisiteFailed key => [("prerequisiteKey", some (.text key))]
  | .error fault => [("errorKind", some (.text fault.name))]

/-- The members of a cause begin with its kind; those of its parts that there are follow. -/
theorem Cause.members_eq (c : Cause) :
    c.members = present (("kind", some (.text c.kind)) :: c.parts) := by
  cases c with
  | off | targetMatch | prerequisiteFailed | error => rfl
  | «fallthrough» b => cases b <;> rfl
  | ruleMatch i id b => cases id <;> cases b <;> rfl

/-- A cause is read from its kind and its own parts, whatever else is among the fields. -/
theorem Cause.ofFields?_kind {c : Cause} {fields : Entries Json}
    (h : c.parts.Forall fun m => get? m.1 fields = m.2) : ofFields? c.kind fields = some c := by
  cases c with
  | off | targetMatch => rfl
  | «fallthrough» b =>
    have hexperiment : orDefault fields "inExperiment" false Document.bool? = some b :=
      orDefault_ifTrue h
    exact congrArg (Option.map Cause.fallthrough) hexperiment
  | ruleMatch i id b =>
    -- an identifier that is missing is read as none
    obtain ⟨hindex, hid, hexperiment⟩ := h
    refine bind_of (required_of hindex (uint64?_ofUInt64 i)) ?_
    refine bind_of (optional_of_map hid rfl fun _ _ => rfl) ?_
    refine bind_of (orDefault_ifTrue hexperiment) ?_
    rfl
  | prerequisiteFailed key =>
    have hkey : required fields "prerequisiteKey" Document.text? = some key := required_of h rfl
    exact congrArg (Option.map Cause.prerequisiteFailed) hkey
  | error fault =>
    have hfault : required fields "errorKind" Fault.ofJson? = some fault :=
      required_of h fault.ofJson?_name
    exact congrArg (Option.map Cause.error) hfault

/-- **A reason is read back**, the status of big segments among the members of its cause. -/
theorem ofJson?_toJson (r : Reason) : Reason.ofJson? r.toJson = some r := by
  obtain ⟨cause, status⟩ := r
  have hmembers : toJson ⟨cause, status⟩ = ofMembers (present (("kind", some (.text cause.kind)) ::
      cause.parts ++ [("bigSegmentsStatus", status.map fun s => .text s.name)])) := by
    rw [toJson, Cause.members_eq, present_append]
    cases status <;> rfl
  rw [hmembers]
  refine read_present (by cases cause <;> simp [Cause.parts]) fun fields hfields => ?_
  -- the look-ups of the cause and that of the status come from one object
  obtain ⟨hcause, hstatus⟩ := List.forall_append.1 hfields
  obtain ⟨hkind, hparts⟩ := (List.forall_cons _ _ _).1 hcause
  refine bind_of rfl ?_
  refine bind_of (optional_of_map hstatus rfl fun s _ => s.ofJson?_name) ?_
  refine bind_of (required_of hkind rfl) ?_
  refine bind_of (Cause.ofFields?_kind hparts) ?_
  rfl

end Reason

/-! ## Parts of summaries -/

theorem SummaryCounter.ofJson?_toJson (c : SummaryCounter) : ofJson? c.toJson = some c := by
  have hmembers : c.toJson = ofMembers (present [
      ("variation", c.variation.map ofUInt64),
      ("version", c.version.map ofUInt64),
      ("value", some c.value),
      ("count", some (ofUInt64 c.count)),
      ("unknown", Json.ifTrue c.unknown)]) := by
    simp only [toJson, present_map, present_some, present_ifTrue, present_nil, List.append_assoc,
      List.cons_append, List.nil_append, List.append_nil]
  rw [hmembers]
  refine read_present (by simp) ?_
  rintro fields ⟨hvariation, hversion, hvalue, hcount, hunknown⟩
  -- the mark of an unknown flag is written only if it is set
  refine bind_of rfl ?_
  refine bind_of (optional_of_map hvariation rfl fun i _ => uint64?_ofUInt64 i) ?_
  refine bind_of (optional_of_map hversion rfl fun n _ => uint64?_ofUInt64 n) ?_
  refine bind_of (required_of hvalue rfl) ?_
  refine bind_of (required_of hcount (uint64?_ofUInt64 _)) ?_
  refine bind_of (orDefault_ifTrue hunknown) ?_
  rfl

theorem FlagSummary.ofJson?_toJson (s : FlagSummary) : ofJson? s.toJson = some s := by
  refine read_ofMembers (by simp) ?_
  rintro fields ⟨hdefault, hkinds, hcounters⟩
  refine bind_of rfl ?_
  refine bind_of (orDefault_of hdefault rfl) ?_
  refine bind_of (required_of hkinds (Json.texts?_ofTexts _)) ?_
  refine bind_of (required_of hcounters (listOf?_map fun c _ => c.ofJson?_toJson)) ?_
  rfl

/-! ## Events -/

/-- The members of an evaluation. -/
theorem FeatureOutput.members_eq (e : FeatureOutput) : e.members = present [
    ("creationDate", some (dateJson e.creationDate)),
    ("key", some (.text e.key)),
    ("value", some e.value),
    ("contextKeys", e.contextKeys.map keysJson),
    ("context", e.context.map id),
    ("version", e.version.map ofUInt64),
    ("variation", e.variation.map ofUInt64),
    ("default", e.default.map id),
    ("reason", e.reason.map Reason.toJson),
    ("prereqOf", e.prereqOf.map .text),
    ("samplingRatio", e.samplingRatio.map ofUInt32)] := by
  simp only [members, present_map, present_some, present_nil, List.append_assoc, List.cons_append,
    List.nil_append, List.append_nil]

/-- Data that is null is written as null, and data that is not there is left out. -/
theorem CustomOutput.members_eq (e : CustomOutput) : e.members = present [
    ("creationDate", some (dateJson e.creationDate)),
    ("key", some (.text e.key)),
    ("contextKeys", some (keysJson e.contextKeys)),
    ("data", e.data.map id),
    ("metricValue", e.metricValue.map Json.ofFloat),
    ("samplingRatio", e.samplingRatio.map ofUInt32)] := by
  simp only [members, present_map, present_some, present_nil, List.append_assoc, List.cons_append,
    List.nil_append, List.append_nil]

theorem MigrationOutput.members_eq (e : MigrationOutput) : e.members = present [
    ("creationDate", some (dateJson e.creationDate)),
    ("contextKeys", some (keysJson e.contextKeys)),
    ("operation", some e.operation.toJson),
    ("evaluation", some e.evaluation),
    ("measurements", some (.list e.measurements)),
    ("samplingRatio", e.samplingRatio.map ofUInt32)] := by
  simp only [members, present_map, present_some, present_nil, List.cons_append, List.nil_append,
    List.append_nil]

/-- The evaluation that is read: null in place of a context or default is lost. -/
def FeatureOutput.withoutNulls (e : FeatureOutput) : FeatureOutput :=
  { e with context := Json.nonNull e.context, default := Json.nonNull e.default }

/-- The event that is read: null data are lost. -/
def CustomOutput.withoutNulls (e : CustomOutput) : CustomOutput :=
  { e with data := Json.nonNull e.data }

/-- All members are read as they were written, but a null context or default is read as none. -/
theorem FeatureOutput.ofJson?_members {e : FeatureOutput} (hdate : e.creationDate.IsWhole) :
    ofJson? (ofMembers e.members) = some e.withoutNulls := by
  rw [members_eq]
  refine read_present (by simp) ?_
  rintro fields ⟨hcreationDate, hkey, hvalue, hcontextKeys, hcontext, hversion, hvariation,
    hdefault, hreason, hprereqOf, hratio⟩
  refine bind_of rfl ?_
  refine bind_of (required_of hcreationDate (date?_dateJson hdate)) ?_
  refine bind_of (required_of hkey rfl) ?_
  refine bind_of (optional_of_map hcontextKeys rfl fun keys _ => keys?_keysJson keys) ?_
  refine bind_of (optional_any? hcontext) ?_
  refine bind_of (optional_of_map hversion rfl fun n _ => uint64?_ofUInt64 n) ?_
  refine bind_of (optional_of_map hvariation rfl fun i _ => uint64?_ofUInt64 i) ?_
  refine bind_of (required_of hvalue rfl) ?_
  -- the default is any JSON: a null is read as none
  refine bind_of (optional_any? hdefault) ?_
  refine bind_of (optional_of_map hreason rfl fun r _ => r.ofJson?_toJson) ?_
  refine bind_of (optional_of_map hprereqOf rfl fun _ _ => rfl) ?_
  refine bind_of (optional_of_map hratio rfl fun n _ => uint32?_ofUInt32 n) ?_
  rfl

theorem CustomOutput.ofJson?_members {e : CustomOutput} (hdate : e.creationDate.IsWhole)
    (hmetric : ∀ x, e.metricValue = some x → x.isFinite = true) :
    ofJson? (ofMembers e.members) = some e.withoutNulls := by
  rw [members_eq]
  refine read_present (by simp) ?_
  rintro fields ⟨hcreationDate, hkey, hcontextKeys, hdata, hmetricValue, hratio⟩
  refine bind_of rfl ?_
  refine bind_of (required_of hcreationDate (date?_dateJson hdate)) ?_
  refine bind_of (required_of hkey rfl) ?_
  refine bind_of (required_of hcontextKeys (keys?_keysJson _)) ?_
  refine bind_of (optional_any? hdata) ?_
  refine bind_of (optional_of_map hmetricValue rfl fun x hx =>
    Json.float?_ofFloat (hmetric x hx)) ?_
  refine bind_of (optional_of_map hratio rfl fun n _ => uint32?_ofUInt32 n) ?_
  rfl

theorem MigrationOutput.ofJson?_members {e : MigrationOutput} (hdate : e.creationDate.IsWhole) :
    ofJson? (ofMembers e.members) = some e := by
  rw [members_eq]
  refine read_present (by simp) ?_
  rintro fields ⟨hcreationDate, hcontextKeys, hoperation, hevaluation, hmeasurements, hratio⟩
  refine bind_of rfl ?_
  refine bind_of (required_of hcreationDate (date?_dateJson hdate)) ?_
  refine bind_of (required_of hcontextKeys (keys?_keysJson _)) ?_
  refine bind_of (required_of hoperation e.operation.ofJson?_toJson) ?_
  refine bind_of (required_of hevaluation rfl) ?_
  refine bind_of (required_of hmeasurements rfl) ?_
  refine bind_of (optional_of_map hratio rfl fun n _ => uint32?_ofUInt32 n) ?_
  rfl

theorem SummaryOutput.ofJson?_members {e : SummaryOutput} (hstart : e.startDate.IsWhole)
    (hend : e.endDate.IsWhole) : ofJson? (ofMembers e.members) = some e := by
  refine read_ofMembers (by simp [members]) ?_
  rintro fields ⟨hstartDate, hendDate, hfeatures⟩
  refine bind_of rfl ?_
  refine bind_of (required_of hstartDate (date?_dateJson hstart)) ?_
  refine bind_of (required_of hendDate (date?_dateJson hend)) ?_
  refine bind_of (required_of hfeatures (entries?_mapValues FlagSummary.ofJson?_toJson)) ?_
  rfl

theorem datedContext?_ofMembers {t : Instant} {context : Json} (hdate : t.IsWhole) :
    datedContext? (ofMembers [("creationDate", dateJson t), ("context", context)]) =
      some (t, context) := by
  refine read_ofMembers (by simp) ?_
  rintro fields ⟨hcreationDate, hcontext⟩
  refine bind_of rfl ?_
  refine bind_of (required_of hcreationDate (date?_dateJson hdate)) ?_
  refine bind_of (required_of hcontext rfl) ?_
  rfl

namespace OutputEvent

/-! ## The kind of an event -/

/-- The member `kind` is free for the tag: no event has one of its own. -/
theorem get?_kind_members (e : OutputEvent) : get? "kind" e.members = none := by
  cases e with
  | index | identify | summary => rfl
  | feature e | debug e =>
    rw [members, FeatureOutput.members_eq]
    exact Json.get?_present_of_notMem (by simp)
  | custom e =>
    rw [members, CustomOutput.members_eq]
    exact Json.get?_present_of_notMem (by simp)
  | migration e =>
    rw [members, MigrationOutput.members_eq]
    exact Json.get?_present_of_notMem (by simp)

/-- The tag and the members are told apart again. -/
theorem tagged?_toJson (e : OutputEvent) :
    tagged? e.toJson = some (e.kind, ofMembers e.members) := by
  have hkind : get? "kind" (ofList (("kind", Document.text e.kind) :: e.members)) =
      some (.text e.kind) := by
    rw [Entries.get?_ofList_cons, Entries.get?_ofList_eq_none e.get?_kind_members, if_pos rfl,
      Option.none_or]
  show (get? "kind" (ofList _)).bind Document.text? >>= _ = _
  rw [hkind]
  -- no other member is called so: without the kind, the others are left
  exact congrArg (fun fields => some (e.kind, Document.object fields))
    (Entries.erase_ofList_cons _ e.get?_kind_members)

/-! ## Main result -/

/-- The dates of an event. -/
def dates : OutputEvent → List Instant
  | index creationDate _ | identify creationDate _ => [creationDate]
  | feature e | debug e => [e.creationDate]
  | custom e => [e.creationDate]
  | migration e => [e.creationDate]
  | summary e => [e.startDate, e.endDate]

def metricValue : OutputEvent → Option Float
  | custom e => e.metricValue
  | _ => none

/-- The members of an event that may be none and may be any value. -/
def freeMembers : OutputEvent → List (Option Json)
  | feature e | debug e => [e.context, e.default]
  | custom e => [e.data]
  | _ => []

def withoutNulls : OutputEvent → OutputEvent
  | feature e => feature e.withoutNulls
  | debug e => debug e.withoutNulls
  | custom e => custom e.withoutNulls
  | e => e

/-- What is exact about an event is written exactly: its dates are whole, and its metric value is
    finite. -/
structure IsExact (e : OutputEvent) : Prop where
  dates : ∀ t ∈ e.dates, t.IsWhole
  metric : ∀ x, e.metricValue = some x → x.isFinite = true

/-- **An event read back** is the event without its nulls. -/
theorem ofJson?_toJson {e : OutputEvent} (h : e.IsExact) :
    ofJson? e.toJson = some e.withoutNulls := by
  obtain ⟨hdates, hmetric⟩ := h
  refine bind_of e.tagged?_toJson ?_
  cases e with
  | index t context | identify t context =>
    have hdate : t.IsWhole := hdates t (List.mem_singleton_self _)
    exact congrArg (Option.map _) (datedContext?_ofMembers hdate)
  | feature e | debug e =>
    have hdate : e.creationDate.IsWhole := hdates _ (List.mem_singleton_self _)
    exact congrArg (Option.map _) (FeatureOutput.ofJson?_members hdate)
  | custom e =>
    have hdate : e.creationDate.IsWhole := hdates _ (List.mem_singleton_self _)
    exact congrArg (Option.map _) (CustomOutput.ofJson?_members hdate hmetric)
  | migration e =>
    have hdate : e.creationDate.IsWhole := hdates _ (List.mem_singleton_self _)
    exact congrArg (Option.map _) (MigrationOutput.ofJson?_members hdate)
  | summary e =>
    have hstart : e.startDate.IsWhole := hdates _ (List.mem_cons_self ..)
    have hend : e.endDate.IsWhole := hdates _ (List.mem_cons_of_mem _ (List.mem_singleton_self _))
    exact congrArg (Option.map _) (SummaryOutput.ofJson?_members hstart hend)

/-- Nothing is lost exactly where no null stands for a value. -/
theorem withoutNulls_eq_iff {e : OutputEvent} :
    e.withoutNulls = e ↔ some .null ∉ e.freeMembers := by
  cases e with
  | index | identify | migration | summary => simp [withoutNulls, freeMembers]
  | feature e | debug e =>
    obtain ⟨creationDate, key, contextKeys, context, version, variation, value,
        default, reason, prereqOf,
      ratio⟩ := e
    simp [withoutNulls, FeatureOutput.withoutNulls, freeMembers, Json.nonNull_eq_iff]
  | custom e =>
    obtain ⟨creationDate, key, contextKeys, data, metricValue, ratio⟩ := e
    simp [withoutNulls, CustomOutput.withoutNulls, freeMembers, Json.nonNull_eq_iff]

/-- What was read once has no null left to lose. -/
theorem null_notMem_withoutNulls (e : OutputEvent) : some .null ∉ e.withoutNulls.freeMembers := by
  cases e with
  | index | identify | migration | summary => simp [withoutNulls, freeMembers]
  | feature e | debug e =>
    simp [withoutNulls, FeatureOutput.withoutNulls, freeMembers, Json.null_ne_nonNull]
  | custom e =>
    simp [withoutNulls, CustomOutput.withoutNulls, freeMembers, Json.null_ne_nonNull]

/-- Dates and metric values stay as exact as they were. -/
theorem IsExact.withoutNulls {e : OutputEvent} (h : e.IsExact) : e.withoutNulls.IsExact := by
  cases e <;> exact ⟨h.dates, h.metric⟩

/-- **Events are read back.**  What is written of an event with whole dates and a finite metric
    value is read, and as it was, but that null in place of a context, a default or data is lost.
    So the event is the same exactly if it holds no such null, and from then on nothing more is
    lost. -/
theorem toJson_roundTrip {e : OutputEvent} (h : e.IsExact) :
    ofJson? e.toJson = some e.withoutNulls ∧
    (ofJson? e.toJson = some e ↔ some .null ∉ e.freeMembers) ∧
    ofJson? e.withoutNulls.toJson = some e.withoutNulls := by
  have hread := ofJson?_toJson h
  refine ⟨hread, ?_, ?_⟩
  · rw [hread, Option.some_inj, withoutNulls_eq_iff]
  · rw [ofJson?_toJson h.withoutNulls, withoutNulls_eq_iff.2 e.null_notMem_withoutNulls]

/-- An evaluation by a rule that asked about a big segment; null is what it gave. -/
def ruledFeature : OutputEvent := .feature {
  creationDate := 1000
  key := "flag"
  contextKeys := some [("org", "o1"), ("user", "u1")]
  context := none
  version := some 11
  variation := some 1
  value := .null
  default := some (.list [.null])
  reason := some ⟨.ruleMatch 2 (some "rule") true, some .stale⟩
  prereqOf := none
  samplingRatio := some 1 }

/-- An event of the program's own, with the given data. -/
def purchase (data : Option Json) : OutputEvent := .custom {
  creationDate := 2000
  key := "bought"
  contextKeys := [("user", "u1")]
  data
  metricValue := some 9.5
  samplingRatio := none }

theorem isExact_purchase (data : Option Json) : (purchase data).IsExact where
  dates t ht := by
    have hwhole : Instant.IsWhole 2000 := ⟨⟨2, rfl⟩, by decide, by decide⟩
    obtain rfl := List.mem_singleton.1 ht
    exact hwhole
  metric x hx := by
    obtain rfl := Option.some.inj hx
    decide

theorem toJson_roundTrip_ruledFeature :
    (ruledFeature.IsExact ∧ ofJson? ruledFeature.toJson = some ruledFeature) ∧
    (purchase none).IsExact ∧ ofJson? (purchase none).toJson = some (purchase none) := by
  have hexact : ruledFeature.IsExact := by
    refine ⟨fun t ht => ?_, fun x hx => nomatch hx⟩
    obtain rfl := List.mem_singleton.1 ht
    exact ⟨⟨1, rfl⟩, by decide, by decide⟩
  have hnone := isExact_purchase none
  exact ⟨⟨hexact, (toJson_roundTrip hexact).2.1.2 (by decide)⟩,
    hnone, (toJson_roundTrip hnone).2.1.2 (by decide)⟩

/-- With null data, the event that is read has none. -/
theorem toJson_roundTrip_nullData :
    (purchase (some .null)).IsExact ∧
    ofJson? (purchase (some .null)).toJson ≠ some (purchase (some .null)) ∧
    ofJson? (purchase (some .null)).toJson = some (purchase none) := by
  have hexact := isExact_purchase (some .null)
  have hread : ofJson? (purchase (some .null)).toJson = some (purchase none) :=
    ofJson?_toJson hexact
  refine ⟨hexact, ?_, hread⟩
  rw [hread]
  decide

end OutputEvent

end FeatureFlags

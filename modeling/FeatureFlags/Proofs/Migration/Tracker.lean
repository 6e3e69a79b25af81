/-
  RECORDS OF OPERATIONS — what a tracker holds after any calls, and when it gives an event.

  Each call is about one `Matter`: the operation, one of the three things to be told about an
  origin, or consistency.  Of the calls about a matter the last one counts, and calls about other
  matters do not.

  1. **Calls** (`Call`, `Tracker.takeAll`).
  2. **The last thing told** (`latest?`) — of a matter, in a sequence of calls.
  3. **What trackers hold** (`takeAll_start`) — the last that was told of each matter, and nothing
     else.  One call is `take_holding`.
  4. **Calls that make sense** (`Sound`), and the faults of those that do not (`Refused`), in terms
     of which calls there are.
  5. **Building** — an event is built from `Sound` calls and only from those (`reports_of_takeAll`).
  6. **The order of calls** — calls about different matters can be exchanged
     (`holding_eq_of_matter`).
-/
import Mathlib.Data.List.Basic
import Mathlib.Data.List.Induction
import FeatureFlags.Migration.Tracker

namespace FeatureFlags.Migration

/-! ## Calls -/

/-- **What a program tells a tracker.** -/
inductive Call where
  | operation (operation : Operation)
  | invoked (origin : Origin)
  | error (origin : Origin)
  | latency (origin : Origin) (span : Span)
  /-- Whether both origins gave the same, and the draw that decides if that is checked. -/
  | consistency (drawn result : Bool)
deriving DecidableEq

/-- What a call is about. -/
inductive Matter where
  | operation
  | invoked (origin : Origin)
  | error (origin : Origin)
  | latency (origin : Origin)
  | consistency
deriving DecidableEq

/-- The draws that have consistency checked: all without a ratio or for a ratio of one, none for
    zero. -/
def Sampled (ratio : Option UInt32) (drawn : Bool) : Prop :=
  ratio = none ∨ ratio = some 1 ∨ (ratio ≠ some 0 ∧ drawn = true)

instance (ratio : Option UInt32) (drawn : Bool) : Decidable (Sampled ratio drawn) :=
  inferInstanceAs (Decidable (_ ∨ _))

namespace Call

def matter : Call → Matter
  | operation _ => .operation
  | invoked origin => .invoked origin
  | error origin => .error origin
  | latency origin _ => .latency origin
  | consistency _ _ => .consistency

/-! What calls tell about each matter. -/

def operation? : Call → Option Operation
  | .operation told => some told
  | _ => none

def invoked? (origin : Origin) : Call → Option Unit
  | invoked other => if other = origin then some () else none
  | _ => none

def error? (origin : Origin) : Call → Option Unit
  | error other => if other = origin then some () else none
  | _ => none

def latency? (origin : Origin) : Call → Option Span
  | latency other span => if other = origin then some span else none
  | _ => none

/-- The result of a check, if it is made. -/
def consistency? (ratio : Option UInt32) : Call → Option Bool
  | consistency drawn result => if Sampled ratio drawn then some result else none
  | _ => none

end Call

/-! ## The last thing told -/

section Latest

variable {α : Type} {told : Call → Option α} {calls : List Call} {call : Call}

/-- The last thing that calls tell. -/
def latest? (told : Call → Option α) (calls : List Call) : Option α :=
  (calls.filterMap told).getLast?

/-- **What the last call tells stands**, and else what the ones before it told. -/
theorem latest?_concat (told : Call → Option α) (calls : List Call) (call : Call) :
    latest? told (calls ++ [call]) = (told call).or (latest? told calls) := by
  rw [latest?, List.filterMap_append, List.getLast?_append]
  cases htold : told call <;> simp [htold, latest?]

/-- Something was told last exactly if it was told. -/
theorem isSome_latest?_iff : (latest? told calls).isSome ↔ ∃ call ∈ calls, (told call).isSome := by
  have hnone : latest? told calls = none ↔ ∀ call ∈ calls, told call = none := by
    rw [latest?, List.getLast?_eq_none_iff, List.filterMap_eq_nil_iff]
  rw [Option.isSome_iff_ne_none, Ne, hnone, not_forall]
  simp only [Classical.not_imp, Option.isSome_iff_ne_none, ne_eq]

/-- Calls that tell nothing can be left out. -/
theorem latest?_filter {keeps : Call → Bool} (h : ∀ call, (told call).isSome → keeps call = true) :
    latest? told (calls.filter keeps) = latest? told calls := by
  rw [latest?, latest?, List.filterMap_filter]
  refine congrArg List.getLast? (List.filterMap_congr fun call _ => ?_)
  cases htold : told call with
  | none => exact ite_self none
  | some a => exact if_pos (h call (htold ▸ rfl))

end Latest

/-! ## What trackers hold -/

section Holding

variable {α : Type}

/-- The last thing that calls tell about each origin. -/
def perOrigin (told : Origin → Call → Option α) (calls : List Call) : PerOrigin α :=
  ⟨latest? (told .old) calls, latest? (told .new) calls⟩

/-- Of each origin, the last that was told of it. -/
theorem get?_perOrigin (told : Origin → Call → Option α) (calls : List Call) (origin : Origin) :
    (perOrigin told calls).get? origin = latest? (told origin) calls := by
  cases origin <;> rfl

/-- The values of a record, with others in their place. -/
def PerOrigin.update (record : PerOrigin α) (value? : Origin → Option α) : PerOrigin α :=
  ⟨(value? .old).or record.old, (value? .new).or record.new⟩

/-- One more call changes the record of the origin it is about. -/
theorem perOrigin_concat (told : Origin → Call → Option α) (calls : List Call) (call : Call) :
    perOrigin told (calls ++ [call]) = (perOrigin told calls).update fun origin =>
      told origin call := by
  rw [perOrigin, latest?_concat, latest?_concat]
  rfl

namespace Tracker

/-- A tracker takes a call. -/
def take (t : Tracker) : Call → Tracker
  | .operation told => t.recordOperation told
  | .invoked origin => t.recordInvoked origin
  | .error origin => t.recordError origin
  | .latency origin span => t.recordLatency origin span
  | .consistency drawn result => t.recordConsistency drawn result

/-- **A tracker takes calls**, one after the other. -/
def takeAll (t : Tracker) (calls : List Call) : Tracker := calls.foldl take t

/-- The tracker that holds what calls tell. -/
def holding (t : Tracker) (calls : List Call) : Tracker :=
  { t with
    operation := latest? Call.operation? calls
    invoked := perOrigin Call.invoked? calls
    errors := perOrigin Call.error? calls
    latencies := perOrigin Call.latency? calls
    consistent := latest? (Call.consistency? t.checkRatio) calls }

/-- The program's draw: without a ratio always, with zero never. -/
theorem checksConsistency_iff (t : Tracker) (drawn : Bool) :
    t.checksConsistency drawn = true ↔ Sampled t.checkRatio drawn := by
  rw [checksConsistency, Sampled]
  cases t.checkRatio with
  | none => simp
  | some ratio =>
    by_cases hzero : ratio = 0
    · simp [hzero]
    · by_cases hone : ratio = 1 <;> simp [hzero, hone]

/-- After one more call, each matter has what the call tells of it, or what it had. -/
theorem holding_concat (t : Tracker) (calls : List Call) (call : Call) :
    t.holding (calls ++ [call]) =
      { t.holding calls with
        operation := call.operation?.or (latest? Call.operation? calls)
        invoked := (perOrigin Call.invoked? calls).update fun origin => call.invoked? origin
        errors := (perOrigin Call.error? calls).update fun origin => call.error? origin
        latencies := (perOrigin Call.latency? calls).update fun origin => call.latency? origin
        consistent :=
          (call.consistency? t.checkRatio).or
            (latest? (Call.consistency? t.checkRatio) calls) } := by
  simp only [holding, latest?_concat, perOrigin_concat]

/-- **One call**: of the matter it is about, what it tells takes the place of what was held. -/
theorem take_holding (t : Tracker) (calls : List Call) (call : Call) :
    (t.holding calls).take call = t.holding (calls ++ [call]) := by
  rw [holding_concat]
  cases call with
  | operation told => rfl
  | invoked origin => cases origin <;> rfl
  | error origin => cases origin <;> rfl
  | latency origin span => cases origin <;> rfl
  | consistency drawn result =>
    -- a result that the draw keeps out is not told, and what was held stays
    have htold : Call.consistency? t.checkRatio (.consistency drawn result) =
        if Sampled t.checkRatio drawn then some result else none := rfl
    rw [take, recordConsistency, htold]
    by_cases hsampled : Sampled t.checkRatio drawn
    · rw [if_pos ((checksConsistency_iff (t.holding calls) drawn).2 hsampled), if_pos hsampled]
      rfl
    · rw [if_neg fun h => hsampled ((checksConsistency_iff (t.holding calls) drawn).1 h),
        if_neg hsampled]
      rfl

/-- **What a tracker holds after any calls.** -/
theorem takeAll_start (context : Context) (evaluation : Evaluated)
    (checkRatio samplingRatio : Option UInt32) (calls : List Call) :
    (start context evaluation checkRatio samplingRatio).takeAll calls =
      (start context evaluation checkRatio samplingRatio).holding calls := by
  induction calls using List.reverseRecOn with
  | nil => rfl
  | append_singleton calls call ih =>
    rw [takeAll, List.foldl_append, List.foldl_cons, List.foldl_nil, ← takeAll, ih, take_holding]

end Tracker

end Holding

/-! ## Calls that make sense -/

/-- **Calls that make sense**: there is an operation, something ran, all that has a latency or an
    error ran, and both ran if consistency was checked. -/
structure Sound (ratio : Option UInt32) (calls : List Call) : Prop where
  operation : ∃ operation, .operation operation ∈ calls
  ran : ∃ origin, .invoked origin ∈ calls
  latency : ∀ origin span, .latency origin span ∈ calls → .invoked origin ∈ calls
  error : ∀ origin, .error origin ∈ calls → .invoked origin ∈ calls
  consistency : ∀ drawn result, .consistency drawn result ∈ calls → Sampled ratio drawn →
    ∀ origin, .invoked origin ∈ calls

/-- **What is wrong with calls that make no sense.**  Nothing here depends on the order of the
    origins: where something ran, at most one origin did not. -/
inductive Refused (ratio : Option UInt32) (calls : List Call) : Fault → Prop
  | noOperation : (∀ operation, .operation operation ∉ calls) → Refused ratio calls .noOperation
  | nothingInvoked : (∃ operation, .operation operation ∈ calls) →
    (∀ origin, .invoked origin ∉ calls) →
    Refused ratio calls .nothingInvoked
  | strayLatency {origin : Origin} {span : Span} : (∃ operation, .operation operation ∈ calls) →
    (∃ ran, .invoked ran ∈ calls) → .latency origin span ∈ calls → .invoked origin ∉ calls →
    Refused ratio calls (.strayLatency origin)
  | strayError {origin : Origin} : (∃ operation, .operation operation ∈ calls) →
    (∃ ran, .invoked ran ∈ calls) →
    (∀ origin span, .latency origin span ∈ calls → .invoked origin ∈ calls) →
    .error origin ∈ calls → .invoked origin ∉ calls → Refused ratio calls (.strayError origin)
  | strayConsistency {drawn result : Bool} {origin : Origin} :
    (∃ operation, .operation operation ∈ calls) →
    (∃ ran, .invoked ran ∈ calls) →
    (∀ origin span, .latency origin span ∈ calls → .invoked origin ∈ calls) →
    (∀ origin, .error origin ∈ calls → .invoked origin ∈ calls) →
    .consistency drawn result ∈ calls → Sampled ratio drawn → .invoked origin ∉ calls →
    Refused ratio calls .strayConsistency

/-- All calls make sense or have a fault. -/
theorem sound_or_refused (ratio : Option UInt32) (calls : List Call) :
    Sound ratio calls ∨ ∃ fault, Refused ratio calls fault := by
  -- in the order in which building checks: the first thing that is wrong is the fault
  by_cases hoperation : ∃ operation, .operation operation ∈ calls
  swap
  · exact .inr ⟨_, .noOperation fun operation hmem => hoperation ⟨operation, hmem⟩⟩
  by_cases hran : ∃ origin, .invoked origin ∈ calls
  swap
  · exact .inr ⟨_, .nothingInvoked hoperation fun origin hmem => hran ⟨origin, hmem⟩⟩
  by_cases hlatency : ∀ origin span, .latency origin span ∈ calls → .invoked origin ∈ calls
  swap
  · push Not at hlatency
    obtain ⟨origin, span, hmem, hnot⟩ := hlatency
    exact .inr ⟨_, .strayLatency hoperation hran hmem hnot⟩
  by_cases herror : ∀ origin, .error origin ∈ calls → .invoked origin ∈ calls
  swap
  · push Not at herror
    obtain ⟨origin, hmem, hnot⟩ := herror
    exact .inr ⟨_, .strayError hoperation hran hlatency hmem hnot⟩
  by_cases hconsistency : ∀ drawn result, .consistency drawn result ∈ calls → Sampled ratio drawn →
    ∀ origin, .invoked origin ∈ calls
  swap
  · push Not at hconsistency
    obtain ⟨drawn, result, hmem, hsampled, origin, hnot⟩ := hconsistency
    exact .inr ⟨_, .strayConsistency hoperation hran hlatency herror hmem hsampled hnot⟩
  exact .inl ⟨hoperation, hran, hlatency, herror, hconsistency⟩

/-! ## What is held, told by the calls there are -/

section Told

variable {call : Call} {calls : List Call} {origin : Origin}

/-- An operation is told by the call that names one, and by no other. -/
theorem Call.isSome_operation?_iff : call.operation?.isSome ↔ ∃ told, call = .operation told := by
  cases call <;> simp [operation?]

/-- That an origin was invoked is told by the call for that origin. -/
theorem Call.isSome_invoked?_iff : (call.invoked? origin).isSome ↔ call = .invoked origin := by
  cases call <;> simp [invoked?]

theorem Call.isSome_error?_iff : (call.error? origin).isSome ↔ call = .error origin := by
  cases call <;> simp [error?]

/-- How long an origin took is told by a call for that origin, with any span. -/
theorem Call.isSome_latency?_iff :
    (call.latency? origin).isSome ↔ ∃ span, call = .latency origin span := by
  cases call <;> simp [latency?]

/-- The same in terms of matters, where the span of a latency does not count. -/
theorem Call.isSome_error?_iff_matter :
    (call.error? origin).isSome ↔ call.matter = .error origin := by
  cases call <;> simp [error?, matter]

theorem Call.isSome_latency?_iff_matter :
    (call.latency? origin).isSome ↔ call.matter = .latency origin := by
  cases call <;> simp [latency?, matter]

/-- A result of the comparison is told only if the draw lets it through. -/
theorem Call.isSome_consistency?_iff {ratio : Option UInt32} : (call.consistency? ratio).isSome ↔
    ∃ drawn result, call = .consistency drawn result ∧ Sampled ratio drawn := by
  cases call <;> simp [consistency?]

namespace Tracker

variable (t : Tracker)

/-- A tracker holds an operation exactly if a call named one. -/
theorem isSome_operation_holding :
    (t.holding calls).operation.isSome ↔ ∃ told, .operation told ∈ calls := by
  simp only [holding, isSome_latest?_iff, Call.isSome_operation?_iff]
  exact ⟨fun ⟨_, hmem, told, h⟩ => ⟨told, h ▸ hmem⟩, fun ⟨told, hmem⟩ => ⟨_, hmem, told, rfl⟩⟩

theorem isSome_invoked_holding :
    ((t.holding calls).invoked.get? origin).isSome ↔ .invoked origin ∈ calls := by
  simp only [holding, get?_perOrigin, isSome_latest?_iff, Call.isSome_invoked?_iff, exists_eq_right]

theorem isSome_errors_holding :
    ((t.holding calls).errors.get? origin).isSome ↔ .error origin ∈ calls := by
  simp only [holding, get?_perOrigin, isSome_latest?_iff, Call.isSome_error?_iff, exists_eq_right]

/-- A latency is held without regard to whether the origin was invoked. -/
theorem isSome_latencies_holding :
    ((t.holding calls).latencies.get? origin).isSome ↔ ∃ span, .latency origin span ∈ calls := by
  simp only [holding, get?_perOrigin, isSome_latest?_iff, Call.isSome_latency?_iff]
  exact ⟨fun ⟨_, hmem, span, h⟩ => ⟨span, h ▸ hmem⟩, fun ⟨span, hmem⟩ => ⟨_, hmem, span, rfl⟩⟩

theorem isSome_consistent_holding : (t.holding calls).consistent.isSome ↔
    ∃ drawn result, .consistency drawn result ∈ calls ∧ Sampled t.checkRatio drawn := by
  simp only [holding, isSome_latest?_iff, Call.isSome_consistency?_iff]
  exact ⟨fun ⟨_, hmem, drawn, result, h, hsampled⟩ => ⟨drawn, result, h ▸ hmem, hsampled⟩,
    fun ⟨drawn, result, hmem, hsampled⟩ => ⟨_, hmem, drawn, result, rfl, hsampled⟩⟩

end Tracker

end Told

/-! ## Building -/

section Origins

variable {α : Type} {record : PerOrigin α}

/-- There are two origins, and the record has something of neither. -/
theorem PerOrigin.isEmpty_iff : record.isEmpty = true ↔ ∀ origin, record.get? origin = none := by
  rw [isEmpty, Bool.and_eq_true, Option.isNone_iff_eq_none, Option.isNone_iff_eq_none]
  refine ⟨fun h origin => ?_, fun h => ⟨h .old, h .new⟩⟩
  cases origin
  · exact h.1
  · exact h.2

theorem PerOrigin.isFull_iff : record.isFull = true ↔ ∀ origin, (record.get? origin).isSome := by
  rw [isFull, Bool.and_eq_true]
  refine ⟨fun h origin => ?_, fun h => ⟨h .old, h .new⟩⟩
  cases origin
  · exact h.1
  · exact h.2

namespace Tracker

variable {t : Tracker}

/-- A record strays if it has something of an origin that was not invoked. -/
theorem stray?_eq_none_iff :
    t.stray? record = none ↔ ∀ origin, (record.get? origin).isSome →
      (t.invoked.get? origin).isSome := by
  have hall : ∀ origin : Origin, origin ∈ [Origin.old, Origin.new] := by
    rintro (_ | _) <;> simp
  have hstray : ∀ origin, ¬ ((record.get? origin).isSome && (t.invoked.get? origin).isNone) = true ↔
      ((record.get? origin).isSome → (t.invoked.get? origin).isSome) := fun origin => by
    cases record.get? origin <;> cases t.invoked.get? origin <;> simp
  rw [stray?, List.find?_eq_none]
  exact ⟨fun h origin => (hstray origin).1 (h origin (hall origin)),
    fun h origin _ => (hstray origin).2 (h origin)⟩

/-- **Where something ran, at most one origin is stray**, in whatever order they are looked at. -/
theorem stray?_eq_some {ran origin : Origin} (hran : (t.invoked.get? ran).isSome)
    (hrecord : (record.get? origin).isSome) (hnot : t.invoked.get? origin = none) :
    t.stray? record = some origin := by
  cases hstray : t.stray? record with
  | none =>
    have hsome := stray?_eq_none_iff.1 hstray origin hrecord
    rw [hnot] at hsome
    cases hsome
  | some other =>
    have hother : t.invoked.get? other = none := by
      have hfound := List.find?_some hstray
      rw [Bool.and_eq_true, Option.isNone_iff_eq_none] at hfound
      exact hfound.2
    have hne : other ≠ ran := by
      rintro rfl
      rw [hother] at hran
      cases hran
    have hne' : origin ≠ ran := by
      rintro rfl
      rw [hnot] at hran
      cases hran
    -- there are two origins, and one of them was invoked: the stray one is the other
    cases ran <;> cases origin <;> cases other <;> first | rfl | contradiction

/-- What can be wrong where there is an operation and something ran: latencies are looked at first,
    then errors. -/
theorem fault?_of_ran {operation : Operation} {ran : Origin}
    (hoperation : t.operation = some operation) (hran : (t.invoked.get? ran).isSome) :
    t.fault? =
      ((t.stray? t.latencies).map .strayLatency).or (((t.stray? t.errors).map .strayError).or
      (if t.consistent.isSome && !t.invoked.isFull then some .strayConsistency else none)) := by
  have hsome : ¬ t.operation = none := by rw [hoperation]; exact nofun
  have hempty : ¬ t.invoked.isEmpty = true := fun hempty => by
    rw [PerOrigin.isEmpty_iff.1 hempty ran] at hran
    cases hran
  rw [fault?, if_neg hsome, if_neg hempty]
  cases t.stray? t.latencies <;> cases t.stray? t.errors <;> rfl

/-- The first fault that is found is the error, once there is an operation. -/
theorem build_of_fault? {operation : Operation} {fault : Fault}
    (hoperation : t.operation = some operation) (hfault : t.fault? = some fault)
    (now : Calendar.Instant) : t.build now = .error fault := by
  rw [build, hoperation, hfault]

end Tracker

end Origins

section Building

variable {t : Tracker} {calls : List Call} {fault : Fault}

namespace Tracker

/-- What is held of calls of which something ran. -/
theorem exists_ran (hoperation : ∃ told, .operation told ∈ calls)
    (hran : ∃ ran, .invoked ran ∈ calls) :
    ∃ operation ran, (t.holding calls).operation = some operation ∧
      ((t.holding calls).invoked.get? ran).isSome := by
  obtain ⟨operation, hoperation⟩ :=
    Option.isSome_iff_exists.1 ((isSome_operation_holding t).2 hoperation)
  obtain ⟨ran, hran⟩ := hran
  exact ⟨operation, ran, hoperation, (isSome_invoked_holding t).2 hran⟩

theorem get?_invoked_eq_none {origin : Origin} (h : .invoked origin ∉ calls) :
    (t.holding calls).invoked.get? origin = none := by
  rw [← Option.not_isSome_iff_eq_none, isSome_invoked_holding]
  exact h

/-- Latencies do not stray where each came with an invocation. -/
theorem stray?_latencies_eq_none
    (h : ∀ origin span, .latency origin span ∈ calls → .invoked origin ∈ calls) :
    (t.holding calls).stray? (t.holding calls).latencies = none := by
  rw [stray?_eq_none_iff]
  intro origin hlatency
  obtain ⟨span, hmem⟩ := (isSome_latencies_holding t).1 hlatency
  exact (isSome_invoked_holding t).2 (h origin span hmem)

/-- Errors do not stray where each came with an invocation. -/
theorem stray?_errors_eq_none (h : ∀ origin, .error origin ∈ calls → .invoked origin ∈ calls) :
    (t.holding calls).stray? (t.holding calls).errors = none := by
  rw [stray?_eq_none_iff]
  intro origin herror
  exact (isSome_invoked_holding t).2 (h origin ((isSome_errors_holding t).1 herror))

/-- **Calls that make no sense give no event**, but the fault that is wrong with them. -/
theorem build_of_refused (h : Refused t.checkRatio calls fault) (now : Calendar.Instant) :
    (t.holding calls).build now = .error fault := by
  cases h with
  | noOperation hnone =>
    -- the operation is asked for first
    have hoperation : (t.holding calls).operation = none := by
      rw [← Option.not_isSome_iff_eq_none, isSome_operation_holding]
      exact fun ⟨told, hmem⟩ => hnone told hmem
    rw [build, hoperation]
  | nothingInvoked hoperation hnone =>
    obtain ⟨operation, hoperation⟩ :=
      Option.isSome_iff_exists.1 ((isSome_operation_holding t).2 hoperation)
    have hempty : (t.holding calls).invoked.isEmpty = true :=
      PerOrigin.isEmpty_iff.2 fun origin => get?_invoked_eq_none (hnone origin)
    refine build_of_fault? hoperation ?_ now
    rw [fault?, hoperation, if_neg nofun, if_pos hempty]
  | strayLatency hoperation hran hmem hnot =>
    -- from here on an origin was invoked, so that the one that strays is the other
    obtain ⟨operation, ran, hoperation, hran⟩ := exists_ran hoperation hran
    refine build_of_fault? hoperation ?_ now
    rw [fault?_of_ran hoperation hran,
      stray?_eq_some hran ((isSome_latencies_holding t).2 ⟨_, hmem⟩) (get?_invoked_eq_none hnot)]
    rfl
  | strayError hoperation hran hlatency hmem hnot =>
    obtain ⟨operation, ran, hoperation, hran⟩ := exists_ran hoperation hran
    refine build_of_fault? hoperation ?_ now
    rw [fault?_of_ran hoperation hran, stray?_latencies_eq_none hlatency,
      stray?_eq_some hran ((isSome_errors_holding t).2 hmem) (get?_invoked_eq_none hnot)]
    rfl
  | strayConsistency hoperation hran hlatency herror hmem hsampled hnot =>
    obtain ⟨operation, ran, hoperation, hran⟩ := exists_ran hoperation hran
    have hconsistent : (t.holding calls).consistent.isSome :=
      (isSome_consistent_holding t).2 ⟨_, _, hmem, hsampled⟩
    have hfull : (t.holding calls).invoked.isFull = false := by
      rw [← Bool.not_eq_true, PerOrigin.isFull_iff]
      exact fun h => hnot ((isSome_invoked_holding t).1 (h _))
    refine build_of_fault? hoperation ?_ now
    rw [fault?_of_ran hoperation hran, stray?_latencies_eq_none hlatency,
      stray?_errors_eq_none herror, hconsistent, hfull]
    rfl

end Tracker

/-- Whether calls told a matter of one origin or the other. -/
def tellsOf (matter : Origin → Matter) (calls : List Call) : Bool :=
  calls.any fun call => call.matter = matter .old || call.matter = matter .new

/-- What calls measured, in the order of events.  Latencies and errors are there if calls told them,
    and list the last that was told of each origin; so is consistency, if it was checked. -/
def measured (ratio : Option UInt32) (calls : List Call) : List Measurement :=
  [.invoked (perOrigin Call.invoked? calls)] ++
  (latest? (Call.consistency? ratio) calls).toList.map (.consistent · (ratio.getD 1)) ++
  (if tellsOf .latency calls then [.latency ((perOrigin Call.latency? calls).map Span.milliseconds)]
    else []) ++
  (if tellsOf .error calls then [.error (perOrigin Call.error? calls)] else [])

/-- **An event that tells what calls told a tracker**: the last operation, and what was measured. -/
structure Tells (t : Tracker) (calls : List Call) (now : Calendar.Instant)
    (event : MigrationEvent) : Prop where
  creationDate : event.creationDate = now
  context : event.context = t.context
  operation : latest? Call.operation? calls = some event.operation
  evaluation : event.evaluation = t.evaluation
  measurements : event.measurements = measured t.checkRatio calls
  samplingRatio : event.samplingRatio = t.samplingRatio

/-- Nothing is held of what no call was about. -/
theorem isEmpty_perOrigin {α : Type} {told : Origin → Call → Option α} {matter : Origin → Matter}
    (h : ∀ origin call, (told origin call).isSome ↔ call.matter = matter origin) :
    (perOrigin told calls).isEmpty = !tellsOf matter calls := by
  have hnone : ∀ origin, latest? (told origin) calls = none ↔
      ∀ call ∈ calls, call.matter ≠ matter origin := by
    intro origin
    rw [← Option.not_isSome_iff_eq_none, isSome_latest?_iff]
    simp only [h, not_exists, not_and, ne_eq]
  rw [Bool.eq_iff_iff, PerOrigin.isEmpty_iff, Bool.not_eq_true', tellsOf, List.any_eq_false]
  simp only [get?_perOrigin, hnone, Bool.or_eq_true, decide_eq_true_eq, not_or]
  exact ⟨fun hall call hmem => ⟨hall .old call hmem, hall .new call hmem⟩,
    fun hall origin call hmem => by
    cases origin
    · exact (hall call hmem).1
    · exact (hall call hmem).2⟩

/-- The measurements of an event are what the calls measured. -/
theorem Tracker.measurements_holding :
    (t.holding calls).measurements = measured t.checkRatio calls := by
  have hlatency : (t.holding calls).latencies.isEmpty = !tellsOf .latency calls :=
    isEmpty_perOrigin fun _ _ => Call.isSome_latency?_iff_matter
  have herror : (t.holding calls).errors.isEmpty = !tellsOf .error calls :=
    isEmpty_perOrigin fun _ _ => Call.isSome_error?_iff_matter
  have hconsistent : (t.holding calls).consistent =
      latest? (Call.consistency? t.checkRatio) calls := rfl
  rw [measurements, measured, hconsistent, hlatency, herror]
  cases latest? (Call.consistency? t.checkRatio) calls <;> cases tellsOf .latency calls <;>
    cases tellsOf .error calls <;> rfl

/-- **Calls that make sense give an event** that tells them. -/
theorem Tracker.build_of_sound (h : Sound t.checkRatio calls) (now : Calendar.Instant) :
    ∃ event, (t.holding calls).build now = .ok event ∧ Tells t calls now event := by
  obtain ⟨operation, ran, hoperation, hran⟩ := exists_ran h.operation h.ran
  -- a result needs both origins
  have hconsistent :
      ((t.holding calls).consistent.isSome && !(t.holding calls).invoked.isFull) = false := by
    cases hchecked : (t.holding calls).consistent.isSome with
    | false => rfl
    | true =>
      obtain ⟨drawn, result, hmem, hsampled⟩ := (isSome_consistent_holding t).1 hchecked
      have hfull : (t.holding calls).invoked.isFull = true := PerOrigin.isFull_iff.2 fun origin =>
        (isSome_invoked_holding t).2 (h.consistency drawn result hmem hsampled origin)
      rw [hfull]
      rfl
  have hfault : (t.holding calls).fault? = none := by
    rw [fault?_of_ran hoperation hran, stray?_latencies_eq_none h.latency,
      stray?_errors_eq_none h.error, hconsistent]
    rfl
  rw [build, hoperation, hfault]
  exact ⟨_, rfl, rfl, rfl, hoperation, rfl, measurements_holding, rfl⟩

/-- **What becomes of calls to a tracker**: an event just if they make sense, which tells them, and
    else the fault that is wrong with them. -/
structure Tracker.Reports (t : Tracker) (calls : List Call) (now : Calendar.Instant) : Prop where
  succeeds : (∃ event, (t.takeAll calls).build now = .ok event) ↔ Sound t.checkRatio calls
  tells : ∀ event, (t.takeAll calls).build now = .ok event → Tells t calls now event
  fails : ∀ fault, (t.takeAll calls).build now = .error fault ↔ Refused t.checkRatio calls fault

/-- **Building** from what the calls told: sound calls give their event, and every other sequence
    its fault. -/
theorem Tracker.reports_of_takeAll (h : t.takeAll calls = t.holding calls)
    (now : Calendar.Instant) :
    t.Reports calls now := by
  -- each of the two excludes the other, since a tracker gives an event or a fault
  rcases sound_or_refused t.checkRatio calls with hsound | ⟨fault, hrefused⟩
  · obtain ⟨event, hbuild, htells⟩ := build_of_sound hsound now
    rw [← h] at hbuild
    refine ⟨iff_of_true ⟨event, hbuild⟩ hsound, fun other hother => ?_,
      fun fault => iff_of_false ?_ fun hrefused => ?_⟩
    · rw [hbuild] at hother
      exact Except.ok.inj hother ▸ htells
    · rw [hbuild]
      exact nofun
    · have herror := build_of_refused hrefused now
      rw [← h, hbuild] at herror
      cases herror
  · have hbuild := build_of_refused hrefused now
    rw [← h] at hbuild
    have hnone : ∀ event, (t.takeAll calls).build now ≠ .ok event := fun event hevent => by
      rw [hbuild] at hevent
      cases hevent
    refine ⟨iff_of_false (fun ⟨event, hevent⟩ => hnone event hevent) fun hsound => ?_,
      fun event hevent => absurd hevent (hnone event), fun other =>
        ⟨fun hother => ?_, fun hother => ?_⟩⟩
    · obtain ⟨event, hevent, -⟩ := build_of_sound hsound now
      exact hnone event (h ▸ hevent)
    · rw [hbuild] at hother
      exact Except.error.inj hother ▸ hrefused
    · rw [h]
      exact build_of_refused hother now

end Building

/-! ## The order of calls -/

section Order

variable {calls calls' : List Call}
  (h : ∀ matter, calls.filter (·.matter = matter) = calls'.filter (·.matter = matter))
include h

/-- Where the calls about a matter are the same, so is the last thing told of it. -/
theorem latest?_eq_of_matter {α : Type} {told : Call → Option α} (matter : Matter)
    (htold : ∀ call, (told call).isSome → call.matter = matter) :
    latest? told calls = latest? told calls' := by
  have hkeeps : ∀ call, (told call).isSome → decide (call.matter = matter) = true :=
    fun call hcall => decide_eq_true (htold call hcall)
  rw [← latest?_filter hkeeps, h, latest?_filter hkeeps]

/-- Of one matter the calls stand in the same order in both sequences, so the last one is the
    same. -/
theorem perOrigin_eq_of_matter {α : Type} {told : Origin → Call → Option α}
    (matter : Origin → Matter)
    (htold : ∀ origin call, (told origin call).isSome → call.matter = matter origin) :
    perOrigin told calls = perOrigin told calls' := by
  rw [perOrigin, latest?_eq_of_matter h _ (htold .old), latest?_eq_of_matter h _ (htold .new)]
  rfl

/-- **Calls about different matters can be exchanged.** -/
theorem Tracker.holding_eq_of_matter (t : Tracker) : t.holding calls = t.holding calls' := by
  -- each part of the tracker is about one matter, whose calls stand in one order
  have hoperation : latest? Call.operation? calls = latest? Call.operation? calls' :=
    latest?_eq_of_matter h .operation fun call hcall => by
      obtain ⟨told, rfl⟩ := Call.isSome_operation?_iff.1 hcall
      rfl
  have hconsistent : latest? (Call.consistency? t.checkRatio) calls =
      latest? (Call.consistency? t.checkRatio) calls' :=
    latest?_eq_of_matter h .consistency fun call hcall => by
      obtain ⟨drawn, result, rfl, -⟩ := Call.isSome_consistency?_iff.1 hcall
      rfl
  have hinvoked : perOrigin Call.invoked? calls = perOrigin Call.invoked? calls' :=
    perOrigin_eq_of_matter h .invoked fun origin call hcall => by
      rw [Call.isSome_invoked?_iff.1 hcall]
      rfl
  have herrors : perOrigin Call.error? calls = perOrigin Call.error? calls' :=
    perOrigin_eq_of_matter h .error fun _ _ => Call.isSome_error?_iff_matter.1
  have hlatencies : perOrigin Call.latency? calls = perOrigin Call.latency? calls' :=
    perOrigin_eq_of_matter h .latency fun _ _ => Call.isSome_latency?_iff_matter.1
  rw [holding, hoperation, hconsistent, hinvoked, herrors, hlatencies]
  rfl

end Order

end FeatureFlags.Migration

/-
  REASONS — why an evaluation gave the value it gave.

  1. **Faults** — evaluation never fails; what goes wrong with data or context is a `Fault`.
  2. **Reasons** — a `Cause`, and how the store of big segments did if it was consulted.
  3. **Details** — a value with the variation it came from and the reason.  A detail without value
     stands for the caller's default.
-/
import FeatureFlags.Flag.Basic

namespace FeatureFlags

/-- What can go wrong in an evaluation. -/
inductive Fault where
  /-- The store has no such flag. -/
  | flagNotFound
  /-- The context is missing or invalid. -/
  | userNotSpecified
  /-- The client is offline, or its store has no data yet. -/
  | clientNotReady
  /-- The flag data is inconsistent. -/
  | malformedFlag
  /-- The value is not of the type that the caller wants. -/
  | wrongType
  | exception
deriving DecidableEq, Repr

/-- How a query to the store of big segments went. -/
inductive BigSegmentsStatus where
  | healthy
  | stale
  | storeError
  | notConfigured
deriving DecidableEq, Repr

namespace BigSegmentsStatus

/-- The severity of a status. -/
def severity : BigSegmentsStatus → Nat
  | healthy => 0
  | stale => 1
  | storeError => 2
  | notConfigured => 3

/-- The more severe of two. -/
def worse (a b : BigSegmentsStatus) : BigSegmentsStatus :=
  if a.severity ≤ b.severity then b else a

/-- Add one more status to the worst so far. -/
def merge (worst : Option BigSegmentsStatus) (status : BigSegmentsStatus) : BigSegmentsStatus :=
  match worst with
  | none => status
  | some w => w.worse status

theorem severity_worse (a b : BigSegmentsStatus) :
    (a.worse b).severity = max a.severity b.severity := by
  cases a <;> cases b <;> decide

end BigSegmentsStatus

namespace Reason

/-- What decided an evaluation. -/
inductive Cause where
  | off
  /-- No target and no rule matched. -/
  | fallthrough (inExperiment : Bool)
  | targetMatch
  | ruleMatch (ruleIndex : UInt64) (ruleId : Option String) (inExperiment : Bool)
  /-- A prerequisite was off or gave another variation than it should. -/
  | prerequisiteFailed (key : String)
  | error (fault : Fault)
deriving DecidableEq, Repr

end Reason

/-- **A reason.** -/
structure Reason where
  cause : Reason.Cause
  /-- The worst status of the big segments that were consulted; none if none was. -/
  bigSegments : Option BigSegmentsStatus
deriving DecidableEq, Repr

namespace Reason

/-- A reason in which no big segment took part. -/
def ofCause (cause : Cause) : Reason := ⟨cause, none⟩

def ofFault (fault : Fault) : Reason := ofCause (.error fault)

/-- Whether the value belongs to an experiment. -/
def inExperiment (r : Reason) : Bool :=
  match r.cause with
  | .fallthrough b => b
  | .ruleMatch _ _ b => b
  | _ => false

def fault? (r : Reason) : Option Fault :=
  match r.cause with
  | .error fault => some fault
  | _ => none

def isError (r : Reason) : Bool := r.fault?.isSome

end Reason

/-- **The outcome of an evaluation.** -/
structure Detail (α : Type) where
  value : Option α
  index : Option VariationIndex
  reason : Reason
deriving DecidableEq

namespace Detail

variable {α β : Type}

def ofFault (fault : Fault) : Detail α := ⟨none, none, .ofFault fault⟩

/-- Change the value. -/
def map (f : α → β) (d : Detail α) : Detail β := ⟨d.value.map f, d.index, d.reason⟩

/-- Put a default in the place of a missing value. -/
def withDefault (d : Detail α) (default : α) : Detail α :=
  { d with value := some (d.value.getD default) }

/-- Convert the value.  A value that cannot be converted is of the wrong type. -/
def convert (f : α → Option β) (d : Detail α) : Detail β :=
  match d.value with
  | none => ⟨none, d.index, d.reason⟩
  | some a =>
    match f a with
    | some b => ⟨some b, d.index, d.reason⟩
    | none => ofFault .wrongType

end Detail

end FeatureFlags

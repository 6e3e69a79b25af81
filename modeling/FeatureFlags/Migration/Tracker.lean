/-
  TRACKERS — what a program records about one operation of a migration.

  A tracker knows the evaluation that decided the stage and collects what happens.  Building the
  event checks that the record makes sense: an operation, something that ran, and nothing measured
  about an implementation that did not run.
-/
import FeatureFlags.Event.Basic

namespace FeatureFlags.Migration

/-- A span of time: whole seconds, and the nanoseconds of a part of one. -/
structure Span where
  seconds : UInt64
  nanoseconds : Fin 1000000000
deriving DecidableEq

namespace Span

def ofNanoseconds (n : UInt64) : Span := ⟨n / 1000000000, Fin.ofNat 1000000000 n.toNat⟩

/-- A span in milliseconds: the seconds and the part of one are added up first. -/
def milliseconds (s : Span) : Float :=
  (s.seconds.toFloat + (UInt64.ofNat s.nanoseconds.val).toFloat / 1000000000.0) * 1000.0

end Span

/-- The record of an operation. -/
structure Tracker where
  context : Context
  evaluation : Evaluated
  /-- Check consistency for one out of so many operations; for all of them without a ratio. -/
  checkRatio : Option UInt32
  samplingRatio : Option UInt32
  operation : Option Operation
  invoked : PerOrigin Unit
  errors : PerOrigin Unit
  latencies : PerOrigin Span
  consistent : Option Bool
deriving DecidableEq

namespace Tracker

/-- An empty record. -/
def start (context : Context) (evaluation : Evaluated) (checkRatio samplingRatio : Option UInt32) :
    Tracker where
  context := context
  evaluation := evaluation
  checkRatio := checkRatio
  samplingRatio := samplingRatio
  operation := none
  invoked := .empty
  errors := .empty
  latencies := .empty
  consistent := none

def stage (t : Tracker) : Stage := t.evaluation.value

/-! ## Recording -/

def recordOperation (t : Tracker) (operation : Operation) : Tracker :=
  { t with operation := some operation }

def recordInvoked (t : Tracker) (origin : Origin) : Tracker :=
  { t with invoked := t.invoked.set origin () }

def recordError (t : Tracker) (origin : Origin) : Tracker :=
  { t with errors := t.errors.set origin () }

def recordLatency (t : Tracker) (origin : Origin) (span : Span) : Tracker :=
  { t with latencies := t.latencies.set origin span }

/-- Whether consistency is checked.  For a ratio above one the draw decides. -/
def checksConsistency (t : Tracker) (drawn : Bool) : Bool :=
  match t.checkRatio with
  | none => true
  | some ratio => if ratio = 0 then false else if ratio = 1 then true else drawn

/-- Record the outcome of a consistency check, if there is one. -/
def recordConsistency (t : Tracker) (drawn result : Bool) : Tracker :=
  if t.checksConsistency drawn then { t with consistent := some result } else t

/-! ## Building the event -/

/-- The first implementation that has a record and did not run. -/
def stray? {α : Type} (t : Tracker) (record : PerOrigin α) : Option Origin :=
  [Origin.old, Origin.new].find? fun origin =>
    (record.get? origin).isSome && (t.invoked.get? origin).isNone

/-- What is wrong with a record; none if it makes sense. -/
def fault? (t : Tracker) : Option Fault :=
  if t.operation = none then some .noOperation
  else if t.invoked.isEmpty then some .nothingInvoked
  else match t.stray? t.latencies, t.stray? t.errors with
    | some origin, _ => some (.strayLatency origin)
    | none, some origin => some (.strayError origin)
    | none, none =>
      if t.consistent.isSome && !t.invoked.isFull then some .strayConsistency else none

/-- What was measured, in the order in which events tell it. -/
def measurements (t : Tracker) : List Measurement :=
  [.invoked t.invoked] ++
  (match t.consistent with
    | none => []
    | some value => [.consistent value (t.checkRatio.getD 1)]) ++
  (if t.latencies.isEmpty then [] else [.latency (t.latencies.map Span.milliseconds)]) ++
  (if t.errors.isEmpty then [] else [.error t.errors])

/-- **The event of an operation.** -/
def build (t : Tracker) (now : Calendar.Instant) : Except Fault MigrationEvent :=
  match t.operation, t.fault? with
  | none, _ => .error .noOperation
  | some _, some fault => .error fault
  | some operation, none => .ok {
      creationDate := now
      context := t.context
      operation
      evaluation := t.evaluation
      measurements := t.measurements
      samplingRatio := t.samplingRatio }

end Tracker

end FeatureFlags.Migration

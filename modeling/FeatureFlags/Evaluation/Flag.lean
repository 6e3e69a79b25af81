/-
  EVALUATING FLAGS.

  A flag that is off serves its off variation.  A flag that is on asks, in this order:

  1. its **prerequisites**: each must be on and give the variation it should, else the off variation
     is served;
  2. its **targets**, which name contexts by key;
  3. its **rules**, of which the first that matches decides;
  4. its **fallthrough**.

  Prerequisites are flags and have prerequisites themselves.  A key that comes again on the way down
  is a fault, and so is a way down of more than `maxDepth` flags: this also ends evaluations of data
  in which flags stand under other keys than their own.
-/
import FeatureFlags.Evaluation.Segment

namespace FeatureFlags

/-- How many flags that are on may lead one to the next. -/
def maxDepth : Nat := 100

/-! ## Serving -/

namespace Flag

/-- Serve the variation of an index. -/
def serve (f : Flag) (index : VariationIndex) (cause : Reason.Cause) : Evaluation (Detail Json) :=
  match f.variation? index with
  | some value => pure ⟨some value, some index, Reason.ofCause cause⟩
  | none => Evaluation.stop .variationOutOfRange

/-- Serve the off variation, or nothing if there is none. -/
def serveOff (f : Flag) (cause : Reason.Cause) : Evaluation (Detail Json) :=
  match f.offVariation with
  | some index => f.serve index cause
  | none => pure ⟨none, none, Reason.ofCause cause⟩

end Flag

namespace Evaluator

/-! ## Rules -/

/-- Whether a context matches a rule, given how membership in a segment is decided. -/
def ruleMatches (context : Context) (isMember : String → Evaluation Bool) (r : FlagRule) :
    Evaluation Bool :=
  r.clauses.allM (clauseHolds context isMember)

/-- The first rule that matches, with its place. -/
def firstRule? (context : Context) (isMember : String → Evaluation Bool) :
    List (FlagRule × Nat) → Evaluation (Option (FlagRule × Nat))
  | [] => pure none
  | (r, i) :: rest => do
    if ← ruleMatches context isMember r then pure (some (r, i))
    else firstRule? context isMember rest

/-- What a flag serves once its prerequisites are met. -/
def serveOn (context : Context) (isMember : String → Evaluation Bool) (f : Flag) :
    Evaluation (Detail Json) := do
  match f.targeted? context with
  | some index => f.serve index .targetMatch
  | none =>
    match ← firstRule? context isMember f.rules.zipIdx with
    | some (r, i) =>
      let selection ← Evaluation.ofExcept (r.serving.select f context)
      f.serve selection.index (.ruleMatch (UInt64.ofNat i) r.id selection.inExperiment)
    | none =>
      let selection ← Evaluation.ofExcept (f.fallthrough.select f context)
      f.serve selection.index (.fallthrough selection.inExperiment)

/-! ## Prerequisites -/

/-- Report the evaluation of a prerequisite, if events are wanted. -/
def notePrerequisite (e : Evaluator) (context : Context) (f prerequisite : Flag)
    (d : Detail Json) : Evaluation Unit :=
  match e.factory with
  | none => pure ()
  | some factory =>
    Evaluation.noteEvent (factory.ofEvaluation prerequisite context d none (some f.key))

/-- Whether a detail of a prerequisite is as it should be. -/
def Prerequisite.metBy (p : Prerequisite) (prerequisite : Flag) (d : Detail Json) : Bool :=
  prerequisite.on && d.index = some p.variation

/-- The key of the first prerequisite that is not met, given how flags are evaluated.  `met` holds
    the keys of the flags on the way down. -/
def firstUnmet? (e : Evaluator) (context : Context) (check : Flag → Evaluation (Detail Json))
    (met : List String) (f : Flag) : List Prerequisite → Evaluation (Option String)
  | [] => pure none
  | p :: rest => do
    if p.key ∈ met then Evaluation.stop .prerequisiteCycle
    else match e.store.flag? p.key with
      | none => Evaluation.stop .prerequisiteMissing
      | some prerequisite =>
        let d ← check prerequisite
        e.notePrerequisite context f prerequisite d
        if Prerequisite.metBy p prerequisite d then e.firstUnmet? context check met f rest
        else pure (some p.key)

/-! ## Flags -/

/-- **Evaluate a flag** that stands below the flags of the keys `met`; `depth` more flags may follow
    one another. -/
def check (e : Evaluator) (context : Context) (depth : Nat) (met : List String) (f : Flag) :
    Evaluation (Detail Json) :=
  if !f.on then f.serveOff .off
  else match depth with
    | 0 => Evaluation.stop .prerequisiteDepth
    | depth + 1 => do
      match ← e.firstUnmet? context (e.check context depth (f.key :: met)) (f.key :: met) f
          f.prerequisites with
      | some key => f.serveOff (.prerequisiteFailed key)
      | none => serveOn context (e.inSegment context []) f

/-- What an evaluation ends with. -/
structure Outcome where
  detail : Detail Json
  /-- The events of prerequisites, those of nested ones included. -/
  prerequisiteEvents : List FeatureEvent
  cache : BigSegments.Cache
  calls : List BigSegments.Call
  log : List LogEntry

/-- The outcome of a run.  A fault is a reason like any other. -/
def Outcome.ofRun : Except Fault (Detail Json) × Evaluation.State → Outcome
  | (result, s) =>
    let (detail, log) := match result with
      | .ok d => (d, s.log)
      | .error fault => (Detail.ofFault fault, s.log ++ [LogEntry.evaluationFailed])
    { detail := { detail with reason := { detail.reason with bigSegments := s.status } }
      prerequisiteEvents := s.events
      cache := s.cache
      calls := s.calls
      log }

/-- **Evaluate a flag for a context.** -/
def evaluate (e : Evaluator) (cache : BigSegments.Cache) (f : Flag) (context : Context) :
    Outcome :=
  Outcome.ofRun ((e.check context maxDepth [] f).runFrom (.start cache))

end Evaluator

end FeatureFlags

/-
  EVALUATIONS — computations that read the store and may end in a fault.

  What an evaluation gathers on its way stays, whatever its end: memberships already looked up, the
  worst status of the big segments, the events of prerequisites, the calls to the outside store, and
  the log.
-/
import FeatureFlags.BigSegments.Lookup
import FeatureFlags.Event.Factory
import FeatureFlags.Log
import FeatureFlags.Store

namespace FeatureFlags

/-- What evaluations work with. -/
structure Evaluator where
  store : Store
  /-- The store of big segments, if there is one. -/
  bigSegments : Option BigSegments
  clock : BigSegments.Clock
  /-- How events of prerequisites are made; without it there are none. -/
  factory : Option EventFactory

namespace Evaluation

/-- What an evaluation gathers. -/
structure State where
  /-- What was found for the context keys looked up so far. -/
  memberships : Entries (Option BigSegments.Membership)
  status : Option BigSegmentsStatus
  /-- The events of prerequisites, in the order in which these were finished. -/
  events : List FeatureEvent
  cache : BigSegments.Cache
  calls : List BigSegments.Call
  log : List LogEntry

/-- The state in which an evaluation starts. -/
def State.start (cache : BigSegments.Cache) : State := ⟨[], none, [], cache, [], []⟩

end Evaluation

/-- **An evaluation.** -/
abbrev Evaluation := ExceptT Fault (StateM Evaluation.State)

namespace Evaluation

/-- Carry an evaluation out from a state. -/
def runFrom {α : Type} (x : Evaluation α) (s : State) : Except Fault α × State := x.run.run s

def note (entry : LogEntry) : Evaluation Unit :=
  modify fun s => { s with log := s.log ++ [entry] }

/-- End with a fault that the log explains. -/
def stop {α : Type} (entry : LogEntry) : Evaluation α := do
  note entry
  throw .malformedFlag

def ofExcept {α : Type} : Except Fault α → Evaluation α
  | .ok a => pure a
  | .error fault => throw fault

/-- Take one more status of big segments into account. -/
def noteStatus (status : BigSegmentsStatus) : Evaluation Unit :=
  modify fun s => { s with status := some (BigSegmentsStatus.merge s.status status) }

def noteEvent (event : FeatureEvent) : Evaluation Unit :=
  modify fun s => { s with events := s.events ++ [event] }

/-- What the log says about a call to the store of big segments. -/
def callEntries (call : BigSegments.Call) : List LogEntry :=
  match call.failure, call.request with
  | none, _ => []
  | some e, .membership _ => [.membershipQueryFailed e]
  | some e, .metadata => [.metadataQueryFailed e]

/-- Ask the store of big segments. -/
def ask {α : Type} (asking : BigSegments.Asking α) : Evaluation α := do
  let s ← get
  let (answer, session) := asking.run ⟨s.cache, []⟩
  set { s with
    cache := session.cache
    calls := s.calls ++ session.calls
    log := s.log ++ session.calls.flatMap callEntries }
  pure answer

end Evaluation

end FeatureFlags

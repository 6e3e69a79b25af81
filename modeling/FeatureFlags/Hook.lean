/-
  HOOKS — what a program runs around every evaluation.

  A hook has a stage BEFORE and a stage AFTER the evaluation.  What its first stage gives is handed
  to its second one, and to nobody else.  A stage may also end in an error or crash; that is logged,
  and the data of the hook are then empty.  An error is asked for its text once the stage is over;
  should it crash then, nothing catches that, and the evaluation ends there.

  1. **Hooks** — a `Hook ε` is how a program answers, with errors of a type `ε`; a stage may add
     hooks, for later evaluations.
  2. **Runs** — `Hook.runBefore` and `Hook.runAfter` run one stage of one hook.
  3. **Series** — all hooks of an evaluation: `beforeRuns` in their order, `afterRuns` in reverse,
     both as far as they are `reached`.
-/
import FeatureFlags.Context.Basic
import FeatureFlags.Evaluation.Reason
import FeatureFlags.Log

namespace FeatureFlags

namespace Hook

/-- The evaluation around which hooks run. -/
structure Series where
  flagKey : String
  context : Context
  default : Json
  /-- How the program asks for the flag. -/
  method : String
deriving DecidableEq

/-- What a hook hands from its first stage to its second one. -/
abbrev SeriesData := Entries Json

inductive Stage where
  | before
  | after
deriving DecidableEq, Repr

/-- The name of a stage in the log. -/
def Stage.name : Stage → String
  | before => "beforeEvaluation"
  | after => "afterEvaluation"

/-- How a stage ends.  An error is whatever the hook gives; a crash is caught. -/
inductive Outcome (ε : Type) where
  | given (data : SeriesData)
  | failed (error : ε)
  | crashed
deriving DecidableEq

section Outcomes

variable {ε : Type}

/-- What a stage gives: nothing unless it ends well. -/
def Outcome.data : Outcome ε → SeriesData
  | given data => data
  | failed _ | crashed => []

/-- What went wrong, where `tell` is the text of an error. -/
def Outcome.error? (tell : ε → Option String) : Outcome ε → Option String
  | given _ => none
  | failed error => tell error
  | crashed => some "hook panicked"

/-- Whether a crash gets out of a hook: an error crashes when it is asked for its text, since by
    then nothing catches it. -/
def Outcome.escapes (tell : ε → Option String) : Outcome ε → Bool
  | given _ | crashed => false
  | failed error => (tell error).isNone

end Outcomes

end Hook

/-- **A hook.**  Each stage ends in some way, and may add hooks. -/
structure Hook (ε : Type) where
  /-- The name; none if asking for it crashes. -/
  name : Option String
  before : Hook.Series → Hook.SeriesData → Hook.Outcome ε × List (Hook ε)
  after : Hook.Series → Hook.SeriesData → Detail Json → Hook.Outcome ε × List (Hook ε)

namespace Hook

variable {ε : Type}

/-- A hook that has a name and does nothing. -/
def passive (name : String) : Hook ε where
  name := some name
  before := fun _ data => (.given data, [])
  after := fun _ data _ => (.given data, [])

/-! ## One stage -/

/-- A stage of a hook as it was run. -/
structure Run (ε : Type) where
  series : Series
  /-- The place of the hook among all. -/
  place : Nat
  stage : Stage
  /-- What the stage was handed. -/
  received : SeriesData
  /-- What the evaluation gave, for the second stage. -/
  detail : Option (Detail Json)
  outcome : Outcome ε
  /-- The hooks that the stage added. -/
  added : List (Hook ε)

/-- Whether a crash gets out of a run. -/
def Run.escapes (tell : ε → Option String) (r : Run ε) : Bool := r.outcome.escapes tell

/-- What the log says about a stage that ended badly. -/
def failureEntries (tell : ε → Option String) (h : Hook ε) (stage : Stage) (o : Outcome ε) :
    List LogEntry :=
  match o.error? tell, h.name with
  | none, _ => []
  | some error, some name => [.hookFailed stage.name name error]
  | some error, none => [.hookNameFailed, .hookFailed stage.name "unknown hook" error]

/-- Run the first stage, on empty data. -/
def runBefore (series : Series) (h : Hook ε) (place : Nat) : Run ε where
  series := series
  place := place
  stage := .before
  received := []
  detail := none
  outcome := (h.before series []).1
  added := (h.before series []).2

/-- Run the second stage. -/
def runAfter (series : Series) (detail : Detail Json) (h : Hook ε) (place : Nat)
    (data : SeriesData) : Run ε where
  series := series
  place := place
  stage := .after
  received := data
  detail := some detail
  outcome := (h.after series data detail).1
  added := (h.after series data detail).2

/-! ## All hooks of an evaluation -/

/-- **The first stages**, in the order of the hooks. -/
def beforeRuns (series : Series) (hooks : List (Hook ε)) : List (Run ε) :=
  hooks.zipIdx.map fun (h, place) => h.runBefore series place

/-- **The second stages**, the last hook first.  `data` lists what is handed to them, in the order
    of the hooks. -/
def afterRuns (series : Series) (detail : Detail Json) (hooks : List (Hook ε))
    (data : List SeriesData) : List (Run ε) :=
  ((hooks.zipIdx.zip data).map fun ((h, place), data) =>
    h.runAfter series detail place data).reverse

/-- The runs that take place: a crash that gets out of one ends them. -/
def reached (tell : ε → Option String) : List (Run ε) → List (Run ε)
  | [] => []
  | r :: rest => if r.escapes tell then [r] else r :: reached tell rest

/-- What the log says about runs. -/
def runEntries (tell : ε → Option String) (hooks : List (Hook ε)) (runs : List (Run ε)) :
    List LogEntry :=
  runs.flatMap fun r =>
    match hooks[r.place]? with
    | some h => h.failureEntries tell r.stage r.outcome
    | none => []

/-- The hooks that runs add. -/
def addedBy (runs : List (Run ε)) : List (Hook ε) := runs.flatMap (·.added)

end Hook

end FeatureFlags

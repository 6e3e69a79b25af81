/-
  REQUESTS — a program asks a client for the value of a flag.

  1. **Answering** — a client that is offline or has no data gives the default; so does one that
     does not know the flag, and one whose value is not of the kind that the program expects.  The
     answer always has a value.
  2. **Recording** — the answer comes with the events that report it: those of prerequisites, then
     that of the flag itself.
  3. **Asking** — `ask` runs the hooks around the answer.  Hooks see the answer and do not change
     it.  `askAmong` also says what comes of hooks whose errors crash when they are asked for their
     text.
-/
import FeatureFlags.Client.Basic
import FeatureFlags.Evaluation.Flag

namespace FeatureFlags

namespace Client

/-- What a program asks for. -/
structure Request where
  key : String
  context : Context
  default : Json
  /-- Whether the reason is wanted. -/
  withReasons : Bool
  /-- How the program asks. -/
  method : String
  /-- Which values are of the kind that the program expects. -/
  expects : Json → Bool

/-- What a program is answered. -/
structure Answer where
  detail : Detail Json
  /-- The flag, if there is one. -/
  flag : Option Flag
  /-- The events that report the answer. -/
  events : List FeatureEvent
  /-- What is kept of the answers about big segments. -/
  cache : BigSegments.Cache
  calls : List BigSegments.Call
  log : List LogEntry

/-- The default, and why. -/
def defaultFor (r : Request) (fault : Fault) : Detail Json := ⟨some r.default, none, .ofFault fault⟩

/-- How events of a request are made. -/
def factoryFor (c : Client) (r : Request) : EventFactory := ⟨r.withReasons, c.now⟩

/-- The default in the place of a value that no variation gave. -/
def settled (r : Request) (d : Detail Json) : Detail Json :=
  match d.index with
  | some _ => d.withDefault r.default
  | none => { d with value := some r.default }

/-- Whether a detail holds a value of the expected kind. -/
def fits (r : Request) (d : Detail Json) : Bool := d.value.any r.expects

/-- The answer about a flag that exists. -/
def answerFlag (c : Client) (r : Request) (f : Flag) : Answer :=
  let factory := c.factoryFor r
  let outcome := (c.evaluator (some factory)).evaluate c.cache f r.context
  let evaluated := settled r outcome.detail
  let (detail, before, log) :=
    if fits r evaluated then (evaluated, outcome.prerequisiteEvents, outcome.log)
    else (defaultFor r .wrongType, [], outcome.log ++ [.wrongType])
  { detail
    flag := some f
    events := before ++ [factory.ofEvaluation f r.context detail (some r.default) none]
    cache := outcome.cache
    calls := outcome.calls
    log }

/-- **The answer to a request.** -/
def answer (c : Client) (r : Request) : Answer :=
  let unanswered (fault : Fault) (events : List FeatureEvent) (log : List LogEntry) : Answer :=
    { detail := defaultFor r fault, flag := none, events, cache := c.cache, calls := [], log }
  if c.offline then unanswered .clientNotReady [] []
  else if !c.store.initialized then unanswered .clientNotReady [] [.notInitialized]
  else match c.store.flag? r.key with
    | none =>
      unanswered .flagNotFound
        [(c.factoryFor r).ofUnknownFlag r.key r.context r.default] [.unknownFlag]
    | some f => c.answerFlag r f

/-- Take an answer in: keep what was learned, and send the events. -/
def record (c : Client) (a : Answer) : Client :=
  a.events.foldl (fun c e => c.send (.feature e))
    { c with cache := a.cache, calls := c.calls ++ a.calls, log := c.log ++ a.log }

/-- Take runs of hooks in. -/
def recordRuns (c : Client) (hooks : List (Hook String)) (runs : List (Hook.Run String)) : Client :=
  { c with
    hooks := c.hooks ++ Hook.addedBy runs
    log := c.log ++ Hook.runEntries some hooks runs
    hookRuns := c.hookRuns ++ runs }

/-- The evaluation as hooks are told about it. -/
def seriesFor (r : Request) : Hook.Series where
  flagKey := r.key
  context := r.context
  default := r.default
  method := r.method

/-- **Ask for a flag.**  Hooks that are added meanwhile take no part. -/
def ask (c : Client) (r : Request) : Answer × Client :=
  let hooks := c.hooks
  let series := seriesFor r
  let before := Hook.beforeRuns series hooks
  let c := c.recordRuns hooks before
  let a := c.answer r
  let c := c.record a
  let after := Hook.afterRuns series a.detail hooks (before.map (·.outcome.data))
  (a, c.recordRuns hooks after)

/-! ## Asking among hooks of any kind -/

/-- What comes of asking for a flag among hooks. -/
structure Attempt (ε : Type) where
  /-- The answer; none if a crash got out of a hook. -/
  answer : Option Answer
  client : Client
  /-- The first stages that were run. -/
  first : List (Hook.Run ε)
  /-- The second stages that were run. -/
  second : List (Hook.Run ε)
  /-- The hooks for later evaluations. -/
  hooks : List (Hook ε)

/-- **Ask for a flag among hooks with errors of any kind**, whose texts `tell` gives, or nothing
    where an error crashes when it is asked for its text.  Such a crash gets out of the evaluation,
    wherever that is.  Otherwise this is what `ask` does. -/
def askAmong {ε : Type} (tell : ε → Option String) (hooks : List (Hook ε)) (c : Client)
    (r : Request) : Attempt ε :=
  let series := seriesFor r
  let before := Hook.reached tell (Hook.beforeRuns series hooks)
  let c := { c with log := c.log ++ Hook.runEntries tell hooks before }
  let grown := hooks ++ Hook.addedBy before
  if before.any (·.escapes tell) then
    { answer := none, client := c, first := before, second := [], hooks := grown }
  else
    let a := c.answer r
    let c := c.record a
    let after := Hook.reached tell
      (Hook.afterRuns series a.detail hooks (before.map (·.outcome.data)))
    { answer := if after.any (·.escapes tell) then none else some a
      client := { c with log := c.log ++ Hook.runEntries tell hooks after }
      first := before
      second := after
      hooks := grown ++ Hook.addedBy after }

end Client

end FeatureFlags

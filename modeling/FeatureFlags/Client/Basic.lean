/-
  CLIENTS — what a program holds to ask for flags and to report events.

  A client joins a store of flags, an evaluator, hooks and an event processor.  It works at one
  moment: its clock moves only when the program waits.

  1. **State** — with the history of what was logged, asked of the store of big segments, and done
     by hooks.
  2. **Making a client** — an offline client needs no key and sends nothing.
  3. **Events** — everything a client reports goes through `send`.
-/
import FeatureFlags.Event.Factory
import FeatureFlags.Evaluation.State
import FeatureFlags.Hook
import FeatureFlags.Http.Sender
import FeatureFlags.Migration.Tracker
import FeatureFlags.Processor.Timeline

namespace FeatureFlags

open Calendar (Instant)

/-- **A client.** -/
structure Client where
  offline : Bool
  store : Store
  bigSegments : Option BigSegments
  /-- What is kept of the answers about big segments. -/
  cache : BigSegments.Cache
  /-- The hooks, whose errors are their texts. -/
  hooks : List (Hook String)
  /-- The event processor on its clock; none if no events are sent. -/
  events : Option Timeline
  /-- The time of day. -/
  now : Instant
  /-- A steady time in milliseconds. -/
  steady : Nat
  /-- How many flushes were asked for. -/
  flushes : Nat
  -- history
  log : List LogEntry
  /-- The calls to the store of big segments. -/
  calls : List BigSegments.Call
  hookRuns : List (Hook.Run String)

namespace Client

/-! ## Making a client -/

/-- What a client is made of. -/
structure Setup where
  config : Config
  store : Store
  bigSegments : Option BigSegments
  hooks : List (Hook String)
  /-- Whether events go to the events service of the configuration. -/
  overHttp : Bool
  /-- How whoever takes the events behaves. -/
  sender : SenderBehavior
  /-- The name under which diagnostics are sent. -/
  diagnosticId : String
  now : Instant
  steady : Nat

/-- How the event processor of a configuration works. -/
def processorSettings (c : Config) : Processor.Settings where
  capacity := c.eventsCapacity
  flushInterval := c.flushInterval
  contextKeysCapacity := c.contextKeysCapacity
  contextKeysFlushInterval := c.contextKeysFlushInterval
  diagnosticInterval := c.diagnosticRecordingInterval
  redaction := ⟨c.allAttributesPrivate, c.privateAttributes⟩
  closeTimeout := Config.seconds 5

/-- The records of a client that does not opt out of diagnostics. -/
def diagnosticsOf (s : Setup) : Option Diagnostics :=
  if s.config.diagnosticOptOut then none
  else some (.start s.diagnosticId s.config.sdkKey s.now s.config "memory")

/-- The event processor of a client.  The address of the events service must make sense if it is
    needed. -/
def eventsOf (s : Setup) : Except Failure (Option Timeline) :=
  let c := s.config
  let started : Timeline := .start (processorSettings c) (diagnosticsOf s) s.now s.sender
  if c.offline || !c.sendEvents then .ok none
  else if s.overHttp then
    (Http.Sender.ofUri c.eventsUri c.sdkKey c.sdk.userAgent).map fun _ => some started
  else .ok (some started)

/-- **Make a client.** -/
def create (s : Setup) : Except Failure Client :=
  if s.config.sdkKey = "" && !s.config.offline then .error .missingSdkKey
  else (eventsOf s).map fun events => {
    offline := s.config.offline
    store := s.store
    bigSegments := s.bigSegments
    cache := .ofSettings ((s.bigSegments.map (·.settings)).getD .standard)
    hooks := s.hooks
    events
    now := s.now
    steady := s.steady
    flushes := 0
    log := []
    calls := []
    hookRuns := [] }

/-! ## Looking at a client -/

/-- Whether there are data to evaluate flags from.  An offline client needs none. -/
def initialized (c : Client) : Bool := c.offline || c.store.initialized

def hasDiagnostics (c : Client) : Bool := c.events.any fun t => t.processor.diagnostics.isSome

/-- The payloads that were handed over. -/
def handed (c : Client) : List Payload := (c.events.map (·.processor.handed)).getD []

/-- The time that big segments are kept by. -/
def clock (c : Client) : BigSegments.Clock := ⟨.ofInt c.now.floorMilliseconds, c.steady⟩

/-- What evaluates the flags of a client. -/
def evaluator (c : Client) (factory : Option EventFactory) : Evaluator where
  store := c.store
  bigSegments := c.bigSegments
  clock := c.clock
  factory := factory

/-! ## Small steps -/

def note (c : Client) (entry : LogEntry) : Client := { c with log := c.log ++ [entry] }

/-- Do something to the event processor, if there is one. -/
def act (c : Client) (step : Timeline → Timeline) : Client :=
  match c.events with
  | none => c
  | some t =>
    let next := step t
    { c with
      events := some next
      log := c.log ++ next.processor.log.drop t.processor.log.length }

/-- Add a hook for later evaluations. -/
def addHook (c : Client) (h : Hook String) : Client := { c with hooks := c.hooks ++ [h] }

/-! ## Events -/

/-- **Report an event.** -/
def send (c : Client) (e : InputEvent) : Client := c.act fun t => t.act (·.send e)

/-- Report that a context exists. -/
def identify (c : Client) (context : Context) : Client :=
  c.send (.identify { creationDate := c.now, context, samplingRatio := none })

/-- Report an event of the program's own, with data and a number if it has them. -/
def track (c : Client) (context : Context) (key : String) (data : Option Json)
    (metricValue : Option Float) : Client :=
  c.send (.custom
    { creationDate := c.now, context, key, data, metricValue, samplingRatio := none })

/-- Report an operation of a migration.  A record that makes no sense is logged. -/
def trackMigration (c : Client) (t : Migration.Tracker) : Client :=
  match t.build c.now with
  | .ok event => c.send (.migration event)
  | .error fault => c.note (.migrationEventFailed (.invalidMigration fault))

/-- **Deliver all events now.** -/
def flush (c : Client) : Except Failure Unit × Client :=
  let next := { c.act fun t => t.flush c.flushes with flushes := c.flushes + 1 }
  match next.events with
  | none => (.ok (), next)
  | some t => ((t.reply? c.flushes).getD (.error .eventProcessorClosed), next)

/-- Deliver all events and send no more.  Flags can still be evaluated. -/
def close (c : Client) : Client := c.act Timeline.close

/-- Wait. -/
def sleep (c : Client) (duration : Nat) : Client := c.act fun t => t.sleep duration

/-- Record an attempt to open the stream of changes. -/
def recordStreamInit (c : Client) (attempt : Diagnostics.StreamInit) : Client :=
  c.act fun t => t.act (·.recordStreamInit attempt)

/-! ## Big segments -/

/-- **The status of the store of big segments**; none if there is no such store. -/
def bigSegmentsStatus (c : Client) : Option BigSegments.StoreStatus × Client :=
  match c.bigSegments with
  | none => (none, c)
  | some b =>
    let (status, session) := (BigSegments.currentStatus b c.clock).run ⟨c.cache, []⟩
    (some status, { c with
      cache := session.cache
      calls := c.calls ++ session.calls
      log := c.log ++ session.calls.flatMap Evaluation.callEntries })

end Client

end FeatureFlags

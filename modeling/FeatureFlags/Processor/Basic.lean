/-
  THE EVENT PROCESSOR — collects events and sends them in payloads.

  A program hands events to the processor through a bounded INBOX; what does not fit is dropped and
  counted.  The processor turns events into output events, which wait in a bounded QUEUE, and into a
  summary.  A flush takes queue and summary out as one payload, and a DELIVERY brings it to the
  sender while the processor goes on.

  1. **State** — everything that decides what happens next, and the history: which events were taken
     in, which output events were queued or dropped, which payloads were taken out and handed to the
     sender, and what was answered and logged.
  2. **Steps of the program** — `send`, `requestFlush`, `requestClose`, `release`.
  3. **Steps of the processor** — `receive` takes one message from the inbox; the three ticks flush,
     forget contexts and report statistics.
  4. **Steps of deliveries** — `begin` hands a payload to the sender, `finish` takes its answer.
     Deliveries may begin in any order, and be answered in any order.

  After an answer that fails for good the processor is shut down: it takes nothing in and hands
  nothing more to the sender.  Every run is a sequence of these steps, in any order.
-/
import FeatureFlags.Event.Delivery
import FeatureFlags.Log
import FeatureFlags.Processor.Outputs
import FeatureFlags.Recency

namespace FeatureFlags

open Calendar (Instant)

namespace Processor

/-- Settings of a processor.  Durations are in microseconds. -/
structure Settings where
  /-- How many output events may wait, and how many messages. -/
  capacity : Nat
  flushInterval : Nat
  /-- How many contexts are remembered as already announced. -/
  contextKeysCapacity : Nat
  contextKeysFlushInterval : Nat
  diagnosticInterval : Nat
  redaction : Redaction
  /-- How long closing may wait for the last flush. -/
  closeTimeout : Nat
deriving DecidableEq

/-- What a program tells the processor.  A flush has a number by which it is answered. -/
inductive Message where
  | event (event : InputEvent)
  | flush (id : Nat)
  | close
deriving DecidableEq

/-- What a delivery is for. -/
inductive Purpose where
  | flush (id : Nat)
  | scheduled
  | final
  | diagnostics
deriving DecidableEq, Repr

/-- A payload on its way. -/
structure Delivery where
  purpose : Purpose
  payload : Payload
deriving DecidableEq

inductive Phase where
  | running
  /-- The last payload is taken, deliveries are waited for. -/
  | finishing
  | stopped
deriving DecidableEq, Repr

end Processor

/-- **The state of an event processor.** -/
structure Processor where
  settings : Processor.Settings
  -- messages
  inbox : List Processor.Message
  closed : Bool
  /-- The program has let go of the processor. -/
  released : Bool
  phase : Processor.Phase
  -- events
  queue : List OutputEvent
  tally : Summary.Tally
  /-- The contexts met lately. -/
  met : Recency Unit
  -- counters
  dropped : UInt64
  deduplicated : UInt64
  lastBatch : UInt64
  diagnostics : Option Diagnostics
  -- deliveries
  shutDown : Bool
  serverTime : Option Instant
  /-- Deliveries that have not begun. -/
  pending : List Processor.Delivery
  /-- Deliveries that the sender has not answered. -/
  underway : List Processor.Delivery
  -- history
  /-- The events taken in. -/
  processed : List InputEvent
  /-- The output events that found room in the queue. -/
  queued : List OutputEvent
  /-- The output events that found the queue full. -/
  discarded : List OutputEvent
  /-- The payloads of events that flushes took out. -/
  taken : List (List OutputEvent)
  /-- The payloads handed to the sender, the first one first. -/
  handed : List Payload
  /-- The payloads that were not handed to the sender, since the processor was shut down. -/
  refused : List Payload
  /-- The answers to flushes. -/
  replies : List (Nat × Except Failure Unit)
  log : List LogEntry

namespace Processor

/-- A processor that has done nothing yet, but is about to send the first diagnostic event. -/
def start (settings : Settings) (diagnostics : Option Diagnostics) : Processor where
  settings := settings
  inbox := []
  closed := false
  released := false
  phase := .running
  queue := []
  tally := .empty
  met := .ofCapacity settings.contextKeysCapacity
  dropped := 0
  deduplicated := 0
  lastBatch := 0
  diagnostics := diagnostics
  shutDown := false
  serverTime := none
  pending := diagnostics.toList.map fun d => ⟨.diagnostics, .diagnostics d.initEvent⟩
  underway := []
  processed := []
  queued := []
  discarded := []
  taken := []
  handed := []
  refused := []
  replies := []
  log := []

/-! ## Small steps -/

def note (p : Processor) (entry : LogEntry) : Processor := { p with log := p.log ++ [entry] }

def reply (p : Processor) (id : Nat) (answer : Except Failure Unit) : Processor :=
  { p with replies := p.replies ++ [(id, answer)] }

/-- Count an event that does not fit.  Only the first one since the last report is logged. -/
def drop (p : Processor) : Processor :=
  let q := if p.dropped = 0 then p.note .queueFull else p
  { q with dropped := p.dropped + 1 }

/-- Add an output event to the queue, unless that is full. -/
def enqueue (p : Processor) (e : OutputEvent) : Processor :=
  if p.settings.capacity ≤ p.queue.length then { p.drop with discarded := p.discarded ++ [e] }
  else { p with queue := p.queue ++ [e], queued := p.queued ++ [e] }

/-- Whether a context was met lately. -/
def hasMet (p : Processor) (context : Context) : Bool :=
  (p.met.get? context.canonicalKey).isSome

/-- Whether an event would announce its context, had that not been met lately. -/
def isRepeat (p : Processor) : InputEvent → Bool
  | .feature e => p.hasMet e.context
  | .custom e => p.hasMet e.context
  | .identify _ | .migration _ => false

/-- Count an event and meet its context. -/
def record (p : Processor) (e : InputEvent) : Processor :=
  { p with
    tally := p.tally.addEvent e
    met := if e.meetsContext then p.met.put e.context.canonicalKey () else p.met
    deduplicated := p.deduplicated + if p.isRepeat e then 1 else 0
    processed := p.processed ++ [e] }

/-- **Take an event in.**  `drawn` is the outcome of the draw that sampling may ask for. -/
def process (p : Processor) (now : Instant) (drawn : Bool) (e : InputEvent) : Processor :=
  if p.shutDown then p
  else
    let outputs := e.outputs p.settings.redaction (!p.hasMet e.context)
      (e.isDebugged now p.serverTime) (isSampled drawn e.samplingRatio)
    outputs.foldl enqueue (p.record e)

/-- The payload that a flush takes: the queue, and the summary at its end. -/
def payload (p : Processor) : List OutputEvent :=
  p.queue ++ (p.tally.summary?.toList.map OutputEvent.summary)

/-- Queue and summary after a flush has taken them. -/
def emptied (p : Processor) : Processor :=
  { p with
    queue := []
    tally := .empty
    lastBatch := .ofNat p.payload.length
    taken := p.taken ++ [p.payload] }

/-- Flush: take a payload, if there is anything to send, and get its delivery ready. -/
def flush (p : Processor) (purpose : Purpose) : Processor :=
  if p.payload = [] then p
  else { p.emptied with pending := p.pending ++ [⟨purpose, .analytics p.payload⟩] }

/-! ## Steps of the program -/

/-- **Hand an event to the processor.**  It is dropped if the inbox is full, and ignored if the
    processor is closed or shut down. -/
def send (p : Processor) (e : InputEvent) : Processor :=
  if p.closed || p.shutDown then p
  else if max p.settings.capacity 1 ≤ p.inbox.length then p.drop
  else { p with inbox := p.inbox ++ [.event e] }

/-- **Ask for a flush.** -/
def requestFlush (p : Processor) (id : Nat) : Processor :=
  if p.shutDown then p.reply id (.error .invalidSdkKey)
  else if p.closed || p.phase = .stopped then p.reply id (.error .eventProcessorClosed)
  else { p with inbox := p.inbox ++ [.flush id] }

/-- **Ask for the end.** -/
def requestClose (p : Processor) : Processor :=
  if p.closed then p else { p with closed := true, inbox := p.inbox ++ [.close] }

/-- Wait no longer for the end. -/
def giveUp (p : Processor) : Processor := p.note .closeTimedOut

/-- Let go of the processor without closing it. -/
def release (p : Processor) : Processor := { p with released := true }

/-- Record an attempt to open the stream of changes. -/
def recordStreamInit (p : Processor) (attempt : Diagnostics.StreamInit) : Processor :=
  { p with diagnostics := p.diagnostics.map fun d => d.recordStreamInit attempt }

/-! ## Steps of the processor -/

/-- Begin the end: take the last payload, and wait for all deliveries. -/
def beginEnd (p : Processor) : Processor :=
  let p := { p with phase := .finishing }
  if p.shutDown then p else p.flush .final

/-- Answer a flush. -/
def flushFor (p : Processor) (id : Nat) : Processor :=
  if p.shutDown then p.reply id (.error .invalidSdkKey)
  else if p.payload = [] then p.reply id (.ok ())
  else p.flush (.flush id)

/-- **Take one message from the inbox.** -/
def receive (p : Processor) (now : Instant) (drawn : Bool) : Processor :=
  if p.phase ≠ .running then p
  else match p.inbox with
    | [] => p
    | .event e :: rest => { p with inbox := rest }.process now drawn e
    | .flush id :: rest => { p with inbox := rest }.flushFor id
    | .close :: rest => { p with inbox := rest }.beginEnd

/-- Whether a flush waits for its answer. -/
def awaitsFlush (p : Processor) : Bool :=
  (p.pending ++ p.underway).any fun d =>
    match d.purpose with
    | .flush _ => true
    | _ => false

/-- Whether nobody can send a message any more. -/
def isForsaken (p : Processor) : Bool := p.released && p.inbox = [] && !p.awaitsFlush

/-- End after the program has let go. -/
def endForsaken (p : Processor) : Processor :=
  if p.phase = .running && p.isForsaken then p.beginEnd else p

/-- The flush of every interval. -/
def flushTick (p : Processor) : Processor :=
  if p.phase ≠ .running || p.shutDown then p else p.flush .scheduled

/-- Forget which contexts were met. -/
def contextKeysTick (p : Processor) : Processor :=
  if p.phase ≠ .running then p else { p with met := p.met.clear }

/-- Report the statistics of the interval. -/
def statsTick (p : Processor) (now : Instant) : Processor :=
  match p.diagnostics with
  | none => p
  | some d =>
    if p.phase ≠ .running || p.shutDown then p
    else
      let (event, d) := d.statsEvent now p.dropped p.deduplicated p.lastBatch
      { p with
        dropped := 0
        deduplicated := 0
        diagnostics := some d
        pending := p.pending ++ [⟨.diagnostics, .diagnostics event⟩] }

/-- Whether all deliveries are done at the end. -/
def isDone (p : Processor) : Bool :=
  p.phase = .finishing && p.pending.isEmpty && p.underway.isEmpty

/-- Stop when all deliveries are done.  Flushes that come too late are told so. -/
def stop (p : Processor) : Processor :=
  if p.isDone then
    let late := p.inbox.filterMap fun m =>
      match m with
      | .flush id => some (id, Except.error Failure.eventProcessorClosed)
      | _ => none
    { p with phase := .stopped, inbox := [], replies := p.replies ++ late }
  else p

/-! ## Steps of deliveries -/

/-- Tell the outcome of a delivery to who waits for it. -/
def conclude (p : Processor) (purpose : Purpose) (outcome : Except Failure Unit) : Processor :=
  match purpose, outcome with
  | .flush id, outcome => p.reply id outcome
  | .scheduled, .error e => p.note (.scheduledFlushFailed e)
  | .final, .error e => p.note (.finalFlushFailed e)
  | _, _ => p

/-- **Begin the delivery** at a place of those that have not begun.  After the shutdown analytics
    are not handed to the sender any more. -/
def begin (p : Processor) (place : Nat) : Processor :=
  match p.pending[place]? with
  | none => p
  | some d =>
    let p := { p with pending := p.pending.eraseIdx place }
    if p.shutDown && d.payload.kind = .analytics then
      { p with refused := p.refused ++ [d.payload] }.conclude d.purpose (.error .invalidSdkKey)
    else { p with underway := p.underway ++ [d], handed := p.handed ++ [d.payload] }

/-- Learn from an answer what the server's time is, and whether anything more can be sent. -/
def learn (p : Processor) (r : DeliveryResult) : Processor :=
  match r.status with
  | .succeeded => { p with serverTime := r.serverTime.or p.serverTime }
  | .failed => p
  | .failedForGood => { p with shutDown := true }

/-- **Take the sender's answer** to the delivery at a place of those underway. -/
def finish (p : Processor) (place : Nat) (r : DeliveryResult) : Processor :=
  match p.underway[place]? with
  | none => p
  | some d =>
    let p := { p with underway := p.underway.eraseIdx place }
    match d.payload.kind with
    | .diagnostics => p
    | .analytics => (p.learn r).conclude d.purpose r.outcome

end Processor

end FeatureFlags

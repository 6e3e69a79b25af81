/-
  TIMELINES — a processor run on a clock.

  The clock stands still while anything can be done, and then moves on to the next moment at which a
  timer or a delivery is due.  Timers tick in whole milliseconds, deliveries take as long as the
  sender takes.

  1. **At one moment** — `ready?` does one thing that can be done now, `settle` all of them: answers
     of the sender first, then messages, then new deliveries.  Each thing done lowers `work`.
  2. **Over time** — `advance` moves the clock until a condition holds or a limit is reached.
-/
import FeatureFlags.Processor.Basic

namespace FeatureFlags

open Calendar (Instant)

/-- How a sender behaves: what it answers, and how long it takes in microseconds. -/
structure SenderBehavior where
  result : DeliveryResult
  delay : Nat
deriving DecidableEq

/-- A processor on a clock.  Times are microseconds on that clock. -/
structure Timeline where
  processor : Processor
  /-- The time of day, by which events are dated. -/
  wall : Instant
  now : Nat
  flushDue : Nat
  contextKeysDue : Nat
  statsDue : Nat
  sender : SenderBehavior
  /-- When the deliveries underway are answered, and how; in the order of these. -/
  answers : List (Nat × DeliveryResult)

namespace Timeline

/-- The length of an interval: a millisecond at least. -/
def period (interval : Nat) : Nat := max interval 1000

/-- The next whole millisecond. -/
def wholeMillisecond (time : Nat) : Nat := (time + 999) / 1000 * 1000

/-- A processor at the start of its clock. -/
def start (settings : Processor.Settings) (diagnostics : Option Diagnostics) (wall : Instant)
    (sender : SenderBehavior) : Timeline where
  processor := .start settings diagnostics
  wall := wall
  now := 0
  flushDue := period settings.flushInterval
  contextKeysDue := period settings.contextKeysFlushInterval
  statsDue := period settings.diagnosticInterval
  sender := sender
  answers := []

/-! ## At one moment -/

/-- Do the same to the processor. -/
def act (t : Timeline) (step : Processor → Processor) : Timeline :=
  { t with processor := step t.processor }

/-- When the deliveries handed over between two states are answered. -/
def handOver (t : Timeline) (before : Nat) : Timeline :=
  let more := t.processor.handed.length - before
  { t with answers := t.answers ++ List.replicate more (t.now + t.sender.delay, t.sender.result) }

/-- Do something to the processor that may hand payloads to the sender. -/
def actAndHand (t : Timeline) (step : Processor → Processor) : Timeline :=
  (t.act step).handOver t.processor.handed.length

/-- The place of the first answer that is due. -/
def dueAnswer? (t : Timeline) : Option (Nat × DeliveryResult) :=
  (t.answers.zipIdx.find? fun answer => decide (answer.1.1 ≤ t.now)).map fun answer =>
    (answer.2, answer.1.2)

/-- Take an answer of the sender. -/
def takeAnswer (t : Timeline) (place : Nat) (r : DeliveryResult) : Timeline :=
  { t.act (·.finish place r) with answers := t.answers.eraseIdx place }

/-- The place of the delivery that begins next: the last payload does not wait for its turn. -/
def nextPlace (t : Timeline) : Nat :=
  (t.processor.pending.findIdx? fun d => d.purpose = .final).getD 0

/-- Do one thing that can be done now; none if there is none. -/
def ready? (t : Timeline) : Option Timeline :=
  let p := t.processor
  match t.dueAnswer? with
  | some (place, r) => some (t.takeAnswer place r)
  | none =>
    if p.phase = .running && !p.inbox.isEmpty then
      some (t.actAndHand fun p => p.receive t.wall false)
    else if p.phase = .running && p.isForsaken then some (t.actAndHand Processor.endForsaken)
    else if !p.pending.isEmpty then some (t.actAndHand fun p => p.begin t.nextPlace)
    else if p.isDone then some (t.act Processor.stop)
    else none

/-- How much can be done at one moment, at most. -/
def work (t : Timeline) : Nat :=
  4 * t.processor.inbox.length + 3 * t.processor.pending.length + 2 * t.answers.length +
    match t.processor.phase with
    | .running => 5
    | .finishing => 1
    | .stopped => 0

/-- Do up to so many things that can be done now. -/
def settleWithin : Nat → Timeline → Timeline
  | 0, t => t
  | n + 1, t =>
    match t.ready? with
    | some next => settleWithin n next
    | none => t

/-- **Do everything that can be done now.** -/
def settle (t : Timeline) : Timeline := settleWithin t.work t

/-! ## Over time -/

/-- The earlier of two times, of which one may be missing. -/
def earlier (a : Option Nat) (b : Nat) : Option Nat := some (a.elim b (min b))

/-- The next moment at which something is due. -/
def nextDue? (t : Timeline) : Option Nat :=
  let answered := t.answers.foldl (fun due answer => earlier due answer.1) none
  if t.processor.phase = .running then
    [t.flushDue, t.contextKeysDue, t.statsDue].foldl
      (fun due timer => earlier due (wholeMillisecond timer)) answered
  else answered

/-- Let the timers tick that are due. -/
def tick (t : Timeline) : Timeline :=
  let s := t.processor.settings
  let isDue (timer : Nat) : Bool := t.processor.phase = .running && wholeMillisecond timer ≤ t.now
  let t := if isDue t.flushDue then
      { t.act Processor.flushTick with flushDue := t.flushDue + period s.flushInterval }
    else t
  let t := if isDue t.contextKeysDue then
      { t.act Processor.contextKeysTick with
        contextKeysDue := t.contextKeysDue + period s.contextKeysFlushInterval }
    else t
  if isDue t.statsDue then
    { t.act (·.statsTick t.wall) with statsDue := t.statsDue + period s.diagnosticInterval }
  else t

/-- Move the clock, at most so many times, until a condition holds or a limit is reached. -/
def advanceWithin (stop : Timeline → Bool) (limit : Nat) : Nat → Timeline → Timeline
  | 0, t => t.settle
  | n + 1, t =>
    let t := t.settle
    if stop t then t
    else match t.nextDue?.filter (· ≤ limit) with
      | some due => advanceWithin stop limit n ({ t with now := max t.now due }).tick
      | none => { t with now := max t.now limit }

/-- How often the clock can stop on its way to a limit, at most: for each of the three timers and
    the deliveries that two of them begin once in a millisecond, and for what is underway. -/
def stops (t : Timeline) (limit : Nat) : Nat := 5 * ((limit - t.now) / 1000 + 2) + t.work

/-- **Move the clock** until a condition holds or a limit is reached. -/
def advance (t : Timeline) (stop : Timeline → Bool) (limit : Nat) : Timeline :=
  advanceWithin stop limit (t.stops limit) t

/-- Wait. -/
def sleep (t : Timeline) (duration : Nat) : Timeline :=
  (t.advance (fun _ => false) (t.now + duration)).settle

/-- The answer to a flush. -/
def reply? (t : Timeline) (id : Nat) : Option (Except Failure Unit) :=
  (t.processor.replies.find? fun reply => reply.1 = id).map (·.2)

/-- The moment by which all deliveries underway are answered. -/
def horizon (t : Timeline) : Nat := t.answers.foldl (fun time answer => max time answer.1) t.now

/-- Wait for the answer to a flush. -/
def awaitReply (t : Timeline) (id : Nat) : Timeline :=
  let t := t.settle
  t.advance (fun t => (t.reply? id).isSome) t.horizon

/-- **Flush**, and wait for the answer. -/
def flush (t : Timeline) (id : Nat) : Timeline := (t.act (·.requestFlush id)).awaitReply id

/-- **Close**, and wait for the last deliveries, but not for too long. -/
def close (t : Timeline) : Timeline :=
  if t.processor.closed then t
  else
    let t := t.act Processor.requestClose
    let stopped (t : Timeline) : Bool := t.processor.phase = .stopped
    let timeout := t.processor.settings.closeTimeout
    let t := if timeout = 0 then t else t.advance stopped (t.now + timeout)
    if stopped t then t else t.act Processor.giveUp

end Timeline

end FeatureFlags

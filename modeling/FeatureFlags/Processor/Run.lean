/-
  RUNS OF THE EVENT PROCESSOR — whatever can happen to it, in any order.

  The program, the processor itself, its timers and its deliveries all move on their own.  A run is
  a list of `Action`s, one for each step that one of them takes; nothing is said about their order,
  so a law of all runs holds for every interleaving.  An action that cannot happen in a state (a
  message taken from an empty inbox, the answer to a delivery that never began) leaves that state as
  it is.
-/
import FeatureFlags.Processor.Basic

namespace FeatureFlags.Processor

open Calendar (Instant)

/-- **One thing that happens to a processor.** -/
inductive Action where
  -- the program
  | send (event : InputEvent)
  | requestFlush (id : Nat)
  | requestClose
  | giveUp
  | release
  | recordStreamInit (attempt : Diagnostics.StreamInit)
  -- the processor and its timers
  | receive (now : Instant) (drawn : Bool)
  | endForsaken
  | flushTick
  | contextKeysTick
  | statsTick (now : Instant)
  | stop
  -- deliveries
  | begin (place : Nat)
  | finish (place : Nat) (result : DeliveryResult)

/-- Do one thing to a processor. -/
def act (p : Processor) : Action → Processor
  | .send e => p.send e
  | .requestFlush id => p.requestFlush id
  | .requestClose => p.requestClose
  | .giveUp => p.giveUp
  | .release => p.release
  | .recordStreamInit attempt => p.recordStreamInit attempt
  | .receive now drawn => p.receive now drawn
  | .endForsaken => p.endForsaken
  | .flushTick => p.flushTick
  | .contextKeysTick => p.contextKeysTick
  | .statsTick now => p.statsTick now
  | .stop => p.stop
  | .begin place => p.begin place
  | .finish place result => p.finish place result

/-- **Do one thing after the other.** -/
def run (p : Processor) (actions : List Action) : Processor := actions.foldl act p

/-! ## Payloads of events -/

/-- The payloads of events that were handed to the sender, the first one first. -/
def handedEvents (p : Processor) : List (List OutputEvent) := p.handed.filterMap Payload.events?

/-- The payloads of events whose delivery has not begun. -/
def pendingEvents (p : Processor) : List (List OutputEvent) :=
  p.pending.filterMap fun d => d.payload.events?

/-- The payloads of events whose delivery began only after the shutdown. -/
def refusedEvents (p : Processor) : List (List OutputEvent) := p.refused.filterMap Payload.events?

/-! ## Runs in parts -/

@[simp] theorem run_nil (p : Processor) : p.run [] = p := rfl

@[simp] theorem run_cons (p : Processor) (a : Action) (actions : List Action) :
    p.run (a :: actions) = (p.act a).run actions := rfl

theorem run_append (p : Processor) (first second : List Action) :
    p.run (first ++ second) = (p.run first).run second := List.foldl_append

end FeatureFlags.Processor

/-
  DELIVERIES — how sending a payload of events ends.
-/
import FeatureFlags.Diagnostics
import FeatureFlags.Failure

namespace FeatureFlags

/-- What a payload is about. -/
inductive PayloadKind where
  | analytics
  | diagnostics
deriving DecidableEq, Repr

/-- What is sent to the events service at once. -/
inductive Payload where
  | analytics (events : List OutputEvent)
  | diagnostics (event : Diagnostics.Event)
deriving DecidableEq

namespace Payload

def kind : Payload → PayloadKind
  | analytics _ => .analytics
  | diagnostics _ => .diagnostics

/-- The events of a payload of events. -/
def events? : Payload → Option (List OutputEvent)
  | analytics events => some events
  | diagnostics _ => none

theorem events?_of_diagnostics {payload : Payload} (h : payload.kind = .diagnostics) :
    payload.events? = none := by
  cases payload with
  | analytics events => cases h
  | diagnostics event => rfl

/-- Write a payload. -/
def toJson : Payload → Json
  | analytics events => .list (events.map OutputEvent.toJson)
  | diagnostics event => event.toJson

end Payload

/-- How a delivery ended. -/
inductive DeliveryStatus where
  | succeeded
  /-- A later delivery may succeed. -/
  | failed
  /-- No later delivery can succeed. -/
  | failedForGood
deriving DecidableEq, Repr

/-- The end of a delivery. -/
structure DeliveryResult where
  status : DeliveryStatus
  failure : Option Failure
  /-- The time of the server, if it told. -/
  serverTime : Option Calendar.Instant
deriving DecidableEq

namespace DeliveryResult

def success (serverTime : Option Calendar.Instant) : DeliveryResult :=
  ⟨.succeeded, none, serverTime⟩

/-- What a delivery means to who waits for it. -/
def outcome (r : DeliveryResult) : Except Failure Unit :=
  match r.status with
  | .succeeded => .ok ()
  | .failed => .error (r.failure.getD (.eventDelivery "delivery failed"))
  | .failedForGood => .error (r.failure.getD .invalidSdkKey)

end DeliveryResult

end FeatureFlags

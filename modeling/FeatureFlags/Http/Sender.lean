/-
  SENDING EVENTS OVER HTTP.

  Analytics and diagnostics go to two places below the address of the events service.  A request
  that fails in a way that may pass is made once more.  Answers 401 and 403 mean that the key is not
  valid, and nothing more is sent; so do the other faults of the client that cannot pass.

  The network is a parameter: a `Transport` answers requests.
-/
import FeatureFlags.Calendar.MailDate
import FeatureFlags.Event.Delivery
import FeatureFlags.Http.Status
import FeatureFlags.Http.Url
import FeatureFlags.Log

namespace FeatureFlags.Http

/-- A request to the events service. -/
structure Request where
  url : Url
  authorization : String
  userAgent : String
  contentType : String
  /-- The version of the form of analytics. -/
  schema : Option String
  /-- The same for both attempts at one payload. -/
  payloadId : Option String
  body : Json
deriving DecidableEq

/-- The answer to a request. -/
inductive Reply where
  | answered (status : Nat) (date : Option String)
  /-- The connection failed. -/
  | unreachable
deriving DecidableEq, Repr

/-- Something that answers requests. -/
abbrev Transport (m : Type → Type) := Request → m Reply

/-- A sender for one events service. -/
structure Sender where
  analyticsUrl : Url
  diagnosticsUrl : Url
  sdkKey : String
  userAgent : String
deriving DecidableEq, Repr

namespace Sender

/-- An address without the slashes at its end. -/
def withoutSlashes (uri : String) : String :=
  String.ofList (uri.toList.reverse.dropWhile (· = '/')).reverse

/-- **A sender for the events service at an address.** -/
def ofUri (uri sdkKey userAgent : String) : Except Failure Sender :=
  let base := withoutSlashes uri
  match Url.ofText? (base ++ "/bulk"), Url.ofText? (base ++ "/diagnostic") with
  | some analyticsUrl, some diagnosticsUrl =>
    .ok { analyticsUrl, diagnosticsUrl, sdkKey, userAgent }
  | _, _ => .error .invalidBaseUrl

/-- Whether a text can be the value of a header. -/
def isHeaderValue (text : String) : Bool :=
  text.toList.all fun c => c = '\t' || (0x20 ≤ c.toNat && c.toNat ≠ 0x7f)

/-- The request for a payload. -/
def request (s : Sender) (payloadId : String) (kind : PayloadKind) (body : Json) : Request :=
  match kind with
  | .analytics => {
      url := s.analyticsUrl
      authorization := s.sdkKey
      userAgent := s.userAgent
      contentType := "application/json"
      schema := some "4"
      payloadId := some payloadId
      body }
  | .diagnostics => {
      url := s.diagnosticsUrl
      authorization := s.sdkKey
      userAgent := s.userAgent
      contentType := "application/json"
      schema := none
      payloadId := none
      body }

/-- What an answer means: the time of the server, or a failure that may pass or not, with what the
    log says. -/
inductive Verdict where
  | accepted (serverTime : Option Calendar.Instant)
  | passing (failure : Failure)
  | lasting (failure : Failure) (log : List LogEntry)

def judge : Reply → Verdict
  | .unreachable => .passing .network
  | .answered status date =>
    if isSuccess status then
      .accepted ((date.bind Calendar.mailDate?).map Calendar.Instant.ofMilliseconds)
    else if status = 401 || status = 403 then .lasting .unauthorized [.sdkKeyRejected]
    else
      let failure := Failure.eventDelivery ("received HTTP status " ++ statusText status)
      if isRecoverable status then .passing failure else .lasting failure []

/-- Make a request.  One with headers that cannot be written never gets out. -/
def attempt {m : Type → Type} [Monad m] (transport : Transport m) (r : Request) : m Verdict :=
  if isHeaderValue r.authorization && isHeaderValue r.userAgent then
    return judge (← transport r)
  else return .passing .network

/-- **Send a payload**, in two attempts at most. -/
def send {m : Type → Type} [Monad m] (transport : Transport m) (s : Sender) (payloadId : String)
    (kind : PayloadKind) (body : Json) : m (DeliveryResult × List LogEntry) := do
  let r := s.request payloadId kind body
  let giveUp (failure : Failure) (log : List LogEntry) : DeliveryResult × List LogEntry :=
    (⟨.failedForGood, some failure, none⟩, log ++ [.sendingDisabled failure])
  match ← attempt transport r with
  | .accepted serverTime => pure (.success serverTime, [])
  | .lasting failure log => pure (giveUp failure log)
  | .passing first =>
    let retried := [LogEntry.deliveryRetried first]
    match ← attempt transport r with
    | .accepted serverTime => pure (.success serverTime, retried)
    | .lasting failure log => pure (giveUp failure (retried ++ log))
    | .passing failure =>
      pure (⟨.failed, some failure, none⟩, retried ++ [.deliveryFailed failure])

end Sender

end FeatureFlags.Http

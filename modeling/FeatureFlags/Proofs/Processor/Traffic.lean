/-
  TRAFFIC — the messages, deliveries and answers of a processor.

  Beside its `Books`, which are about events, a processor has dealings with its callers and with the
  sender: requests come in through the inbox, deliveries are pending or underway, and flushes are
  answered.

  1. **Traffic** — the part of a state that these dealings change.
  2. **The crux (`turn_act`)** — `Turn p a` lists everything that an action `a` can do to the
     traffic of `p`, each time with all of what it does.  Here the actions are taken apart once
     more, for traffic.
  3. **One way** — what is closed, released or shut down stays so, and a processor that has left its
     running phase never runs again.
-/
import FeatureFlags.Processor.Run
import Mathlib.Data.List.Basic

namespace FeatureFlags.Processor

open Calendar (Instant)

/-! ## Traffic -/

/-- The event of a message, if it brings one. -/
def Message.event? : Message → Option InputEvent
  | event e => some e
  | flush _ | close => none

/-- The flush that a message asks for. -/
def Message.flush? : Message → Option Nat
  | flush id => some id
  | event _ | close => none

/-- The flush that waits for a delivery. -/
def Purpose.flush? : Purpose → Option Nat
  | flush id => some id
  | scheduled | final | diagnostics => none

/-- The events that wait, in order. -/
def eventsOf (messages : List Message) : List InputEvent := messages.filterMap Message.event?

/-- The message that an action puts into the inbox, if it is accepted. -/
def Action.message? : Action → Option Message
  | send e => some (.event e)
  | requestFlush id => some (.flush id)
  | requestClose => some .close
  | _ => none

/-- What is told to the flush that waits for a delivery. -/
def Purpose.answer (purpose : Purpose)
    (outcome : Except Failure Unit) : List (Nat × Except Failure Unit) :=
  purpose.flush?.toList.map fun id => (id, outcome)

/-- What is told at the end of a delivery.  Nobody waits for diagnostics. -/
def Delivery.answer (d : Delivery) (r : DeliveryResult) : List (Nat × Except Failure Unit) :=
  match d.payload.kind with
  | .analytics => d.purpose.answer r.outcome
  | .diagnostics => []

/-- Messages, deliveries and answers. -/
structure Traffic where
  closed : Bool
  released : Bool
  shutDown : Bool
  phase : Phase
  inbox : List Message
  processed : List InputEvent
  pending : List Delivery
  underway : List Delivery
  replies : List (Nat × Except Failure Unit)

/-- The traffic of a processor. -/
def traffic (p : Processor) : Traffic where
  closed := p.closed
  released := p.released
  shutDown := p.shutDown
  phase := p.phase
  inbox := p.inbox
  processed := p.processed
  pending := p.pending
  underway := p.underway
  replies := p.replies

/-- `p.Takes a m` — the action `a` takes the message `m` from the inbox of `p`. -/
def Takes (p : Processor) (a : Action) (m : Message) : Prop :=
  p.phase = .running ∧ p.inbox.head? = some m ∧ ∃ now drawn, a = .receive now drawn

/-- The delivery of what is left at the end. -/
def lastDelivery (p : Processor) : List Delivery :=
  if p.shutDown = true ∨ p.payload = [] then [] else [⟨.final, .analytics p.payload⟩]

/-- The answers to the flushes that come too late. -/
def lateAnswers (messages : List Message) : List (Nat × Except Failure Unit) :=
  messages.filterMap fun m => m.flush?.map fun id => (id, .error .eventProcessorClosed)

/-- **What an action can do to the traffic of a processor.** -/
inductive Turn (p : Processor) (a : Action) : Traffic → Prop where
  | rests : Turn p a p.traffic
  /-- A message is accepted. -/
  | joins (m : Message) (asked : a.message? = some m) (notClose : m ≠ .close)
      (isOpen : p.closed = false) (running : p.shutDown = false) :
      Turn p a { p.traffic with inbox := p.inbox ++ [m] }
  | closes (asked : a = .requestClose) (isOpen : p.closed = false) :
      Turn p a { p.traffic with closed := true, inbox := p.inbox ++ [.close] }
  | releases (asked : a = .release) : Turn p a { p.traffic with released := true }
  /-- A flush is answered as soon as it is asked for. -/
  | turnsAway (id : Nat) (asked : a = .requestFlush id) (failure : Failure)
      (reason : p.shutDown = true ∧ failure = .invalidSdkKey ∨
        (p.closed = true ∨ p.phase = .stopped) ∧ failure = .eventProcessorClosed) :
      Turn p a { p.traffic with replies := p.replies ++ [(id, .error failure)] }
  | takesIn (e : InputEvent) (rest : List Message) (next : p.inbox = .event e :: rest)
      (taken : p.Takes a (.event e)) (running : p.shutDown = false) :
      Turn p a { p.traffic with inbox := rest, processed := p.processed ++ [e] }
  | ignores (e : InputEvent) (rest : List Message) (next : p.inbox = .event e :: rest)
      (taken : p.Takes a (.event e)) (shut : p.shutDown = true) :
      Turn p a { p.traffic with inbox := rest }
  /-- A flush is answered as soon as it is received. -/
  | answers (id : Nat) (rest : List Message) (next : p.inbox = .flush id :: rest)
      (taken : p.Takes a (.flush id)) (answer : Except Failure Unit)
      (reason : p.shutDown = true ∧ answer = .error .invalidSdkKey ∨
        p.shutDown = false ∧ p.payload = [] ∧ answer = .ok ()) :
      Turn p a { p.traffic with inbox := rest, replies := p.replies ++ [(id, answer)] }
  /-- A flush takes its payload. -/
  | flushes (id : Nat) (rest : List Message) (next : p.inbox = .flush id :: rest)
      (taken : p.Takes a (.flush id)) (running : p.shutDown = false) (nonempty : p.payload ≠ []) :
      Turn p a { p.traffic with
        inbox := rest
        pending := p.pending ++ [⟨.flush id, .analytics p.payload⟩] }
  | ends (rest : List Message) (running : p.phase = .running)
      (reason : p.inbox = .close :: rest ∨ p.released = true ∧ p.inbox = [] ∧ rest = []) :
      Turn p a { p.traffic with
        phase := .finishing
        inbox := rest
        pending := p.pending ++ p.lastDelivery }
  /-- A payload is taken that nobody has asked for. -/
  | schedules (d : Delivery) (running : p.phase = .running)
      (purpose : d.purpose = .scheduled ∨ d.purpose = .diagnostics) :
      Turn p a { p.traffic with pending := p.pending ++ [d] }
  | begins {place : Nat} {d : Delivery} (here : a = .begin place)
      (waiting : p.pending[place]? = some d) :
      Turn p a { p.traffic with
        pending := p.pending.eraseIdx place
        underway := p.underway ++ [d] }
  | refuses {place : Nat} {d : Delivery} (here : a = .begin place)
      (waiting : p.pending[place]? = some d) (shut : p.shutDown = true)
      (analytics : d.payload.kind = .analytics) :
      Turn p a { p.traffic with
        pending := p.pending.eraseIdx place
        replies := p.replies ++ d.purpose.answer (.error .invalidSdkKey) }
  | finishes {place : Nat} {d : Delivery} {r : DeliveryResult} (here : a = .finish place r)
      (underway : p.underway[place]? = some d) (shutDown : Bool)
      (lasting : p.shutDown = true → shutDown = true) :
      Turn p a { p.traffic with
        shutDown := shutDown
        underway := p.underway.eraseIdx place
        replies := p.replies ++ d.answer r }
  | stops (here : a = .stop) (finishing : p.phase = .finishing) :
      Turn p a { p.traffic with
        phase := .stopped
        inbox := []
        replies := p.replies ++ lateAnswers p.inbox }

/-! ## Steps that leave the traffic alone -/

theorem traffic_drop (p : Processor) : p.drop.traffic = p.traffic := by
  unfold drop
  split <;> rfl

theorem traffic_enqueue (p : Processor) (e : OutputEvent) : (p.enqueue e).traffic = p.traffic := by
  unfold enqueue
  split
  · exact traffic_drop p
  · rfl

theorem traffic_foldl_enqueue (outputs : List OutputEvent) (p : Processor) :
    (outputs.foldl enqueue p).traffic = p.traffic := by
  induction outputs generalizing p with
  | nil => rfl
  | cons e rest ih => rw [List.foldl_cons, ih, traffic_enqueue]

/-! ## Receiving -/

/-- What is done with a message that was taken from the inbox. -/
def handle (p : Processor) (now : Instant) (drawn : Bool) : Message → Processor
  | .event e => p.process now drawn e
  | .flush id => p.flushFor id
  | .close => p.beginEnd

/-- A running processor takes the message at the head of the inbox and handles it. -/
theorem receive_cons {p : Processor} {m : Message} {rest : List Message}
    (hphase : p.phase = .running) (next : p.inbox = m :: rest) (now : Instant) (drawn : Bool) :
    p.receive now drawn = ({ p with inbox := rest } : Processor).handle now drawn m := by
  unfold receive
  rw [if_neg (fun h => h hphase), next]
  cases m <;> rfl

theorem receive_nil {p : Processor} (next : p.inbox = []) (now : Instant) (drawn : Bool) :
    p.receive now drawn = p := by
  unfold receive
  rw [next]
  exact ite_self p

theorem receive_idle {p : Processor} (hphase : p.phase ≠ .running) (now : Instant) (drawn : Bool) :
    p.receive now drawn = p := by
  unfold receive
  exact if_pos hphase

/-- **Taking an event in** adds it to the history; after the shutdown nothing happens. -/
theorem traffic_process (p : Processor) (now : Instant) (drawn : Bool) (e : InputEvent) :
    (p.process now drawn e).traffic =
      { p.traffic with processed := if p.shutDown then p.processed else p.processed ++ [e] } := by
  unfold process
  cases hshut : p.shutDown with
  | true => rfl
  | false =>
    simp only [Bool.false_eq_true, if_false]
    rw [traffic_foldl_enqueue]
    rfl

/-- **A flush** gets a delivery ready, if there is anything to deliver. -/
theorem traffic_flush (p : Processor) (purpose : Purpose) :
    (p.flush purpose).traffic = { p.traffic with
      pending :=
        p.pending ++ if p.payload = [] then [] else [⟨purpose, .analytics p.payload⟩] } := by
  unfold flush
  split
  · rw [List.append_nil]; rfl
  · rfl

/-- The end gets one last delivery ready and leaves the inbox as it is. -/
theorem traffic_beginEnd (p : Processor) :
    p.beginEnd.traffic =
      { p.traffic with phase := .finishing, pending := p.pending ++ p.lastDelivery } := by
  by_cases hshut : p.shutDown = true
  · have hlast : p.lastDelivery = [] := if_pos (.inl hshut)
    rw [beginEnd, if_pos hshut, hlast, List.append_nil]
    rfl
  · have hlast : p.lastDelivery =
        if p.payload = [] then [] else [⟨.final, .analytics p.payload⟩] := by
      simp [lastDelivery, hshut]
    rw [beginEnd, if_neg hshut, hlast]
    exact traffic_flush { p with phase := .finishing } .final

/-- The traffic after a message is taken from the inbox. -/
theorem turn_receive (p : Processor) (now : Instant) (drawn : Bool) :
    Turn p (.receive now drawn) (p.receive now drawn).traffic := by
  by_cases hphase : p.phase = .running
  · cases hinbox : p.inbox with
    | nil =>
      rw [receive_nil hinbox]
      exact .rests
    | cons message rest =>
      have htaken : p.Takes (.receive now drawn) message :=
        ⟨hphase, by rw [hinbox]; rfl, now, drawn, rfl⟩
      rw [receive_cons hphase hinbox]
      cases message with
      | event e =>
        show Turn p _ (({ p with inbox := rest } : Processor).process now drawn e).traffic
        rw [traffic_process]
        split
        · next hshut => exact .ignores e rest hinbox htaken hshut
        · next hshut => exact .takesIn e rest hinbox htaken (Bool.eq_false_iff.2 hshut)
      | flush id =>
        -- a flush is refused, answered for want of anything to send, or takes its payload
        show Turn p _ (({ p with inbox := rest } : Processor).flushFor id).traffic
        unfold flushFor
        split
        · next hshut => exact .answers id rest hinbox htaken _ (.inl ⟨hshut, rfl⟩)
        · next hshut =>
          have hopen : p.shutDown = false := Bool.eq_false_iff.2 hshut
          split
          · next hempty => exact .answers id rest hinbox htaken _ (.inr ⟨hopen, hempty, rfl⟩)
          · next hne =>
            rw [traffic_flush, if_neg hne]
            exact .flushes id rest hinbox htaken hopen hne
      | close =>
        show Turn p _ ({ p with inbox := rest } : Processor).beginEnd.traffic
        rw [traffic_beginEnd]
        exact .ends rest hphase (.inl hinbox)
  · rw [receive_idle hphase]
    exact .rests

/-! ## Deliveries -/

/-- What a delivery ended with is told to the flush that waits for it, if any. -/
theorem traffic_conclude (p : Processor) (purpose : Purpose) (outcome : Except Failure Unit) :
    (p.conclude purpose outcome).traffic =
      { p.traffic with replies := p.replies ++ purpose.answer outcome } := by
  rcases purpose with id | _ | _ | _
  · rfl
  · cases outcome <;> simp [conclude, traffic, note, Purpose.answer, Purpose.flush?]
  · cases outcome <;> simp [conclude, traffic, note, Purpose.answer, Purpose.flush?]
  · cases outcome <;> simp [conclude, traffic, Purpose.answer, Purpose.flush?]

/-- A delivery is moved from those that wait to those underway, unless a shutdown refuses it and
    answers its flush. -/
theorem turn_begin (p : Processor) (place : Nat) :
    Turn p (.begin place) (p.begin place).traffic := by
  unfold begin
  cases hwaiting : p.pending[place]? with
  | none => exact .rests
  | some d =>
    simp only
    split
    · next hrefused =>
      obtain ⟨hshut, hkind⟩ : p.shutDown = true ∧ d.payload.kind = .analytics := by
        simpa using hrefused
      rw [traffic_conclude]
      exact .refuses rfl hwaiting hshut hkind
    · exact .begins rfl hwaiting

/-- A delivery ends: its flush is answered, and a fatal answer shuts the processor down. -/
theorem turn_finish (p : Processor) (place : Nat) (r : DeliveryResult) :
    Turn p (.finish place r) (p.finish place r).traffic := by
  unfold finish
  cases hunderway : p.underway[place]? with
  | none => exact .rests
  | some d =>
    have hturn := fun shutDown lasting =>
      Turn.finishes (p := p) (r := r) rfl hunderway shutDown lasting
    unfold Delivery.answer at hturn
    cases hkind : d.payload.kind with
    | diagnostics =>
      -- nobody waits for diagnostics, and their outcome teaches nothing
      simp only [hkind, List.append_nil] at hturn ⊢
      exact hturn p.shutDown id
    | analytics =>
      simp only [hkind, traffic_conclude] at hturn ⊢
      unfold learn
      cases r.status with
      | succeeded => exact hturn p.shutDown id
      | failed => exact hturn p.shutDown id
      -- the one answer that shuts the processor down
      | failedForGood => exact hturn true fun _ => rfl

/-! ## All actions -/

theorem turn_requestFlush (p : Processor) (id : Nat) :
    Turn p (.requestFlush id) (p.requestFlush id).traffic := by
  unfold requestFlush
  split
  · next hshut => exact .turnsAway id rfl _ (.inl ⟨hshut, rfl⟩)
  · next hshut =>
    split
    · next hclosed =>
      have hreason : p.closed = true ∨ p.phase = .stopped := by simpa using hclosed
      exact .turnsAway id rfl _ (.inr ⟨hreason, rfl⟩)
    · next hopen =>
      obtain ⟨hclosed, -⟩ : p.closed = false ∧ p.phase ≠ .stopped := by simpa using hopen
      exact .joins (.flush id) rfl nofun hclosed (Bool.eq_false_iff.2 hshut)

theorem turn_send (p : Processor) (e : InputEvent) : Turn p (.send e) (p.send e).traffic := by
  unfold send
  split
  · exact .rests
  · next hopen =>
    obtain ⟨hclosed, hshut⟩ : p.closed = false ∧ p.shutDown = false := by simpa using hopen
    split
    · rw [traffic_drop]; exact .rests
    · exact .joins (.event e) rfl nofun hclosed hshut

/-- The tick gets a delivery ready for which nobody waits. -/
theorem turn_statsTick (p : Processor) (now : Instant) :
    Turn p (.statsTick now) (p.statsTick now).traffic := by
  unfold statsTick
  cases p.diagnostics with
  | none => exact .rests
  | some d =>
    simp only
    split
    · exact .rests
    · next hopen =>
      obtain ⟨hrunning, -⟩ : p.phase = .running ∧ p.shutDown = false := by simpa using hopen
      exact .schedules _ hrunning (.inr rfl)

/-- All deliveries are done: flushes that wait in the inbox are told that they come too late. -/
theorem stop_of_isDone {p : Processor} (hdone : p.isDone = true) :
    p.stop = { p with
      phase := .stopped
      inbox := []
      replies := p.replies ++ lateAnswers p.inbox } := by
  have hreplies : p.stop.replies = p.replies ++ lateAnswers p.inbox := by
    unfold stop
    rw [if_pos hdone]
    refine congrArg (p.replies ++ ·) (List.filterMap_congr fun m _ => ?_)
    cases m <;> rfl
  rw [← hreplies]
  unfold stop
  rw [if_pos hdone]

theorem turn_stop (p : Processor) : Turn p .stop p.stop.traffic := by
  by_cases hdone : p.isDone = true
  · have hfinishing : p.phase = .finishing := by
      simp only [isDone, Bool.and_eq_true, decide_eq_true_eq] at hdone
      exact hdone.1.1
    rw [stop_of_isDone hdone]
    exact .stops rfl hfinishing
  · rw [stop, if_neg hdone]
    exact .rests

/-- **Every action takes one of these turns**, and does nothing else to the traffic. -/
theorem turn_act (p : Processor) (a : Action) : Turn p a (p.act a).traffic := by
  cases a with
  | send e => exact turn_send p e
  | requestFlush id => exact turn_requestFlush p id
  | requestClose =>
    show Turn p _ p.requestClose.traffic
    unfold requestClose
    split
    · exact .rests
    · next hopen => exact .closes rfl (Bool.eq_false_iff.2 hopen)
  | giveUp => exact .rests
  | release => exact .releases rfl
  | recordStreamInit attempt => exact .rests
  | receive now drawn => exact turn_receive p now drawn
  | endForsaken =>
    show Turn p _ p.endForsaken.traffic
    unfold endForsaken
    split
    · next hforsaken =>
      -- a forsaken processor has nobody left to wait for and an empty inbox
      obtain ⟨hrunning, ⟨hreleased, hinbox⟩, -⟩ :
          p.phase = .running ∧ (p.released = true ∧ p.inbox = []) ∧ p.awaitsFlush = false := by
        simpa [isForsaken] using hforsaken
      have htraffic :
          { p.traffic with phase := .finishing, pending := p.pending ++ p.lastDelivery } =
            { p.traffic with
              phase := .finishing, inbox := [], pending := p.pending ++ p.lastDelivery } := by
        simp only [traffic, hinbox]
      rw [traffic_beginEnd, htraffic]
      exact .ends [] hrunning (.inr ⟨hreleased, hinbox, rfl⟩)
    · exact .rests
  | flushTick =>
    show Turn p _ p.flushTick.traffic
    unfold flushTick
    split
    · exact .rests
    · next hopen =>
      obtain ⟨hrunning, -⟩ : p.phase = .running ∧ p.shutDown = false := by simpa using hopen
      rw [traffic_flush]
      split
      · rw [List.append_nil]; exact .rests
      · exact .schedules _ hrunning (.inl rfl)
  | contextKeysTick =>
    show Turn p _ p.contextKeysTick.traffic
    unfold contextKeysTick
    split <;> exact .rests
  | statsTick now => exact turn_statsTick p now
  | stop => exact turn_stop p
  | begin place => exact turn_begin p place
  | finish place r => exact turn_finish p place r

/-! ## One way -/

variable {p : Processor} {a : Action}

theorem closed_act (h : p.closed = true) : (p.act a).closed = true := by
  have hturn : ∀ t, Turn p a t → t.closed = true := by
    intro t ht
    cases ht <;> first | exact h | rfl
  exact hturn _ (turn_act p a)

theorem shutDown_act (h : p.shutDown = true) : (p.act a).shutDown = true := by
  have hturn : ∀ t, Turn p a t → t.shutDown = true := by
    intro t ht
    cases ht with
    | finishes _ _ _ lasting => exact lasting h
    | _ => exact h
  exact hturn _ (turn_act p a)

/-- A processor that runs has always run. -/
theorem running_of_act (h : (p.act a).phase = .running) : p.phase = .running := by
  have hturn : ∀ t, Turn p a t → t.phase = .running → p.phase = .running := by
    intro t ht hphase
    cases ht with
    | ends => cases hphase
    | stops => cases hphase
    | _ => exact hphase
  exact hturn _ (turn_act p a) h

/-- **What every action keeps, a run keeps.** -/
theorem run_keeps {P : Processor → Prop} (step : ∀ q a, P q → P (q.act a)) (actions : List Action)
    (h : P p) : P (p.run actions) := by
  induction actions generalizing p with
  | nil => exact h
  | cons a rest ih => exact ih (step p a h)

/-- What is not shut down at the end of a run never was. -/
theorem not_shutDown_of_run {actions : List Action} (h : (p.run actions).shutDown = false) :
    p.shutDown = false := by
  cases hshut : p.shutDown with
  | false => rfl
  | true =>
    have hrun : (p.run actions).shutDown = true :=
      run_keeps (P := fun q => q.shutDown = true) (fun _ _ => shutDown_act) actions hshut
    exact absurd (hrun.symm.trans h) nofun

theorem running_of_run {actions : List Action} (h : (p.run actions).phase = .running) :
    p.phase = .running := by
  induction actions generalizing p with
  | nil => exact h
  | cons a rest ih => exact running_of_act (ih h)

end FeatureFlags.Processor

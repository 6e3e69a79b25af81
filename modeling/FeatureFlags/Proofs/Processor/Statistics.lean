/-
  STATISTICS LOSE AND REPEAT NOTHING.

  The numbers of a statistics event are gathered in three places: the count of dropped events is
  raised by the program and by the processor, the count of repeated contexts by the processor alone,
  and the attempts to open the stream of changes are recorded from outside.  All three are reset by
  the tick that reports them, at any moment between any two steps.  The counters have 64 bits, so
  what they say stands for the number of things that happened (`Stands`).

  1. **Moments** — each action of a run, with the state it meets: whether it turns an event away at
     the inbox, which repeated contexts it takes in, which attempt it records, which statistics it
     reports.
  2. **Entries (`Entry`)** — everything that an action can do to the ledger, the part of a state
     that concerns statistics.  Here the actions are taken apart (`entry_act`).
  3. **Accounts** — what was reported and what is still counted make up what happened.  Accounts
     hold of each entry (`Entry.accounts`) and of two parts of a run together (`Accounts.trans`).
  4. **Main result** — the accounts of every run.
-/
import FeatureFlags.Proofs.Counter
import FeatureFlags.Proofs.Processor.Traffic
import Mathlib.Algebra.Ring.Nat
import Mathlib.Data.List.Perm.Basic

namespace FeatureFlags

open Calendar (Instant)

namespace Diagnostics

/-- What a statistics event reports. -/
structure Statistics where
  creationDate : Instant
  dataSinceDate : Instant
  droppedEvents : UInt64
  deduplicatedUsers : UInt64
  eventsInLastBatch : UInt64
  streamInits : List StreamInit
deriving DecidableEq

/-- The statistics of an event, unless it is the event of the start. -/
def Event.statistics? : Event → Option Statistics
  | init _ _ _ _ => none
  | stats _ creationDate dataSinceDate dropped deduplicated lastBatch streamInits =>
    some ⟨creationDate, dataSinceDate, dropped, deduplicated, lastBatch, streamInits⟩

@[simp] theorem dataSince_statsEvent (d : Diagnostics) (now : Instant)
    (dropped deduplicated lastBatch : UInt64) :
    (d.statsEvent now dropped deduplicated lastBatch).2.dataSince = now := rfl

@[simp] theorem streamInits_statsEvent (d : Diagnostics) (now : Instant)
    (dropped deduplicated lastBatch : UInt64) :
    (d.statsEvent now dropped deduplicated lastBatch).2.streamInits = [] := rfl

end Diagnostics

open Diagnostics (Statistics StreamInit)

/-- The statistics that a payload brings. -/
def Payload.statistics? : Payload → Option Statistics
  | analytics _ => none
  | diagnostics event => event.statistics?

namespace Processor

/-- The statistics that a delivery brings. -/
def Delivery.statistics? (d : Delivery) : Option Statistics := d.payload.statistics?

@[simp] theorem Delivery.statistics?_analytics (purpose : Purpose) (events : List OutputEvent) :
    statistics? ⟨purpose, .analytics events⟩ = none := rfl

@[simp] theorem Delivery.statistics?_statsEvent (purpose : Purpose) (d : Diagnostics)
    (now : Instant) (dropped deduplicated lastBatch : UInt64) :
    statistics? ⟨purpose, .diagnostics (d.statsEvent now dropped deduplicated lastBatch).1⟩ =
      some ⟨now, d.dataSince, dropped, deduplicated, lastBatch, d.streamInits⟩ := rfl

theorem Delivery.statistics?_of_analytics {d : Delivery} (h : d.payload.kind = .analytics) :
    d.statistics? = none := by
  unfold Delivery.statistics?
  cases hpayload : d.payload with
  | analytics events => rfl
  | diagnostics event => rw [hpayload] at h; cases h

/-- The statistics reported so far, whether they were handed to the sender or not. -/
def statistics (p : Processor) : List Statistics :=
  p.handed.filterMap Payload.statistics? ++ p.pending.filterMap Delivery.statistics?

/-! ## Moments -/

/-- The actions of a run, each with the state it meets. -/
def moments (p : Processor) : List Action → List (Processor × Action)
  | [] => []
  | a :: rest => (p, a) :: (p.act a).moments rest

/-- Whether an action hands an event to the processor that finds the inbox full. -/
def turnsAway (p : Processor) : Action → Bool
  | .send _ => !p.closed && !p.shutDown && decide (max p.settings.capacity 1 ≤ p.inbox.length)
  | _ => false

/-- The attempt to open the stream that an action records. -/
def Action.attempt? : Action → Option StreamInit
  | .recordStreamInit attempt => some attempt
  | _ => none

/-- The events that an action takes in. -/
def takenIn (p : Processor) (a : Action) : List InputEvent :=
  (p.act a).processed.drop p.processed.length

/-- How many events an action takes in that speak about a context met lately. -/
def repeatsIn (p : Processor) (a : Action) : Nat := (p.takenIn a).countP p.isRepeat

/-- The statistics that an action reports: those of the deliveries it gets ready. -/
def reportsIn (p : Processor) (a : Action) : List Statistics :=
  ((p.act a).pending.drop p.pending.length).filterMap Delivery.statistics?

/-- How many events found the inbox full in a run. -/
def turnedAway (p : Processor) (actions : List Action) : Nat :=
  (p.moments actions).countP fun m => m.1.turnsAway m.2

/-- How many events were taken in by a run that speak about a context met lately. -/
def repeats (p : Processor) (actions : List Action) : Nat :=
  ((p.moments actions).map fun m => m.1.repeatsIn m.2).sum

/-- The statistics that a run reports, the first ones first. -/
def reports (p : Processor) (actions : List Action) : List Statistics :=
  (p.moments actions).flatMap fun m => m.1.reportsIn m.2

section Moments

variable (p : Processor) (a : Action) (rest : List Action)

/-- The first action of a run is counted in the state that the run begins with. -/
theorem turnedAway_cons :
    p.turnedAway (a :: rest) = (p.turnsAway a).toNat + (p.act a).turnedAway rest := by
  have hfirst : p.moments (a :: rest) = (p, a) :: (p.act a).moments rest := rfl
  rw [turnedAway, hfirst, List.countP_cons, Nat.add_comm]
  cases p.turnsAway a <;> rfl

theorem repeats_cons : p.repeats (a :: rest) = p.repeatsIn a + (p.act a).repeats rest := rfl

theorem reports_cons : p.reports (a :: rest) = p.reportsIn a ++ (p.act a).reports rest := rfl

end Moments

/-! ## Entries -/

/-- What concerns statistics. -/
structure Ledger where
  dropped : UInt64
  deduplicated : UInt64
  diagnostics : Option Diagnostics
  processed : List InputEvent
  /-- The output events that found the queue full. -/
  discarded : List OutputEvent
  pending : List Delivery
  handed : List Payload

/-- The ledger of a processor. -/
def ledger (p : Processor) : Ledger where
  dropped := p.dropped
  deduplicated := p.deduplicated
  diagnostics := p.diagnostics
  processed := p.processed
  discarded := p.discarded
  pending := p.pending
  handed := p.handed

/-- **What an action can do to the ledger of a processor**, while it turns an event away or not, and
    records an attempt or none.  `isRepeat` tells which events speak about a context met lately. -/
inductive Entry (isRepeat : InputEvent → Bool) (l : Ledger) :
    Bool → Option StreamInit → Ledger → Prop where
  | rests : Entry isRepeat l false none l
  | turnsAway : Entry isRepeat l true none { l with dropped := l.dropped + 1 }
  | records (attempt : StreamInit) :
      Entry isRepeat l false (some attempt)
        { l with diagnostics := l.diagnostics.map fun d => d.recordStreamInit attempt }
  /-- An event is taken in, and some of its outputs find the queue full. -/
  | takesIn (e : InputEvent) (lost : List OutputEvent) :
      Entry isRepeat l false none { l with
        dropped := l.dropped + .ofNat lost.length
        deduplicated := l.deduplicated + if isRepeat e then 1 else 0
        processed := l.processed ++ [e]
        discarded := l.discarded ++ lost }
  /-- A payload of events gets ready. -/
  | prepares (purpose : Purpose) (events : List OutputEvent) :
      Entry isRepeat l false none { l with pending := l.pending ++ [⟨purpose, .analytics events⟩] }
  | reports (d : Diagnostics) (known : l.diagnostics = some d) (now : Instant)
    (lastBatch : UInt64) :
      Entry isRepeat l false none { l with
        dropped := 0
        deduplicated := 0
        diagnostics := some (d.statsEvent now l.dropped l.deduplicated lastBatch).2
        pending := l.pending ++
          [⟨.diagnostics, .diagnostics (d.statsEvent now l.dropped l.deduplicated lastBatch).1⟩] }
  | begins (place : Nat) (d : Delivery) (waiting : l.pending[place]? = some d) :
      Entry isRepeat l false none { l with
        pending := l.pending.eraseIdx place
        handed := l.handed ++ [d.payload] }
  | refuses (place : Nat) (d : Delivery) (waiting : l.pending[place]? = some d)
      (analytics : d.payload.kind = .analytics) :
      Entry isRepeat l false none { l with pending := l.pending.eraseIdx place }

theorem ledger_drop (p : Processor) :
    p.drop.ledger = { p.ledger with dropped := p.dropped + 1 } := by
  unfold drop
  split <;> rfl

/-- What does not fit into the queue is counted, one by one. -/
theorem exists_ledger_enqueue (outputs : List OutputEvent) (p : Processor) :
    ∃ lost, (outputs.foldl enqueue p).ledger = { p.ledger with
      dropped := p.dropped + .ofNat lost.length
      discarded := p.discarded ++ lost } := by
  induction outputs generalizing p with
  | nil => exact ⟨[], by simp [ledger]⟩
  | cons e rest ih =>
    obtain ⟨lost, hrest⟩ := ih (p.enqueue e)
    rw [List.foldl_cons, hrest]
    unfold enqueue
    split
    · -- no room: one more is lost, and counted first
      refine ⟨e :: lost, ?_⟩
      have hdropped : p.drop.dropped = p.dropped + 1 := congrArg Ledger.dropped (ledger_drop p)
      have hledger : ({ p.drop with discarded := p.discarded ++ [e] } : Processor).ledger =
          { p.drop.ledger with discarded := p.discarded ++ [e] } := rfl
      rw [hledger, ledger_drop]
      show ({ p.ledger with
          dropped := p.drop.dropped + .ofNat lost.length
          discarded := (p.discarded ++ [e]) ++ lost } : Ledger) = _
      rw [hdropped, List.append_assoc, List.singleton_append, List.length_cons, UInt64.ofNat_add,
        UInt64.add_assoc, UInt64.add_comm 1]
      rfl
    · exact ⟨lost, rfl⟩

/-- An event that is taken in raises the counter of repeats if its context was met, and that of
    drops by the outputs that find no room. -/
theorem entry_process (p : Processor) (now : Instant) (drawn : Bool) (e : InputEvent) :
    Entry p.isRepeat p.ledger false none (p.process now drawn e).ledger := by
  unfold process
  split
  · exact .rests
  · obtain ⟨lost, hledger⟩ := exists_ledger_enqueue
      (e.outputs p.settings.redaction (!p.hasMet e.context) (e.isDebugged now p.serverTime)
        (isSampled drawn e.samplingRatio)) (p.record e)
    rw [hledger]
    exact .takesIn e lost

theorem entry_flush (p : Processor) (purpose : Purpose) :
    Entry p.isRepeat p.ledger false none (p.flush purpose).ledger := by
  unfold flush
  split
  · exact .rests
  · exact .prepares purpose p.payload

theorem entry_beginEnd (p : Processor) :
    Entry p.isRepeat p.ledger false none p.beginEnd.ledger := by
  unfold beginEnd
  simp only
  split
  · exact .rests
  · exact entry_flush { p with phase := .finishing } .final

/-- The program counts an event that finds the inbox full. -/
theorem entry_send (p : Processor) (e : InputEvent) :
    Entry p.isRepeat p.ledger (p.turnsAway (.send e)) none (p.send e).ledger := by
  unfold send
  split
  · next hshut =>
    -- nothing is counted after closing or a shutdown
    have hkept : p.turnsAway (.send e) = false := by
      rcases Bool.or_eq_true_iff.1 hshut with h | h <;> simp [turnsAway, h]
    rw [hkept]
    exact .rests
  · next hopen =>
    -- the inbox decides: full, and the event is counted; or it joins
    obtain ⟨hclosed, hshut⟩ : p.closed = false ∧ p.shutDown = false := by simpa using hopen
    have haway : p.turnsAway (.send e) = decide (max p.settings.capacity 1 ≤ p.inbox.length) := by
      simp [turnsAway, hclosed, hshut]
    rw [haway]
    split
    · next hfull =>
      rw [decide_eq_true hfull, ledger_drop]
      exact .turnsAway
    · next hroom =>
      rw [decide_eq_false hroom]
      exact .rests

theorem entry_receive (p : Processor) (now : Instant) (drawn : Bool) :
    Entry p.isRepeat p.ledger false none (p.receive now drawn).ledger := by
  by_cases hphase : p.phase = .running
  · cases hinbox : p.inbox with
    | nil =>
      rw [receive_nil hinbox]
      exact .rests
    | cons message rest =>
      rw [receive_cons hphase hinbox]
      cases message with
      | event e => exact entry_process { p with inbox := rest } now drawn e
      | flush id =>
        show Entry p.isRepeat p.ledger _ _
            (({ p with inbox := rest } : Processor).flushFor id).ledger
        unfold flushFor
        split
        · exact .rests
        · split
          · exact .rests
          · exact entry_flush { p with inbox := rest } (.flush id)
      | close => exact entry_beginEnd { p with inbox := rest }
  · rw [receive_idle hphase]
    exact .rests

/-- The tick reports what was counted and begins anew, with diagnostics; without them it does
    nothing. -/
theorem entry_statsTick (p : Processor) (now : Instant) :
    Entry p.isRepeat p.ledger false none (p.statsTick now).ledger := by
  unfold statsTick
  cases known : p.diagnostics with
  | none => exact .rests
  | some d =>
    simp only
    split
    · exact .rests
    · exact .reports d known now p.lastBatch

theorem ledger_conclude (p : Processor) (purpose : Purpose) (outcome : Except Failure Unit) :
    (p.conclude purpose outcome).ledger = p.ledger := by
  rcases purpose with _ | _ | _ | _ <;> cases outcome <;> rfl

theorem ledger_learn (p : Processor) (r : DeliveryResult) : (p.learn r).ledger = p.ledger := by
  unfold learn
  cases r.status <;> rfl

/-- A delivery that begins no longer waits: its payload is handed over or, if it is of events and
    comes after a shutdown, refused. -/
theorem entry_begin (p : Processor) (place : Nat) :
    Entry p.isRepeat p.ledger false none (p.begin place).ledger := by
  unfold begin
  cases waiting : p.pending[place]? with
  | none => exact .rests
  | some d =>
    simp only
    split
    · next hrefused =>
      rw [ledger_conclude]
      exact .refuses place d waiting (by simpa using (Bool.and_eq_true_iff.1 hrefused).2)
    · exact .begins place d waiting

theorem ledger_finish (p : Processor) (place : Nat) (r : DeliveryResult) :
    (p.finish place r).ledger = p.ledger := by
  unfold finish
  cases p.underway[place]? with
  | none => rfl
  | some d =>
    simp only
    cases d.payload.kind with
    | diagnostics => rfl
    | analytics =>
      simp only [ledger_conclude, ledger_learn]
      rfl

/-- **Every action makes one entry in the ledger**, and does nothing else to it. -/
theorem entry_act (p : Processor) (a : Action) :
    Entry p.isRepeat p.ledger (p.turnsAway a) a.attempt? (p.act a).ledger := by
  cases a with
  | send e => exact entry_send p e
  | requestFlush id =>
    show Entry p.isRepeat p.ledger false none (p.requestFlush id).ledger
    unfold requestFlush
    split <;> (try split) <;> exact .rests
  | requestClose =>
    show Entry p.isRepeat p.ledger false none p.requestClose.ledger
    unfold requestClose
    split <;> exact .rests
  | giveUp => exact .rests
  | release => exact .rests
  | recordStreamInit attempt => exact .records attempt
  | receive now drawn => exact entry_receive p now drawn
  | endForsaken =>
    show Entry p.isRepeat p.ledger false none p.endForsaken.ledger
    unfold endForsaken
    split
    · exact entry_beginEnd p
    · exact .rests
  | flushTick =>
    show Entry p.isRepeat p.ledger false none p.flushTick.ledger
    unfold flushTick
    split
    · exact .rests
    · exact entry_flush p .scheduled
  | contextKeysTick =>
    show Entry p.isRepeat p.ledger false none p.contextKeysTick.ledger
    unfold contextKeysTick
    split <;> exact .rests
  | statsTick now => exact entry_statsTick p now
  | stop =>
    show Entry p.isRepeat p.ledger false none p.stop.ledger
    unfold stop
    split <;> exact .rests
  | begin place => exact entry_begin p place
  | finish place r =>
    show Entry p.isRepeat p.ledger false none (p.finish place r).ledger
    rw [ledger_finish]
    exact .rests

/-! ## Accounts -/

/-- The statistics reported so far, as the ledger has them. -/
def Ledger.statistics (l : Ledger) : List Statistics :=
  l.handed.filterMap Payload.statistics? ++ l.pending.filterMap Delivery.statistics?

/-- How many dropped events statistics report together. -/
def droppedIn (reports : List Statistics) : Nat := (reports.map fun r => r.droppedEvents.toNat).sum

/-- How many repeated contexts statistics report together. -/
def repeatedIn (reports : List Statistics) : Nat :=
  (reports.map fun r => r.deduplicatedUsers.toNat).sum

/-- **The accounts between two states**, where `reports` was reported, `turned` events found the
    inbox full, `repeated` events named a context met lately, and `attempts` were recorded. -/
structure Accounts (l : Ledger) (d : Diagnostics) (l' : Ledger) (d' : Diagnostics)
    (reports : List Statistics) (turned repeated : Nat) (attempts : List StreamInit) : Prop where
  dropped : Stands (droppedIn reports + l'.dropped.toNat + l.discarded.length)
    (l.dropped.toNat + turned + l'.discarded.length)
  deduplicated : Stands (repeatedIn reports + l'.deduplicated.toNat)
    (l.deduplicated.toNat + repeated)
  streamInits : reports.flatMap Statistics.streamInits ++ d'.streamInits = d.streamInits ++ attempts
  /-- Each report begins where the one before ends. -/
  dates : reports.map Statistics.dataSinceDate ++ [d'.dataSince] =
    d.dataSince :: reports.map Statistics.creationDate
  kept : l'.statistics.Perm (l.statistics ++ reports)

theorem droppedIn_append (first second : List Statistics) :
    droppedIn (first ++ second) = droppedIn first + droppedIn second := by
  unfold droppedIn
  rw [List.map_append, List.sum_append]

theorem repeatedIn_append (first second : List Statistics) :
    repeatedIn (first ++ second) = repeatedIn first + repeatedIn second := by
  unfold repeatedIn
  rw [List.map_append, List.sum_append]

theorem Accounts.refl (l : Ledger) (d : Diagnostics) : Accounts l d l d [] 0 0 [] where
  dropped := by simp [droppedIn]
  deduplicated := by simp [repeatedIn]
  streamInits := by simp
  dates := by simp
  kept := by simp

/-- **The accounts of two parts make up those of the whole.** -/
theorem Accounts.trans {l₁ l₂ l₃ : Ledger} {d₁ d₂ d₃ : Diagnostics} {r s : List Statistics}
    {t u n m : Nat} {x y : List StreamInit} (first : Accounts l₁ d₁ l₂ d₂ r t n x)
    (second : Accounts l₂ d₂ l₃ d₃ s u m y) :
    Accounts l₁ d₁ l₃ d₃ (r ++ s) (t + u) (n + m) (x ++ y) where
  dropped := by
    -- what the first part leaves on the counter, and what is discarded by then, stand on both sides
    refine .of_add (k := l₂.dropped.toNat + l₂.discarded.length) ?_
    have hboth := first.dropped.add second.dropped
    rw [droppedIn_append]
    convert hboth using 1 <;> omega
  deduplicated := by
    refine .of_add (k := l₂.deduplicated.toNat) ?_
    have hboth := first.deduplicated.add second.deduplicated
    rw [repeatedIn_append]
    convert hboth using 1 <;> omega
  streamInits := by
    rw [List.flatMap_append, List.append_assoc, second.streamInits, ← List.append_assoc,
      first.streamInits, List.append_assoc]
  dates := by
    -- the first part ends with the date at which the second one begins
    rw [List.map_append, List.append_assoc, second.dates, List.append_cons, first.dates,
      List.map_append, List.cons_append]
  kept := by
    rw [← List.append_assoc]
    exact second.kept.trans (first.kept.append_right s)

/-- What a delivery brings is reported whether it waits among the others or not. -/
theorem perm_statistics_eraseIdx {pending : List Delivery} {place : Nat} {d : Delivery}
    (waiting : pending[place]? = some d) :
    ((d :: pending.eraseIdx place).filterMap Delivery.statistics?).Perm
      (pending.filterMap Delivery.statistics?) := by
  obtain ⟨hplace, rfl⟩ := List.getElem?_eq_some_iff.1 waiting
  exact (List.getElem_cons_eraseIdx_perm hplace).filterMap _

/-- A delivery that begins is no longer among those that wait. -/
theorem drop_eraseIdx_length {pending : List Delivery} {place : Nat} :
    (pending.eraseIdx place).drop pending.length = [] :=
  List.drop_eq_nil_of_le (List.length_eraseIdx_le ..)

/-- **Every entry keeps accounts.**  What it reports and takes in is what the ledger has more of. -/
theorem Entry.accounts {isRepeat : InputEvent → Bool} {l l' : Ledger} {turned : Bool}
    {attempt : Option StreamInit} (h : Entry isRepeat l turned attempt l') {d : Diagnostics}
    (hd : l.diagnostics = some d) :
    ∃ d', l'.diagnostics = some d' ∧ Accounts l d l' d'
      ((l'.pending.drop l.pending.length).filterMap Delivery.statistics?) turned.toNat
      ((l'.processed.drop l.processed.length).countP isRepeat) attempt.toList := by
  cases h with
  | rests =>
    refine ⟨d, hd, ?_⟩
    simpa using Accounts.refl l d
  | turnsAway =>
    -- one event more was turned away, and one more is counted
    refine ⟨d, hd, ?_⟩
    constructor
    case dropped => simpa [droppedIn] using (Stands.toNat_succ l.dropped).add (.refl _)
    all_goals simp [Ledger.statistics, repeatedIn]
  | records attempt =>
    refine ⟨d.recordStreamInit attempt, by rw [hd]; rfl, ?_⟩
    constructor <;> simp [Ledger.statistics, droppedIn, repeatedIn, Diagnostics.recordStreamInit]
  | takesIn e lost =>
    -- the outputs that were lost are counted, and the event if its context was met lately
    refine ⟨d, hd, ?_⟩
    constructor
    case dropped =>
      have hlost := (Stands.toNat_add_ofNat l.dropped lost.length).add (.refl l.discarded.length)
      simpa [droppedIn, Nat.add_assoc, Nat.add_comm lost.length] using hlost
    case deduplicated =>
      cases hrepeat : isRepeat e with
      | true => simpa [repeatedIn, hrepeat] using Stands.toNat_succ l.deduplicated
      | false => simp [repeatedIn, hrepeat]
    all_goals simp [Ledger.statistics]
  | prepares purpose events =>
    refine ⟨d, hd, ?_⟩
    constructor <;> simp [Ledger.statistics, droppedIn, repeatedIn, List.filterMap_cons]
  | reports d' known now lastBatch =>
    -- what was counted is reported now, and both counters begin at zero
    obtain rfl : d' = d := Option.some.inj (known.symm.trans hd)
    refine ⟨_, rfl, ?_⟩
    constructor <;> simp [Ledger.statistics, droppedIn, repeatedIn]
  | begins place d' waiting =>
    -- statistics that are handed over leave those that wait: together they are the same
    refine ⟨d, hd, ?_⟩
    constructor
    case kept =>
      have hhanded : [d'.payload].filterMap Payload.statistics? =
          [d'].filterMap Delivery.statistics? := rfl
      rw [drop_eraseIdx_length, List.filterMap_nil, List.append_nil]
      unfold Ledger.statistics
      rw [List.filterMap_append, hhanded, List.append_assoc, ← List.filterMap_append]
      exact (perm_statistics_eraseIdx waiting).append_left _
    all_goals simp [drop_eraseIdx_length, droppedIn, repeatedIn]
  | refuses place d' waiting analytics =>
    -- only events are refused, and they bring no statistics
    refine ⟨d, hd, ?_⟩
    constructor
    case kept =>
      have hrefused := perm_statistics_eraseIdx waiting
      have hnone : d'.statistics? = none := Delivery.statistics?_of_analytics analytics
      rw [List.filterMap_cons_none hnone] at hrefused
      rw [drop_eraseIdx_length, List.filterMap_nil, List.append_nil]
      exact hrefused.append_left _
    all_goals simp [drop_eraseIdx_length, droppedIn, repeatedIn]

/-- **One action**: what it reports and what it leaves counted make up what was counted before and
    what happened in it. -/
theorem accounts_act {p : Processor} {d : Diagnostics} (hd : p.diagnostics = some d) (a : Action) :
    ∃ d', (p.act a).diagnostics = some d' ∧ Accounts p.ledger d (p.act a).ledger d' (p.reportsIn a)
      (p.turnsAway a).toNat (p.repeatsIn a) a.attempt?.toList :=
  (entry_act p a).accounts hd

/-- **Every run keeps accounts**, wherever it begins. -/
theorem accounts_run {p : Processor} {d : Diagnostics} (hd : p.diagnostics = some d)
    (actions : List Action) :
    ∃ d', (p.run actions).diagnostics = some d' ∧
      Accounts p.ledger d (p.run actions).ledger d' (p.reports actions) (p.turnedAway actions)
        (p.repeats actions) (actions.filterMap Action.attempt?) := by
  induction actions generalizing p d with
  | nil => exact ⟨d, hd, .refl _ d⟩
  | cons a rest ih =>
    obtain ⟨d₁, hd₁, hfirst⟩ := accounts_act hd a
    obtain ⟨d₂, hd₂, hrest⟩ := ih hd₁
    have hattempts : (a :: rest).filterMap Action.attempt? =
        a.attempt?.toList ++ rest.filterMap Action.attempt? := by
      cases hattempt : a.attempt? <;> simp [hattempt]
    refine ⟨d₂, hd₂, ?_⟩
    rw [reports_cons, turnedAway_cons, repeats_cons, hattempts]
    exact hfirst.trans hrest

/-- **Statistics lose and repeat nothing.**  At every moment of every run of a processor that
    reports diagnostics, whatever the order of its actions:

    - the dropped events of all reports, and those counted since, stand for the events that found
      the inbox full and the output events that found the queue full;
    - the repeated contexts of all reports, and those counted since, stand for the events taken in
      that speak about a context met lately;
    - the attempts to open the stream are those of all reports, each in one of them and in the order
      in which they were recorded, and then those of the current window;
    - the first report begins when the records do, every other one when the report before it was
      made, and the current window at the last report;
    - the reports are what was handed to the sender or is about to be.

    What counters say agrees with what they stand for up to multiples of 2⁶⁴, the size of a counter,
    and below 2⁶⁴ both are equal. -/
theorem run_reports_everything (settings : Settings) (diagnosticId sdkKey : String) (now : Instant)
    (config : Config) (storeType : String) (actions : List Action) :
    let s := start settings (some (Diagnostics.start diagnosticId sdkKey now config storeType))
    let p := s.run actions
    let reports := s.reports actions
    let dropped := (reports.map fun r => r.droppedEvents.toNat).sum + p.dropped.toNat
    let deduplicated :=
      (reports.map fun r => r.deduplicatedUsers.toNat).sum + p.deduplicated.toNat
    let refused := s.turnedAway actions + p.discarded.length
    let repeated := s.repeats actions
    (dropped % 2 ^ 64 = refused % 2 ^ 64 ∧
        dropped ≤ refused ∧ (refused < 2 ^ 64 → dropped = refused)) ∧
      (deduplicated % 2 ^ 64 = repeated % 2 ^ 64 ∧
        deduplicated ≤ repeated ∧ (repeated < 2 ^ 64 → deduplicated = repeated)) ∧
      (∃ d, p.diagnostics = some d ∧
        reports.flatMap Statistics.streamInits ++ d.streamInits =
          actions.filterMap Action.attempt? ∧
        reports.map Statistics.dataSinceDate ++ [d.dataSince] =
          now :: reports.map Statistics.creationDate) ∧
      p.statistics.Perm reports := by
  intro s p reports dropped deduplicated refused repeated
  obtain ⟨d, hd, haccounts⟩ := accounts_run (p := s) rfl actions
  -- a processor that starts has counted and discarded nothing
  have hdropped : Stands dropped refused := by
    have h : Stands (dropped + 0) (0 + s.turnedAway actions + p.discarded.length) :=
      haccounts.dropped
    rwa [Nat.add_zero, Nat.zero_add] at h
  have hrepeated : Stands deduplicated repeated := by
    have h : Stands deduplicated (0 + repeated) := haccounts.deduplicated
    rwa [Nat.zero_add] at h
  exact ⟨⟨hdropped.modEq, hdropped.le, hdropped.eq_of_lt⟩,
    ⟨hrepeated.modEq, hrepeated.le, hrepeated.eq_of_lt⟩,
    ⟨d, hd, haccounts.streamInits, haccounts.dates⟩, haccounts.kept⟩

/-- One event finds the inbox full, outputs of two find the queue full, and the second of these
    speaks about the context of the first. -/
example (config : Config) :
    let context : Context := .single ⟨.user, "a", none, false, none, [], []⟩
    let event : InputEvent := .custom ⟨0, context, "k", none, none, none⟩
    let d := Diagnostics.start "id" "key" 0 config "memory"
    let attempt : StreamInit := ⟨3, false, 10⟩
    (start ⟨1, 0, 10, 0, 0, ⟨false, []⟩, 0⟩ (some d)).reports
        [.send event, .send event, .receive 1 false, .recordStreamInit attempt, .statsTick 5,
          .send event, .receive 6 false, .statsTick 9] =
      [⟨5, 0, 2, 0, 0, [attempt]⟩, ⟨9, 5, 1, 1, 0, []⟩] := by cbv

end Processor

end FeatureFlags

/-
  THE BOOKS OF A PROCESSOR — what every law about events and payloads is read from.

  Of all a processor holds, its `Books` are what concerns events: queue, tally and met contexts, the
  two counters, the deliveries that have not begun, and the history.  Inbox, answers, log, clocks
  and timers are left out.

  1. **Entries** — `Books.Step a` lists everything that an action `a` can enter in the books at
     once: an event is taken in, a payload is taken out, statistics are reported, a delivery begins
     or is refused, the met contexts are forgotten, an event is dropped before the inbox, the
     processor shuts down, ends or stops.
  2. **The crux (`steps_act`)** — every action of a processor makes a few such entries, most of them
     none or one, and nothing else.  This is the only place where the actions are taken apart.
  3. **Runs (`books_run`)** — what holds of the first books and survives each entry holds of the
     books of every run.  Each law of the processor is one such predicate and one case per entry.
-/
import FeatureFlags.Processor.Run
import Mathlib.Logic.Relation

namespace FeatureFlags.Processor

open Calendar (Instant)
open Relation (ReflTransGen)

/-- What concerns events. -/
structure Books where
  settings : Settings
  shutDown : Bool
  phase : Phase
  queue : List OutputEvent
  tally : Summary.Tally
  met : Recency Unit
  dropped : UInt64
  deduplicated : UInt64
  pending : List Delivery
  processed : List InputEvent
  queued : List OutputEvent
  discarded : List OutputEvent
  taken : List (List OutputEvent)
  handed : List Payload
  refused : List Payload

/-- The books of a processor. -/
def books (p : Processor) : Books where
  settings := p.settings
  shutDown := p.shutDown
  phase := p.phase
  queue := p.queue
  tally := p.tally
  met := p.met
  dropped := p.dropped
  deduplicated := p.deduplicated
  pending := p.pending
  processed := p.processed
  queued := p.queued
  discarded := p.discarded
  taken := p.taken
  handed := p.handed
  refused := p.refused

namespace Books

/-- How many output events still fit into the queue. -/
def room (b : Books) : Nat := b.settings.capacity - b.queue.length

/-- Put output events into the queue, as many as fit; the rest is dropped. -/
def offer (b : Books) (outputs : List OutputEvent) : Books :=
  { b with
    queue := b.queue ++ outputs.take b.room
    queued := b.queued ++ outputs.take b.room
    discarded := b.discarded ++ outputs.drop b.room
    dropped := b.dropped + .ofNat (outputs.drop b.room).length }

/-- Whether a context was met lately. -/
def hasMet (b : Books) (context : Context) : Bool := (b.met.get? context.canonicalKey).isSome

/-- The output events that an event asks for. -/
def outputs (b : Books) (e : InputEvent) (debugged drawn : Bool) : List OutputEvent :=
  e.outputs b.settings.redaction (!b.hasMet e.context) debugged (isSampled drawn e.samplingRatio)

/-- Whether an event speaks about a context that need not be announced again. -/
def isRepeat (b : Books) : InputEvent → Bool
  | .feature e => b.hasMet e.context
  | .custom e => b.hasMet e.context
  | .identify _ | .migration _ => false

/-- The books after an event is counted and its context met, before its outputs are queued. -/
def record (b : Books) (e : InputEvent) : Books :=
  { b with
    tally := b.tally.addEvent e
    met := if e.meetsContext then b.met.put e.context.canonicalKey () else b.met
    deduplicated := b.deduplicated + if b.isRepeat e then 1 else 0
    processed := b.processed ++ [e] }

/-- What a flush takes out. -/
def payload (b : Books) : List OutputEvent :=
  b.queue ++ (b.tally.summary?.toList.map OutputEvent.summary)

/-- The books after a flush has taken a payload out. -/
def withdraw (b : Books) (purpose : Purpose) : Books :=
  { b with
    queue := []
    tally := .empty
    taken := b.taken ++ [b.payload]
    pending := b.pending ++ [⟨purpose, .analytics b.payload⟩] }

/-- The books after a delivery that had not begun is taken from its place. -/
def unqueue (b : Books) (place : Nat) : Books := { b with pending := b.pending.eraseIdx place }

/-- **What an action can enter in the books at once.** -/
inductive Step (a : Action) (b : Books) : Books → Prop where
  /-- An event is dropped before it gets into the inbox. -/
  | dropsOut (running : b.shutDown = false) : Step a b { b with dropped := b.dropped + 1 }
  | takesIn (running : b.shutDown = false) (e : InputEvent) (debugged drawn : Bool) :
      Step a b ((b.record e).offer (b.outputs e debugged drawn))
  | takesOut (running : b.shutDown = false) (live : b.phase ≠ .stopped) (purpose : Purpose)
      (nonempty : b.payload ≠ []) : Step a b (b.withdraw purpose)
  | reports (running : b.shutDown = false) (live : b.phase ≠ .stopped) (event : Diagnostics.Event) :
      Step a b { b with
        dropped := 0
        deduplicated := 0
        pending := b.pending ++ [⟨.diagnostics, .diagnostics event⟩] }
  | forgets (timer : a = .contextKeysTick) : Step a b { b with met := b.met.clear }
  | begins {place : Nat} {d : Delivery} (here : a = .begin place)
      (waiting : b.pending[place]? = some d)
      (allowed : b.shutDown = true → d.payload.kind = .diagnostics) :
      Step a b { b.unqueue place with handed := b.handed ++ [d.payload] }
  | refuses {place : Nat} {d : Delivery} (here : a = .begin place)
      (waiting : b.pending[place]? = some d) (shut : b.shutDown = true)
      (analytics : d.payload.kind = .analytics) :
      Step a b { b.unqueue place with refused := b.refused ++ [d.payload] }
  | shutsDown : Step a b { b with shutDown := true }
  | ends (running : b.phase = .running) : Step a b { b with phase := .finishing }
  | stops (idle : b.pending = []) : Step a b { b with phase := .stopped }

end Books

/-! ## What concerns no events -/

@[simp] theorem books_note (p : Processor) (entry : LogEntry) :
    (p.note entry).books = p.books := rfl

@[simp] theorem books_reply (p : Processor) (id : Nat) (answer : Except Failure Unit) :
    (p.reply id answer).books = p.books := rfl

@[simp] theorem books_conclude (p : Processor) (purpose : Purpose) (outcome : Except Failure Unit) :
    (p.conclude purpose outcome).books = p.books := by
  rcases purpose with _ | _ | _ | _ <;> cases outcome <;> rfl

theorem books_drop (p : Processor) : p.drop.books = { p.books with dropped := p.dropped + 1 } := by
  unfold drop
  split <;> rfl

/-! ## Taking in -/

namespace Books

theorem offer_of_full {b : Books} (hroom : b.room = 0) (outputs : List OutputEvent) :
    b.offer outputs = { b with
      discarded := b.discarded ++ outputs
      dropped := b.dropped + .ofNat outputs.length } := by
  simp [offer, hroom]

theorem offer_singleton {b : Books} (hroom : 0 < b.room) (e : OutputEvent) :
    b.offer [e] = { b with queue := b.queue ++ [e], queued := b.queued ++ [e] } := by
  simp [offer, List.take_of_length_le, List.drop_eq_nil_of_le, Nat.succ_le_of_lt hroom]

/-- Offering events one after the other is offering them all. -/
theorem offer_offer (b : Books) (e : OutputEvent) (rest : List OutputEvent) :
    (b.offer [e]).offer rest = b.offer (e :: rest) := by
  -- either nothing fits any more, or the first one does and the others find less room
  rcases Nat.eq_zero_or_pos b.room with hfull | hroom
  · have hfull' : ({ b with
        discarded := b.discarded ++ [e]
        dropped := b.dropped + .ofNat [e].length } : Books).room = 0 := hfull
    rw [offer_of_full hfull, offer_of_full hfull', offer_of_full hfull]
    simp only [List.append_assoc, List.singleton_append, List.length_cons, List.length_nil,
      Nat.zero_add, UInt64.ofNat_add, UInt64.add_assoc, UInt64.add_comm (.ofNat 1)]
  · obtain ⟨n, hn⟩ := Nat.exists_eq_succ_of_ne_zero (Nat.ne_of_gt hroom)
    have hleft :
        ({ b with queue := b.queue ++ [e], queued := b.queued ++ [e] } : Books).room = n := by
      simp only [room, List.length_append, List.length_singleton] at hn ⊢
      omega
    rw [offer_singleton hroom, offer, offer, hleft, hn]
    simp

@[simp] theorem offer_nil (b : Books) : b.offer [] = b := by simp [offer]

end Books

theorem books_enqueue (p : Processor) (e : OutputEvent) :
    (p.enqueue e).books = p.books.offer [e] := by
  unfold enqueue
  split
  · next hfull =>
    have hdrop : ({ p.drop with discarded := p.discarded ++ [e] } : Processor).books =
        { p.drop.books with discarded := p.discarded ++ [e] } := rfl
    rw [hdrop, books_drop, Books.offer_of_full (Nat.sub_eq_zero_of_le hfull : p.books.room = 0)]
    rfl
  · next hroom =>
    rw [Books.offer_singleton (Nat.sub_pos_of_lt (Nat.lt_of_not_le hroom) : 0 < p.books.room)]
    rfl

/-- Outputs that are queued one by one are offered as a whole, by induction on them. -/
theorem books_foldl_enqueue (outputs : List OutputEvent) (p : Processor) :
    (outputs.foldl enqueue p).books = p.books.offer outputs := by
  induction outputs generalizing p with
  | nil => exact (Books.offer_nil _).symm
  | cons e rest ih => rw [List.foldl_cons, ih, books_enqueue, Books.offer_offer]

/-- **Taking an event in**, while the processor is not shut down. -/
theorem books_process {p : Processor} (running : p.shutDown = false) (now : Instant) (drawn : Bool)
    (e : InputEvent) :
    (p.process now drawn e).books =
      (p.books.record e).offer (p.books.outputs e (e.isDebugged now p.serverTime) drawn) := by
  unfold process
  rw [if_neg (by simp [running]), books_foldl_enqueue]
  cases e <;> rfl

/-- An event is taken in: it is counted, its context is met, and its outputs are offered. -/
theorem steps_process {a : Action} (p : Processor) (now : Instant) (drawn : Bool) (e : InputEvent) :
    ReflTransGen (Books.Step a) p.books (p.process now drawn e).books := by
  cases hshut : p.shutDown with
  | true =>
    rw [process, if_pos hshut]
  | false =>
    rw [books_process hshut]
    exact .single (.takesIn hshut e _ drawn)

/-! ## Taking out -/

/-- A flush takes a payload out, or finds nothing to send. -/
theorem steps_flush {a : Action} {p : Processor} (running : p.shutDown = false)
    (live : p.phase ≠ .stopped) (purpose : Purpose) :
    ReflTransGen (Books.Step a) p.books (p.flush purpose).books := by
  unfold flush
  split
  · exact .refl
  · next hne => exact .single (.takesOut running live purpose hne)

/-- A flush that somebody waits for does the same, and one that is refused enters nothing. -/
theorem steps_flushFor {a : Action} {p : Processor} (live : p.phase ≠ .stopped) (id : Nat) :
    ReflTransGen (Books.Step a) p.books (p.flushFor id).books := by
  unfold flushFor
  split
  · exact .refl
  · next hshut =>
    split
    · exact .refl
    · exact steps_flush (Bool.eq_false_iff.2 hshut) live _

/-- The end takes the last payload out and leaves the running phase. -/
theorem steps_beginEnd {a : Action} {p : Processor} (running : p.phase = .running) :
    ReflTransGen (Books.Step a) p.books p.beginEnd.books := by
  have hends :
      ReflTransGen (Books.Step a) p.books ({ p with phase := .finishing } : Processor).books :=
    .single (.ends running)
  refine hends.trans ?_
  unfold beginEnd
  simp only
  split
  · exact .refl
  · next hshut =>
    exact steps_flush (p := { p with phase := .finishing }) (Bool.eq_false_iff.2 hshut) (by simp) _

/-! ## Deliveries -/

/-- **Beginning a delivery** hands its payload to the sender, or refuses it. -/
theorem books_begin {p : Processor} {place : Nat} {d : Delivery}
    (waiting : p.pending[place]? = some d) :
    (p.begin place).books =
      if p.shutDown = true ∧ d.payload.kind = .analytics then
        { p.books.unqueue place with refused := p.refused ++ [d.payload] }
      else { p.books.unqueue place with handed := p.handed ++ [d.payload] } := by
  unfold begin
  rw [waiting]
  simp only [Bool.and_eq_true, decide_eq_true_eq]
  split
  · rw [books_conclude]
    rfl
  · rfl

/-- A delivery is taken from its place, and handed to the sender or, after a shutdown, refused. -/
theorem steps_begin (p : Processor) (place : Nat) :
    ReflTransGen (Books.Step (.begin place)) p.books (p.begin place).books := by
  cases waiting : p.pending[place]? with
  | none =>
    rw [begin, waiting]
  | some d =>
    rw [books_begin waiting]
    split
    · next hrefused => exact .single (.refuses rfl waiting hrefused.1 hrefused.2)
    · next hallowed =>
      refine .single (.begins rfl waiting fun hshut => ?_)
      cases hkind : d.payload.kind with
      | analytics => exact absurd ⟨hshut, hkind⟩ hallowed
      | diagnostics => rfl

/-- Of an answer, the books learn only whether to shut down. -/
theorem books_learn (p : Processor) (r : DeliveryResult) :
    (p.learn r).books =
      { p.books with shutDown := p.shutDown || r.status = .failedForGood } := by
  unfold learn
  cases r.status <;> simp [books]

/-- **The sender's answer** changes nothing in the books, unless it shuts the processor down. -/
theorem books_finish (p : Processor) (place : Nat) (r : DeliveryResult) :
    (p.finish place r).books = p.books ∨
      (p.finish place r).books = { p.books with shutDown := true } := by
  unfold finish
  cases p.underway[place]? with
  | none => exact .inl rfl
  | some d =>
    cases hkind : d.payload.kind with
    | diagnostics => exact .inl (by simp only [hkind]; rfl)
    | analytics =>
      simp only [hkind, books_conclude, books_learn]
      cases hstatus : decide (r.status = .failedForGood) with
      | true => exact .inr (by simp [books])
      | false => exact .inl (by simp [books])

/-! ## All actions -/

/-- An event that finds the inbox full is counted as dropped; nothing else of the books changes. -/
theorem steps_send {a : Action} (p : Processor) (e : InputEvent) :
    ReflTransGen (Books.Step a) p.books (p.send e).books := by
  unfold send
  split
  · exact .refl
  · next hopen =>
    split
    · rw [books_drop]
      have hrunning : p.shutDown = false := by
        cases hshut : p.shutDown with
        | true => exact absurd (by simp [hshut]) hopen
        | false => rfl
      exact .single (.dropsOut hrunning)
    · exact .refl

/-- A message is an event, a flush or the request for the end. -/
theorem steps_receive {a : Action} (p : Processor) (now : Instant) (drawn : Bool) :
    ReflTransGen (Books.Step a) p.books (p.receive now drawn).books := by
  unfold receive
  split
  · exact .refl
  · next hphase =>
    have hrunning : p.phase = .running := Decidable.not_not.1 hphase
    have hlive : p.phase ≠ .stopped := by rw [hrunning]; decide
    cases p.inbox with
    | nil => exact .refl
    | cons message rest =>
      -- the books do not know the inbox, so taking the message out is no entry
      cases message with
      | event e => exact steps_process { p with inbox := rest } now drawn e
      | flush id => exact steps_flushFor (p := { p with inbox := rest }) hlive id
      | close => exact steps_beginEnd (p := { p with inbox := rest }) hrunning

/-- The tick reports the two counters and sets them back. -/
theorem steps_statsTick {a : Action} (p : Processor) (now : Instant) :
    ReflTransGen (Books.Step a) p.books (p.statsTick now).books := by
  unfold statsTick
  cases p.diagnostics with
  | none => exact .refl
  | some d =>
    simp only
    split
    · exact .refl
    · next hopen =>
      obtain ⟨hphase, hshut⟩ : p.phase = .running ∧ p.shutDown = false := by simpa using hopen
      exact .single (.reports hshut (by simp [books, hphase]) _)

/-- **Every action makes entries in the books**, and nothing but entries. -/
theorem steps_act (p : Processor) (a : Action) :
    ReflTransGen (Books.Step a) p.books (p.act a).books := by
  cases a with
  | send e => exact steps_send p e
  | requestFlush id =>
    show ReflTransGen (Books.Step _) p.books (p.requestFlush id).books
    unfold requestFlush
    split <;> (try split) <;> exact .refl
  | requestClose =>
    show ReflTransGen (Books.Step _) p.books p.requestClose.books
    unfold requestClose
    split <;> exact .refl
  | giveUp => exact .refl
  | release => exact .refl
  | recordStreamInit attempt => exact .refl
  | receive now drawn => exact steps_receive p now drawn
  | endForsaken =>
    show ReflTransGen (Books.Step _) p.books p.endForsaken.books
    unfold endForsaken
    split
    · -- the end of a released processor is the end of any other
      next hforsaken => exact steps_beginEnd (by simpa using (Bool.and_eq_true_iff.1 hforsaken).1)
    · exact .refl
  | flushTick =>
    show ReflTransGen (Books.Step _) p.books p.flushTick.books
    unfold flushTick
    split
    · exact .refl
    · next hopen =>
      -- the timer flushes a processor that runs and is not shut down
      obtain ⟨hphase, hshut⟩ : p.phase = .running ∧ p.shutDown = false := by simpa using hopen
      exact steps_flush hshut (by simp [hphase]) _
  | contextKeysTick =>
    show ReflTransGen (Books.Step _) p.books p.contextKeysTick.books
    unfold contextKeysTick
    split
    · exact .refl
    · exact .single (.forgets rfl)
  | statsTick now => exact steps_statsTick p now
  | stop =>
    show ReflTransGen (Books.Step _) p.books p.stop.books
    unfold stop
    split
    · next hdone =>
      -- a processor that is through has no delivery pending
      have hidle : p.pending = [] := by
        simp only [isDone, Bool.and_eq_true, List.isEmpty_iff] at hdone
        exact hdone.1.2
      exact .single (.stops hidle)
    · exact .refl
  | begin place => exact steps_begin p place
  | finish place r =>
    show ReflTransGen (Books.Step _) p.books (p.finish place r).books
    rcases books_finish p place r with hsame | hshut
    · rw [hsame]
    · rw [hshut]; exact .single .shutsDown

/-! ## Runs -/

/-- The books of a processor that has done nothing yet. -/
theorem books_start (settings : Settings) (diagnostics : Option Diagnostics) :
    (start settings diagnostics).books =
      { settings, shutDown := false, phase := .running, queue := [], tally := .empty
        met := .ofCapacity settings.contextKeysCapacity, dropped := 0, deduplicated := 0
        pending := diagnostics.toList.map fun d => ⟨.diagnostics, .diagnostics d.initEvent⟩
        processed := [], queued := [], discarded := [], taken := [], handed := []
        refused := [] } := rfl

/-- **What survives every entry of an action survives the action.** -/
theorem books_act {P : Books → Prop} {a : Action} (step : ∀ b c, Books.Step a b c → P b → P c)
    {p : Processor} (hp : P p.books) : P (p.act a).books := by
  have hsteps : ∀ c, ReflTransGen (Books.Step a) p.books c → P c := by
    intro c h
    induction h with
    | refl => exact hp
    | tail _ hstep ih => exact step _ _ hstep ih
  exact hsteps _ (steps_act p a)

/-- **What survives the entries of all actions holds of the books of the run.** -/
theorem books_run {P : Books → Prop} {actions : List Action}
    (step : ∀ a ∈ actions, ∀ b c, Books.Step a b c → P b → P c) {p : Processor} (hp : P p.books) :
    P (p.run actions).books := by
  induction actions generalizing p with
  | nil => exact hp
  | cons a rest ih =>
    have hfirst : P (p.act a).books := books_act (step a (List.mem_cons_self ..)) hp
    exact ih (fun b hb => step b (List.mem_cons_of_mem a hb)) hfirst

end FeatureFlags.Processor

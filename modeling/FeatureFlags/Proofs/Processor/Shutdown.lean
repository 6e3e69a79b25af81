/-
  SHUTDOWN IS PERMANENT AND SILENT.

  The sender's answer that no delivery can ever succeed is taken by one delivery while others are
  pending or underway, messages wait in the inbox, and timers go on.

  1. **Entries (`Books.Silent.step`)** — in the books of a processor that is shut down, no entry
     hands events to the sender, changes queue, tally or counters, or opens the processor again.
     Only the timer of the contexts still forgets whom the processor met.
  2. **Runs (`silent_run`)** — so nothing of the kind happens in any run from there on.
  3. **The answer** — the answer itself shuts the processor down and
     enters nothing else.
-/
import FeatureFlags.Proofs.Processor.Books

namespace FeatureFlags.Processor

/-! ## Entries after the shutdown -/

/-- `Silent ticked b c` — the books `c` come from the books `b` without a word to the sender, and
    without anything that events could change; `ticked` says whether the met contexts may have been
    forgotten. -/
structure Books.Silent (ticked : Prop) (b c : Books) : Prop where
  shutDown : c.shutDown = true
  handed : c.handed.filterMap Payload.events? = b.handed.filterMap Payload.events?
  queue : c.queue = b.queue
  tally : c.tally = b.tally
  met : c.met = b.met ∨ ticked ∧ c.met = b.met.clear
  dropped : c.dropped = b.dropped
  deduplicated : c.deduplicated = b.deduplicated

theorem Books.Silent.refl {ticked : Prop} {b : Books} (h : b.shutDown = true) :
    b.Silent ticked b :=
  ⟨h, rfl, rfl, rfl, .inl rfl, rfl, rfl⟩

/-- **No entry breaks the silence.**  The entries of a processor at work are not made any more. -/
theorem Books.Silent.step {ticked : Prop} {a : Action} {first b c : Books}
    (h : first.Silent ticked b) (timer : a = .contextKeysTick → ticked) (hstep : b.Step a c) :
    first.Silent ticked c := by
  have hshut := h.shutDown
  cases hstep with
  | dropsOut running => exact absurd (hshut.symm.trans running) nofun
  | takesIn running => exact absurd (hshut.symm.trans running) nofun
  | takesOut running => exact absurd (hshut.symm.trans running) nofun
  | reports running => exact absurd (hshut.symm.trans running) nofun
  | forgets tick =>
    -- to forget twice is to forget once
    have hmet : b.met.clear = first.met.clear := by
      rcases h.met with hsame | ⟨-, hcleared⟩
      · rw [hsame]
      · rw [hcleared]; rfl
    exact ⟨hshut, h.handed, h.queue, h.tally, .inr ⟨timer tick, hmet⟩, h.dropped, h.deduplicated⟩
  | begins _ _ allowed =>
    -- only diagnostics may begin, and they carry no events
    have hevents := Payload.events?_of_diagnostics (allowed hshut)
    refine ⟨hshut, ?_, h.queue, h.tally, h.met, h.dropped, h.deduplicated⟩
    rw [List.filterMap_append, h.handed]
    simp [hevents]
  | refuses => exact ⟨hshut, h.handed, h.queue, h.tally, h.met, h.dropped, h.deduplicated⟩
  | shutsDown => exact ⟨rfl, h.handed, h.queue, h.tally, h.met, h.dropped, h.deduplicated⟩
  | ends => exact ⟨hshut, h.handed, h.queue, h.tally, h.met, h.dropped, h.deduplicated⟩
  | stops => exact ⟨hshut, h.handed, h.queue, h.tally, h.met, h.dropped, h.deduplicated⟩

/-! ## Runs after the shutdown -/

/-- By entries: silence is kept by each, and goes on from one to the next. -/
theorem silent_run {p : Processor} (shut : p.shutDown = true) (actions : List Action) :
    p.books.Silent (.contextKeysTick ∈ actions) (p.run actions).books := by
  refine books_run ?_ (Books.Silent.refl shut)
  intro a ha b c hstep hb
  exact hb.step (fun htimer => htimer ▸ ha) hstep

/-- A flush that is asked for after the shutdown is answered at once, and changes nothing. -/
theorem requestFlush_of_shutDown {p : Processor} (shut : p.shutDown = true) (id : Nat) :
    p.requestFlush id = p.reply id (.error .invalidSdkKey) := by
  rw [requestFlush, if_pos shut]

/-! ## The answer that shuts down -/

/-- The answer to one delivery sets the mark of the shutdown, and touches neither queue nor other
    deliveries. -/
theorem books_finish_failedForGood {p : Processor} {place : Nat} {d : Delivery} {r : DeliveryResult}
    (underway : p.underway[place]? = some d) (analytics : d.payload.kind = .analytics)
    (failed : r.status = .failedForGood) :
    (p.finish place r).books = { p.books with shutDown := true } := by
  unfold finish
  rw [underway]
  simp only [analytics, books_conclude, learn, failed]
  rfl

/-- **Shutdown is permanent and silent.**  Once a delivery of events has been answered with a
    failure for good, whatever happens then in whatever order — deliveries that were pending begin,
    others underway are answered, flushes are asked for, messages are received, timers tick, the
    program closes or lets go — the processor stays shut down; no events are handed to the sender
    any more; every flush asked for is answered at once that the key is invalid; and queue, tally,
    met contexts and both counters are as they were before that answer, whatever events were in the
    inbox or are sent later.  Only the timer of the contexts may still forget the met contexts. -/
theorem run_finish_failedForGood (p : Processor) (place : Nat) {d : Delivery} {r : DeliveryResult}
    (underway : p.underway[place]? = some d) (analytics : d.payload.kind = .analytics)
    (failed : r.status = .failedForGood) (actions : List Action) :
    let q := (p.finish place r).run actions
    q.shutDown = true ∧
    q.handedEvents = p.handedEvents ∧
    (∀ id, q.requestFlush id = q.reply id (.error .invalidSdkKey)) ∧
    q.queue = p.queue ∧
    q.tally = p.tally ∧
    (q.met = p.met ∨ .contextKeysTick ∈ actions ∧ q.met = p.met.clear) ∧
    q.dropped = p.dropped ∧
    q.deduplicated = p.deduplicated := by
  intro q
  have hfirst := books_finish_failedForGood underway analytics failed
  have hshut : (p.finish place r).shutDown = true := congrArg Books.shutDown hfirst
  have hsilent := silent_run hshut actions
  rw [hfirst] at hsilent
  exact ⟨hsilent.shutDown, hsilent.handed, requestFlush_of_shutDown hsilent.shutDown, hsilent.queue,
    hsilent.tally, hsilent.met, hsilent.dropped, hsilent.deduplicated⟩

/-! ## An instance -/

/-- An event that announces a user. -/
def userAnnounced (key : String) : InputEvent :=
  .identify ⟨0, .single ⟨Kind.user, key, none, false, none, [], []⟩, none⟩

/-- A processor with one delivery underway, one pending, and an event in its inbox. -/
def busyProcessor : Processor :=
  (start ⟨10, 0, 10, 0, 0, ⟨false, []⟩, 0⟩ none).run
    [.send (userAnnounced "a"), .receive 0 false, .flushTick, .send (userAnnounced "b"),
      .receive 0 false, .requestFlush 0, .receive 0 false, .begin 0, .send (userAnnounced "c")]

theorem run_finish_failedForGood_busyProcessor :
    (∃ d, busyProcessor.underway[0]? = some d ∧ d.payload.kind = .analytics) ∧
    busyProcessor.pending.length = 1 ∧ busyProcessor.inbox.length = 1 ∧
    let q := (busyProcessor.finish 0 ⟨.failedForGood, none, none⟩).run
      [.receive 0 false, .begin 0, .send (userAnnounced "d"), .requestClose, .receive 0 false]
    q.shutDown = true ∧ q.handedEvents = busyProcessor.handedEvents ∧ q.queue = [] := by
  refine ⟨⟨_, rfl, rfl⟩, rfl, rfl, ?_⟩
  have h := run_finish_failedForGood busyProcessor 0 rfl rfl (r := ⟨.failedForGood, none, none⟩) rfl
    [.receive 0 false, .begin 0, .send (userAnnounced "d"), .requestClose, .receive 0 false]
  exact ⟨h.1, h.2.1, h.2.2.2.1⟩

end FeatureFlags.Processor

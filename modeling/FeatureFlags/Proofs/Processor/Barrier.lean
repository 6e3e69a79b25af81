/-
  FLUSH AND CLOSE ARE BARRIERS — nothing that came before a request is left behind it.

  A request for a flush waits in the same inbox as the events, while timers take payloads out and
  deliveries begin and end; when the processor receives it, it must not find an earlier event still
  waiting, and it must not leave an output event for a later payload.

  1. **Shares (`Books.Shared`)** — every event taken in has a share in the books: of the output
     events that it asks for, those kept in the queue and those lost.
  2. **Drained** — a request that is served empties the queue, and changes nothing else about
     events.
  3. **Growth (`Books.Grows`)** — what was queued and taken out stays so, and a later payload holds
     only what was queued later (`later_run`).
  4. **The crux (`Barrier`)** — these three together, for a flush, a close, and a program that lets
     go.
  5. **One last payload** — taking it ends the running phase, so none is taken after it.
  6. **Main result** — barriers, with the laws of answers, and an instance.
-/
import FeatureFlags.Proofs.Processor.Answer
import FeatureFlags.Proofs.Processor.Arrival
import FeatureFlags.Proofs.Processor.Delivery
import FeatureFlags.Proofs.Processor.Shutdown

namespace FeatureFlags.Processor

open Calendar (Instant)

/-! ## Shares -/

/-- What became of the output events that an event asked for. -/
structure Share where
  event : InputEvent
  /-- Those that found room in the queue. -/
  kept : List OutputEvent
  /-- Those that were dropped. -/
  lost : List OutputEvent

/-- `s.Fits r` — a share is all that its event asks for. -/
def Share.Fits (s : Share) (r : Redaction) : Prop :=
  ∃ isNew debugged sampled, s.kept ++ s.lost = s.event.outputs r isNew debugged sampled

/-- `b.Shared shares` — the events taken in have these shares, in order. -/
structure Books.Shared (b : Books) (shares : List Share) : Prop where
  events : shares.map Share.event = b.processed
  fits : ∀ s ∈ shares, s.Fits b.settings.redaction
  kept : shares.flatMap Share.kept = b.queued
  lost : shares.flatMap Share.lost = b.discarded

/-- **Only an event that is taken in adds a share.** -/
theorem Books.Shared.step {a : Action} {b c : Books} (h : ∃ shares, b.Shared shares)
    (hstep : b.Step a c) : ∃ shares, c.Shared shares := by
  obtain ⟨shares, h⟩ := h
  cases hstep with
  | takesIn running e debugged drawn =>
    -- the queue keeps as many outputs as there is room for, and those are the first ones
    let outputs := b.outputs e debugged drawn
    let share : Share := ⟨e, outputs.take b.room, outputs.drop b.room⟩
    refine ⟨shares ++ [share], ?_, ?_, ?_, ?_⟩
    · rw [List.map_append, h.events]
      rfl
    · intro s hs
      rcases List.mem_append.1 hs with hold | hnew
      · exact h.fits s hold
      · rw [List.mem_singleton.1 hnew]
        exact ⟨_, debugged, _, List.take_append_drop b.room outputs⟩
    · rw [List.flatMap_append, h.kept, List.flatMap_singleton]
      rfl
    · rw [List.flatMap_append, h.lost, List.flatMap_singleton]
      rfl
  | _ => exact ⟨shares, h.events, h.fits, h.kept, h.lost⟩

/-- By entries: each event that is taken in brings a share of its own, and no other entry queues or
    drops outputs. -/
theorem shared_run (settings : Settings) (diagnostics : Option Diagnostics)
    (actions : List Action) :
    ∃ shares, ((start settings diagnostics).run actions).books.Shared shares := by
  refine books_run (P := fun b => ∃ shares, b.Shared shares)
    (fun _ _ _ _ hstep hb => Books.Shared.step hb hstep) ⟨[], rfl, ?_, rfl, rfl⟩
  exact fun s hs => absurd hs List.not_mem_nil

/-- **Taking an event in** keeps or loses every output event that it asks for, and counts the lost
    ones. -/
theorem share_process {p : Processor} (running : p.shutDown = false) (now : Instant) (drawn : Bool)
    (e : InputEvent) :
    ∃ share : Share, share.event = e ∧ share.Fits p.settings.redaction ∧
      let q := p.process now drawn e
      q.processed = p.processed ++ [e] ∧ q.queued = p.queued ++ share.kept ∧
      q.queue = p.queue ++ share.kept ∧
      q.discarded = p.discarded ++ share.lost ∧
        q.dropped = p.dropped + .ofNat share.lost.length := by
  have hbooks := books_process running now drawn e
  let outputs := p.books.outputs e (e.isDebugged now p.serverTime) drawn
  refine ⟨⟨e, outputs.take p.books.room, outputs.drop p.books.room⟩, rfl, ?_, ?_, ?_, ?_, ?_, ?_⟩
  · exact ⟨_, _, _, List.take_append_drop p.books.room outputs⟩
  · exact congrArg Books.processed hbooks
  · exact congrArg Books.queued hbooks
  · exact congrArg Books.queue hbooks
  · exact congrArg Books.discarded hbooks
  · exact congrArg Books.dropped hbooks

/-- The event that is received gets the share that the room in the queue leaves it. -/
theorem share_receive {p : Processor} {e : InputEvent} {rest : List Message}
    (running : p.shutDown = false) (hphase : p.phase = .running) (next : p.inbox = .event e :: rest)
    (now : Instant) (drawn : Bool) :
    ∃ share : Share, share.event = e ∧ share.Fits p.settings.redaction ∧
      let q := p.receive now drawn
      q.processed = p.processed ++ [e] ∧ q.queued = p.queued ++ share.kept ∧
      q.queue = p.queue ++ share.kept ∧
      q.discarded = p.discarded ++ share.lost ∧
        q.dropped = p.dropped + .ofNat share.lost.length := by
  rw [receive_cons hphase next]
  exact share_process (p := { p with inbox := rest }) running now drawn e

/-! ## Drained -/

/-- `Drained q r` — from `q` to `r`, the queue was emptied, and no event was taken in, lost or
    dropped. -/
structure Drained (q r : Processor) : Prop where
  queue : r.queue = []
  processed : r.processed = q.processed
  queued : r.queued = q.queued
  discarded : r.discarded = q.discarded
  dropped : r.dropped = q.dropped

variable {q : Processor}

/-- A flush takes the queue with it, or finds it empty. -/
theorem drained_flush (q : Processor) (purpose : Purpose) : Drained q (q.flush purpose) := by
  unfold flush
  split
  · next hempty => exact ⟨(List.append_eq_nil_iff.1 hempty).1, rfl, rfl, rfl, rfl⟩
  · exact ⟨rfl, rfl, rfl, rfl, rfl⟩

theorem drained_flushFor (running : q.shutDown = false) (id : Nat) : Drained q (q.flushFor id) := by
  unfold flushFor
  rw [if_neg (by simp [running])]
  split
  · next hempty => exact ⟨(List.append_eq_nil_iff.1 hempty).1, rfl, rfl, rfl, rfl⟩
  · exact drained_flush q _

/-- So does the end, unless the processor was shut down. -/
theorem drained_beginEnd (running : q.shutDown = false) : Drained q q.beginEnd := by
  unfold beginEnd
  rw [if_neg (by simp [running])]
  have h := drained_flush { q with phase := .finishing } .final
  exact ⟨h.queue, h.processed, h.queued, h.discarded, h.dropped⟩

/-- **A request that is received empties the queue.** -/
theorem drained_receive (running : q.shutDown = false) (hphase : q.phase = .running) {m : Message}
    (next : q.inbox.head? = some m) (request : m.event? = none) (now : Instant) (drawn : Bool) :
    Drained q (q.receive now drawn) := by
  obtain ⟨rest, hinbox⟩ := List.head?_eq_some_iff.1 next
  rw [receive_cons hphase hinbox]
  cases m with
  | event e => cases request
  | flush id =>
    have h := drained_flushFor (q := { q with inbox := rest }) running id
    exact ⟨h.queue, h.processed, h.queued, h.discarded, h.dropped⟩
  | close =>
    have h := drained_beginEnd (q := { q with inbox := rest }) running
    exact ⟨h.queue, h.processed, h.queued, h.discarded, h.dropped⟩

/-! ## Growth -/

/-- `b.Grows c` — the books `c` continue the history of the books `b`. -/
structure Books.Grows (b c : Books) : Prop where
  queued : b.queued <+: c.queued
  taken : b.taken <+: c.taken

/-- Every entry continues the history: it adds to what was queued and taken out, and rewrites none
    of it. -/
theorem Books.Grows.step {a : Action} {first b c : Books} (h : first.Grows b) (hstep : b.Step a c) :
    first.Grows c := by
  cases hstep with
  | takesIn => exact ⟨h.queued.trans (List.prefix_append ..), h.taken⟩
  | takesOut => exact ⟨h.queued, h.taken.trans (List.prefix_append ..)⟩
  | _ => exact ⟨h.queued, h.taken⟩

/-- **What is taken out of an empty queue was queued later.** -/
theorem later_run {r : Processor} (h : r.books.Balanced) (empty : r.queue = [])
    (actions : List Action) :
    ∃ events payloads, (r.run actions).queued = r.queued ++ events ∧
      (r.run actions).taken = r.taken ++ payloads ∧
      payloads.flatten.filter (fun x => !x.isSummary) ++ (r.run actions).queue = events := by
  have hgrows : r.books.Grows (r.run actions).books :=
    books_run (fun _ _ _ _ hstep hb => hb.step hstep) ⟨List.prefix_rfl, List.prefix_rfl⟩
  have hlater : (r.run actions).books.Balanced :=
    books_run (fun _ _ _ _ hstep hb => hb.step hstep) h
  obtain ⟨events, hevents⟩ := hgrows.queued
  obtain ⟨payloads, hpayloads⟩ := hgrows.taken
  refine ⟨events, payloads, hevents.symm, hpayloads.symm, ?_⟩
  -- both balances, of which the earlier one has nothing waiting
  have hall :
      (r.taken ++ payloads).flatten.filter (fun x => !x.isSummary) ++ (r.run actions).queue =
      r.queued ++ events := by
    have hbalance := hlater.events
    rw [← hpayloads, ← hevents] at hbalance
    exact hbalance
  have hfirst : r.taken.flatten.filter (fun x => !x.isSummary) = r.queued := by
    have hbalance : r.taken.flatten.filter (fun x => !x.isSummary) ++ r.queue = r.queued := h.events
    rwa [empty, List.append_nil] at hbalance
  rw [List.flatten_append, List.filter_append, hfirst, List.append_assoc] at hall
  exact List.append_cancel_left hall

/-! ## Barriers -/

/-- **`Barrier p q r`** — a request made in the state `p` is served from `q` to `r`, and everything
    accepted before it is done with. -/
structure Barrier (p q r : Processor) : Prop where
  /-- Every event accepted before the request has been taken in by then. -/
  accepted : p.accepted <+: q.processed
  drained : Drained q r
  /-- Each output event of each event taken in was lost and dropped, or is in a payload taken
      out. -/
  shares : ∃ shares : List Share, shares.map Share.event = r.processed ∧
    (∀ s ∈ shares, s.Fits r.settings.redaction) ∧
    shares.flatMap Share.lost = r.discarded ∧
    r.taken.flatten.filter (fun x => !x.isSummary) = shares.flatMap Share.kept
  /-- Later payloads hold only output events that are queued later. -/
  later : ∀ actions, ∃ events payloads, (r.run actions).queued = r.queued ++ events ∧
    (r.run actions).taken = r.taken ++ payloads ∧
    payloads.flatten.filter (fun x => !x.isSummary) ++ (r.run actions).queue = events

/-- What was accepted before the request is taken in by then, and what it asked for is queued no
    more. -/
theorem barrier_of_drained {p q r : Processor} (accepted : p.accepted <+: q.processed)
    (drained : Drained q r) {settings : Settings} {diagnostics : Option Diagnostics}
    {actions : List Action} (hr : r = (start settings diagnostics).run actions) :
    Barrier p q r := by
  have hbalanced : r.books.Balanced := hr ▸ balanced_run settings diagnostics actions
  obtain ⟨shares, hshares⟩ : ∃ shares, r.books.Shared shares :=
    hr ▸ shared_run settings diagnostics actions
  refine ⟨accepted, drained, ⟨shares, hshares.events, hshares.fits, hshares.lost, ?_⟩,
    later_run hbalanced drained.queue⟩
  have hevents : r.taken.flatten.filter (fun x => !x.isSummary) ++ r.queue = r.queued :=
    hbalanced.events
  rw [drained.queue, List.append_nil] at hevents
  exact hevents.trans hshares.kept.symm

section Requests

variable {settings : Settings} {diagnostics : Option Diagnostics} {before between : List Action}

/-- A run up to a request, on to its answer, and the answer itself. -/
theorem run_interleaved (p : Processor) (before between : List Action) (asked answered : Action) :
    p.run (before ++ asked :: between ++ [answered]) =
      (((p.run before).act asked).run between).act answered := by
  simp only [run_append, run_cons, run_nil]

/-- **A request is a barrier**, whatever happens between its making and its receipt. -/
theorem barrier_receive (asked : Action) {m : Message} (hasked : asked.message? = some m)
    (request : m.event? = none) :
    let p := (start settings diagnostics).run before
    let q := (p.act asked).run between
    m ∉ p.inbox → (∀ a ∈ between, a.message? = some m → (p.act asked).closed = true) →
    q.shutDown = false → q.phase = .running → q.inbox.head? = some m →
    ∀ now drawn, Barrier p q (q.receive now drawn) := by
  intro p q hnew hagain hrunning hphase hnext now drawn
  have hawaits : q.Awaits m p.accepted := (Awaits.of_asked hasked hnew).run hrunning hagain
  have haccepted : p.accepted <+: q.processed := processed_of_awaits hawaits hnext ▸ List.prefix_rfl
  have hr : q.receive now drawn =
      (start settings diagnostics).run (before ++ asked :: between ++ [.receive now drawn]) :=
    (run_interleaved _ before between asked (.receive now drawn)).symm
  exact barrier_of_drained haccepted (drained_receive hrunning hphase hnext request now drawn) hr

/-- **A flush is a barrier.**  Its number tells it from all others. -/
theorem barrier_requestFlush (id : Nat) :
    let p := (start settings diagnostics).run before
    let q := (p.requestFlush id).run between
    .flush id ∉ p.inbox → .requestFlush id ∉ between →
    q.shutDown = false → q.phase = .running → q.inbox.head? = some (.flush id) →
    ∀ now drawn, Barrier p q (q.receive now drawn) := by
  intro p q hnew honce
  refine barrier_receive (.requestFlush id) rfl rfl hnew fun a ha hasked => ?_
  cases a <;> cases hasked
  exact absurd ha honce

/-- **Closing is a barrier.** -/
theorem barrier_requestClose :
    let p := (start settings diagnostics).run before
    let q := p.requestClose.run between
    p.closed = false → q.shutDown = false → q.phase = .running → q.inbox.head? = some .close →
    ∀ now drawn, Barrier p q (q.receive now drawn) := by
  intro p q hopen
  have hends : p.Ends := ends_run settings diagnostics before
  -- only a closed processor has been asked to end, and this one is open
  have hnew : .close ∉ p.inbox :=
    fun hclose => Bool.false_ne_true (hopen.symm.trans (hends.asked hclose))
  have hclosed : (p.act .requestClose).closed = true := by
    show p.requestClose.closed = true
    unfold requestClose
    rw [hopen]
    rfl
  exact barrier_receive .requestClose rfl rfl hnew fun _ _ _ => hclosed

/-- **The end of a processor that its program has let go of is a barrier.** -/
theorem barrier_endForsaken :
    let p := (start settings diagnostics).run before
    let q := p.release.run between
    q.shutDown = false → q.phase = .running → q.isForsaken = true → Barrier p q q.endForsaken := by
  intro p q hrunning hphase hforsaken
  have hinbox : q.inbox = [] := by
    simp only [isForsaken, Bool.and_eq_true, decide_eq_true_eq] at hforsaken
    exact hforsaken.1.2
  -- a released processor ends when its inbox is empty, so whatever was accepted is taken in by then
  have haccepted : p.accepted <+: q.processed := by
    have hall : p.release.accepted <+: q.accepted := accepted_prefix_run hrunning hphase
    have hwaiting : q.accepted = q.processed := by
      rw [accepted, hinbox]
      exact List.append_nil _
    exact hwaiting ▸ hall
  have hend : q.endForsaken = q.beginEnd := by
    unfold endForsaken
    rw [hforsaken, hphase]
    rfl
  have hr : q.endForsaken =
      (start settings diagnostics).run (before ++ .release :: between ++ [.endForsaken]) :=
    (run_interleaved _ before between .release .endForsaken).symm
  exact barrier_of_drained haccepted (hend ▸ drained_beginEnd hrunning) hr

end Requests

/-! ## One last payload -/

variable {p : Processor} {a : Action}

/-- `p.TakesLast a` — the action `a` takes the last payload, that of the end. -/
def TakesLast (p : Processor) (a : Action) : Prop :=
  ∃ payload, (p.act a).pending = p.pending ++ [⟨.final, payload⟩]

/-- Only the end takes the last payload. -/
theorem phase_of_takesLast (h : p.TakesLast a) :
    p.phase = .running ∧ (p.act a).phase = .finishing := by
  obtain ⟨payload, hpending⟩ := h
  have hturn : ∀ t, Turn p a t → t.pending = p.pending ++ [⟨.final, payload⟩] →
      p.phase = .running ∧ t.phase = .finishing := by
    intro t ht hlast
    have hlength : t.pending.length = p.pending.length + 1 := by rw [hlast, List.length_append]; rfl
    cases ht with
    | flushes id rest next taken running nonempty =>
      -- a payload of this purpose is not the last one
      have hsame := List.append_cancel_left hlast
      cases hsame
    | ends rest running reason => exact ⟨running, rfl⟩
    | schedules d running purpose =>
      obtain rfl : d = ⟨.final, payload⟩ := List.cons.inj (List.append_cancel_left hlast) |>.1
      rcases purpose with h | h <;> cases h
    | @begins place d here waiting =>
      -- the pending deliveries only become fewer
      have hshorter : (p.pending.eraseIdx place).length ≤ p.pending.length :=
        List.length_eraseIdx_le ..
      simp only at hlength
      omega
    | @refuses place d here waiting =>
      have hshorter : (p.pending.eraseIdx place).length ≤ p.pending.length :=
        List.length_eraseIdx_le ..
      simp only at hlength
      omega
    | _ => exact absurd hlength (Nat.ne_of_lt (Nat.lt_succ_self _))
  exact hturn _ (turn_act p a) hpending

/-- **At most one last payload is taken**, however often the end is asked for. -/
theorem not_takesLast_run (h : p.TakesLast a) (between : List Action) (b : Action) :
    ¬ ((p.act a).run between).TakesLast b := by
  intro hagain
  have hrunning : ((p.act a).run between).phase = .running := (phase_of_takesLast hagain).1
  have hphase : (p.act a).phase = .running := running_of_run hrunning
  exact absurd (hphase.symm.trans (phase_of_takesLast h).2) nofun

/-! ## After closing -/

theorem requestClose_of_closed (h : p.closed = true) : p.requestClose = p := if_pos h

theorem send_of_closed (h : p.closed = true) (e : InputEvent) : p.send e = p := by
  unfold send
  rw [h]
  rfl

/-! ## Main result -/

/-- **Flush and close are barriers, and the outcome of a flush is its own.**  In every state `p` of
    every run:

    - when a flush, a close or the end after letting go is served that was asked for in `p`, before
      a shutdown, everything accepted before it is done with, as `Barrier` says — whatever happens
      in between, in whatever order;
    - an event that is received keeps a place in the queue for each of its output events, or loses
      it and counts it as dropped;
    - whatever happens, a flush is answered in the ways of `Answers` only: that the key is invalid
      after a shutdown, that the processor is closed after it is closed or let go of, that all is
      well if there was nothing to send, or else the outcome of its own delivery;
    - before a shutdown, a flush that is received is told that all is well if there is nothing to
      send, and otherwise waits for the delivery of what there is;
    - the end of a delivery is told to the flush that waits for it, if one does, and to no other;
    - a delivery for which a flush waits carries the payload that was taken when that flush was
      received;
    - every flush that was asked for is answered, or waits for its answer, once;
    - letting go without closing leaves no flush to be told that the processor is closed;
    - at most one last payload is taken, and closing once more does nothing;
    - once the processor is closed, a sent event changes nothing, and only what was accepted before
      is still taken in. -/
theorem run_flush_barrier (settings : Settings) (diagnostics : Option Diagnostics)
    (before : List Action) :
    let s := start settings diagnostics
    let p := s.run before
    (∀ id between now drawn, .flush id ∉ p.inbox → .requestFlush id ∉ between →
      let q := (p.requestFlush id).run between
      q.shutDown = false → q.phase = .running → q.inbox.head? = some (.flush id) →
        Barrier p q (q.receive now drawn)) ∧
    (∀ between now drawn, p.closed = false →
      let q := p.requestClose.run between
      q.shutDown = false → q.phase = .running → q.inbox.head? = some .close →
        Barrier p q (q.receive now drawn)) ∧
    (∀ between,
      let q := p.release.run between
      q.shutDown = false → q.phase = .running → q.isForsaken = true → Barrier p q q.endForsaken) ∧
    (∀ e rest now drawn, p.shutDown = false → p.phase = .running → p.inbox = .event e :: rest →
      let q := p.receive now drawn
      ∃ share : Share, share.event = e ∧ share.Fits p.settings.redaction ∧
        q.processed = p.processed ++ [e] ∧ q.queued = p.queued ++ share.kept ∧
        q.queue = p.queue ++ share.kept ∧
        q.discarded = p.discarded ++ share.lost ∧
          q.dropped = p.dropped + .ofNat share.lost.length) ∧
    (∀ a, ∃ new, (p.act a).replies = p.replies ++ new ∧ ∀ x ∈ new, p.Answers a x.1 x.2) ∧
    (∀ id rest now drawn, p.phase = .running → p.shutDown = false → p.inbox = .flush id :: rest →
      let q := p.receive now drawn
      (p.payload = [] → q.replies = p.replies ++ [(id, .ok ())] ∧ q.pending = p.pending) ∧
      (p.payload ≠ [] → q.replies = p.replies ∧
        q.pending = p.pending ++ [⟨.flush id, .analytics p.payload⟩])) ∧
    (∀ place d, p.underway[place]? = some d → ∀ r,
      (p.finish place r).replies = p.replies ++ d.answer r) ∧
    (∀ d ∈ p.pending ++ p.underway, ∀ id, d.purpose = .flush id → PayloadOf s before id d.payload) ∧
    (∀ id, p.traffic.count id = before.countP fun a => a.message? = some (.flush id)) ∧
    (AsksNoMore s before → p.phase ≠ .running → p.closed = false → p.inbox = []) ∧
    (∀ a, p.TakesLast a → ∀ between b, ¬ ((p.act a).run between).TakesLast b) ∧
    (p.closed = true → p.requestClose = p) ∧
    (p.closed = true → (∀ e, p.send e = p) ∧
      ∀ later, (p.run later).processed.Sublist p.accepted) := by
  intro s p
  have hends : p.Ends := ends_run settings diagnostics before
  have hfresh : ∀ d ∈ s.pending ++ s.underway, d.purpose.flush? = none :=
    fresh_start settings diagnostics
  exact ⟨fun id between now drawn hnew honce hrunning hphase hnext =>
      barrier_requestFlush id hnew honce hrunning hphase hnext now drawn,
    fun between now drawn hopen hrunning hphase hnext =>
      barrier_requestClose hopen hrunning hphase hnext now drawn,
    fun between => barrier_endForsaken,
    fun e rest now drawn hrunning hphase hnext => share_receive hrunning hphase hnext now drawn,
    fun a => answers_of_mem_replies hends,
    fun id rest now drawn hphase hrunning hnext => receive_flush hphase hrunning hnext now drawn,
    fun place d h r => replies_finish h r,
    payloadOf_run hfresh before,
    count_of_start settings diagnostics before,
    inbox_of_released settings diagnostics,
    fun a h => not_takesLast_run h,
    requestClose_of_closed,
    fun hclosed => ⟨send_of_closed hclosed, processed_sublist_run hclosed⟩⟩

/-- Settings of a processor in which two output events fit into the queue. -/
def narrowSettings : Settings := ⟨2, 0, 10, 0, 0, ⟨false, []⟩, 0⟩

/-- One event is taken out by the timer, and another one waits in the inbox. -/
def beforeFlush : List Action :=
  [.send (userAnnounced "a"), .receive 0 false, .flushTick, .send (userAnnounced "b")]

/-- While a flush waits, a later event joins, the delivery of the timer fails, and the event ahead
    of the flush is received. -/
def whileFlushWaits : List Action :=
  [.send (userAnnounced "c"), .begin 0, .receive 0 false, .finish 0 ⟨.failed, none, none⟩]

/-- The event ahead of the flush is in the flush's own payload, and the failure is told to
    nobody. -/
theorem run_flush_barrier_overtaken :
    let p := (start narrowSettings none).run beforeFlush
    let q := (p.requestFlush 7).run whileFlushWaits
    p.accepted = [userAnnounced "a", userAnnounced "b"] ∧ q.inbox.head? = some (.flush 7) ∧
    q.replies = [] ∧ Barrier p q (q.receive 0 false) := by
  intro p q
  have hnew : .flush 7 ∉ p.inbox := by
    show Message.flush 7 ∉ [Message.event (userAnnounced "b")]
    simp
  have honce : .requestFlush 7 ∉ whileFlushWaits := by simp [whileFlushWaits]
  exact ⟨rfl, rfl, rfl,
    (run_flush_barrier narrowSettings none beforeFlush).1 7 whileFlushWaits 0 false
    hnew honce rfl rfl rfl⟩

end FeatureFlags.Processor

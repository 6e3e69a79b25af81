/-
  DELIVERY OF QUEUED EVENTS — none lost, none twice.

  Flushes come from requests, from a timer, from closing and from letting go; several deliveries can
  be underway at once, and events are taken in all the while.

  1. **No summary in the queue** — `isSummary_of_mem_outputs`: summaries join a payload only when it
     is taken out.
  2. **Balance (`Books.Balanced`)** — what was taken out and what still waits make up what was
     queued, in order; and every payload taken out is in exactly one of three places: handed to the
     sender, not begun, or refused after the shutdown.  `Books.Balanced.step` keeps it entry by
     entry.
  3. **Main result** — the balance of every run, with what the beginning and the
     answer of a delivery do to it.
-/
import FeatureFlags.Proofs.Processor.Books
import Mathlib.Data.List.Perm.Basic

namespace FeatureFlags

/-- Every output event of an input event is an event of its own and no summary. -/
theorem InputEvent.isSummary_of_mem_outputs {e : InputEvent} {r : Redaction}
    {isNew debugged sampled : Bool} {x : OutputEvent} (h : x ∈ e.outputs r isNew debugged sampled) :
    x.isSummary = false := by
  rcases List.mem_append.1 h with h | h
  · cases e <;> cases isNew <;> simp [announcement] at h <;> rw [h] <;> rfl
  · cases sampled with
    | false => cases h
    | true =>
      cases e with
      | feature f =>
        rcases List.mem_append.1 h with h | h
        · split at h
          · rw [List.mem_singleton.1 h]; rfl
          · cases h
        · split at h
          · rw [List.mem_singleton.1 h]; rfl
          · cases h
      | identify i => rw [List.mem_singleton.1 h]; rfl
      | custom c => rw [List.mem_singleton.1 h]; rfl
      | migration m => rw [List.mem_singleton.1 h]; rfl

namespace Processor

/-! ## The balance -/

/-- `b.Balanced` — nothing that was queued is lost, and nothing that was taken out is handed over
    twice. -/
structure Books.Balanced (b : Books) : Prop where
  plain : ∀ x ∈ b.queued, x.isSummary = false
  events : b.taken.flatten.filter (fun x => !x.isSummary) ++ b.queue = b.queued
  payloads : (b.handed.filterMap Payload.events? ++
    b.pending.filterMap (fun d => d.payload.events?) ++
    b.refused.filterMap Payload.events?).Perm b.taken
  refused : b.refused ≠ [] → b.shutDown = true
  stopped : b.phase = .stopped → b.pending = []

theorem Books.Balanced.start (settings : Settings) (diagnostics : Option Diagnostics) :
    (start settings diagnostics).books.Balanced := by
  rw [books_start]
  refine ⟨fun x hx => absurd hx List.not_mem_nil, rfl, ?_,
    fun h => absurd rfl h, fun h => nomatch h⟩
  cases diagnostics <;> simp [Payload.events?]

/-- The queue holds no summary either. -/
theorem Books.Balanced.plain_queue {b : Books} (h : b.Balanced) {x : OutputEvent}
    (hx : x ∈ b.queue) :
    x.isSummary = false :=
  h.plain x (h.events ▸ List.mem_append_right _ hx)

/-- Without its summary, a payload is the queue. -/
theorem Books.Balanced.filter_payload {b : Books} (h : b.Balanced) :
    b.payload.filter (fun x => !x.isSummary) = b.queue := by
  have hqueue : b.queue.filter (fun x => !x.isSummary) = b.queue :=
    List.filter_eq_self.2 fun x hx => by rw [h.plain_queue hx]; rfl
  unfold Books.payload
  rw [List.filter_append, hqueue]
  cases b.tally.summary? <;> simp [OutputEvent.isSummary]

/-- One more item of a list adds what it stands for at the end. -/
theorem filterMap_concat {α β : Type} (f : α → Option β) (items : List α) (x : α) :
    (items ++ [x]).filterMap f = items.filterMap f ++ (f x).toList := by
  rw [List.filterMap_append, List.filterMap_eq_flatMap_toList f [x], List.flatMap_singleton]

/-- Items go from before the second of three lists to behind the third. -/
theorem perm_behind_last {α : Type} (first second third items : List α) :
    (first ++ second ++ (third ++ items)).Perm (first ++ (items ++ second) ++ third) := by
  have hmove : (second ++ (third ++ items)).Perm (items ++ (second ++ third)) := by
    rw [← List.append_assoc]
    exact List.perm_append_comm
  rw [List.append_assoc, List.append_assoc, List.append_assoc]
  exact hmove.append_left first

/-- Taking a delivery from its place leaves the others. -/
theorem pending_perm {pending : List Delivery} {place : Nat} {d : Delivery}
    (waiting : pending[place]? = some d) :
    (pending.filterMap fun d => d.payload.events?).Perm
      (d.payload.events?.toList ++
        (pending.eraseIdx place).filterMap fun d => d.payload.events?) := by
  obtain ⟨hlt, hget⟩ := List.getElem?_eq_some_iff.1 waiting
  have hperm : (d :: pending.eraseIdx place).Perm pending :=
    hget ▸ List.getElem_cons_eraseIdx_perm hlt
  have hmap := hperm.symm.filterMap fun d => d.payload.events?
  rw [List.filterMap_cons] at hmap
  cases hevents : d.payload.events? with
  | none => rwa [hevents] at hmap
  | some events => rwa [hevents] at hmap

/-- **Every entry keeps the balance.** -/
theorem Books.Balanced.step {a : Action} {b c : Books} (h : b.Balanced) (hstep : b.Step a c) :
    c.Balanced := by
  cases hstep with
  | dropsOut => exact ⟨h.plain, h.events, h.payloads, h.refused, h.stopped⟩
  | forgets => exact ⟨h.plain, h.events, h.payloads, h.refused, h.stopped⟩
  | shutsDown => exact ⟨h.plain, h.events, h.payloads, fun _ => rfl, h.stopped⟩
  | ends => exact ⟨h.plain, h.events, h.payloads, h.refused, nofun⟩
  | stops idle => exact ⟨h.plain, h.events, h.payloads, h.refused, fun _ => idle⟩
  | takesIn running e debugged drawn =>
    refine ⟨?_, ?_, h.payloads, h.refused, h.stopped⟩
    · intro x hx
      rcases List.mem_append.1 hx with hold | hnew
      · exact h.plain x hold
      · exact InputEvent.isSummary_of_mem_outputs (List.mem_of_mem_take hnew)
    · show b.taken.flatten.filter _ ++ (b.queue ++ _) = b.queued ++ _
      rw [← List.append_assoc, h.events]
  | takesOut running live purpose nonempty =>
    refine ⟨h.plain, ?_, ?_, h.refused, fun hstopped => absurd hstopped live⟩
    · show (b.taken ++ [b.payload]).flatten.filter _ ++ [] = b.queued
      rw [List.flatten_append, List.filter_append, List.flatten_singleton, h.filter_payload,
        List.append_nil, h.events]
    · -- the payload stands behind the pending ones, and before the refused ones
      show (_ ++ (b.pending ++ [_]).filterMap _ ++ _).Perm (b.taken ++ [b.payload])
      rw [filterMap_concat]
      refine .trans ?_ (h.payloads.append_right [b.payload])
      simp only [List.append_assoc]
      exact (List.perm_append_comm.append_left _).append_left _
  | reports running live event =>
    refine ⟨h.plain, h.events, ?_, h.refused, fun hstopped => absurd hstopped live⟩
    show (_ ++ (b.pending ++ [_]).filterMap _ ++ _).Perm b.taken
    rw [filterMap_concat]
    simpa [Payload.events?] using h.payloads
  | begins here waiting allowed =>
    refine ⟨h.plain, h.events, ?_, h.refused, fun hstopped => ?_⟩
    · refine .trans ?_ h.payloads
      refine .append_right _ ?_
      show ((_ ++ [_]).filterMap _ ++ _).Perm _
      rw [filterMap_concat, List.append_assoc]
      exact ((pending_perm waiting).append_left _).symm
    · rw [h.stopped hstopped] at waiting
      cases waiting
  | refuses here waiting shut analytics =>
    refine ⟨h.plain, h.events, ?_, fun _ => shut, fun hstopped => ?_⟩
    · refine .trans ?_ h.payloads
      refine .trans ?_ (((pending_perm waiting).append_left _).append_right _).symm
      show (_ ++ (b.pending.eraseIdx _).filterMap _ ++ (_ ++ [_]).filterMap _).Perm _
      rw [filterMap_concat]
      exact perm_behind_last _ _ _ _
    · rw [h.stopped hstopped] at waiting
      cases waiting

/-- By entries, from books in which nothing was queued. -/
theorem balanced_run (settings : Settings) (diagnostics : Option Diagnostics)
    (actions : List Action) :
    ((start settings diagnostics).run actions).books.Balanced :=
  books_run (fun _ _ _ _ hstep hb => hb.step hstep) (.start settings diagnostics)

/-! ## What deliveries do to the balance -/

/-- A delivery of events that begins moves its payload to those handed over or, after a shutdown, to
    those refused. -/
theorem payloads_begin {p : Processor} {place : Nat} {d : Delivery} {events : List OutputEvent}
    (waiting : p.pending[place]? = some d) (hpayload : d.payload = .analytics events) :
    (p.begin place).handedEvents =
      (if p.shutDown then p.handedEvents else p.handedEvents ++ [events]) ∧
    (p.begin place).refusedEvents =
      (if p.shutDown then p.refusedEvents ++ [events] else p.refusedEvents) := by
  have hbooks := books_begin waiting
  have hevents : d.payload.events?.toList = [events] := by rw [hpayload]; rfl
  have hanalytics : d.payload.kind = .analytics := by rw [hpayload]; rfl
  cases hshut : p.shutDown with
  | true =>
    -- after a shutdown the payload is refused
    rw [if_pos ⟨hshut, hanalytics⟩] at hbooks
    have hhanded : (p.begin place).handed = p.handed := congrArg Books.handed hbooks
    have hrefused : (p.begin place).refused = p.refused ++ [d.payload] :=
      congrArg Books.refused hbooks
    rw [handedEvents, refusedEvents, hhanded, hrefused, filterMap_concat, hevents]
    exact ⟨rfl, rfl⟩
  | false =>
    -- else it is handed to the sender
    rw [if_neg fun h => Bool.false_ne_true (hshut.symm.trans h.1)] at hbooks
    have hhanded : (p.begin place).handed = p.handed ++ [d.payload] :=
      congrArg Books.handed hbooks
    have hrefused : (p.begin place).refused = p.refused := congrArg Books.refused hbooks
    rw [handedEvents, refusedEvents, hhanded, hrefused, filterMap_concat, hevents]
    exact ⟨rfl, rfl⟩

/-- Only the beginning of a delivery hands a payload over or refuses it. -/
theorem payloads_act {p : Processor} {a : Action} (other : ∀ place, a ≠ .begin place) :
    (p.act a).handed = p.handed ∧ (p.act a).refused = p.refused := by
  refine books_act (P := fun b => b.handed = p.handed ∧ b.refused = p.refused) ?_ ⟨rfl, rfl⟩
  intro b c hstep hb
  cases hstep with
  | begins here => exact absurd here (other _)
  | refuses here => exact absurd here (other _)
  | dropsOut => exact hb
  | takesIn => exact hb
  | takesOut => exact hb
  | reports => exact hb
  | forgets => exact hb
  | shutsDown => exact hb
  | ends => exact hb
  | stops => exact hb

/-! ## Main result -/

/-- **Queued events are delivered, none lost and none twice.**  At every moment of every run:

    - the payloads taken out so far, without their summaries, followed by the queue, are the output
      events that found room in the queue, in order and each once;
    - every payload taken out is in exactly one place: handed to the sender, not begun, or refused;
    - a delivery that begins hands its payload over, unless the processor is shut down by then, and
      nothing else hands a payload over or refuses one, so that nothing is refused before a
      shutdown;
    - once the processor has stopped, every delivery has begun;
    - the end of a delivery, failed or not, puts nothing back and takes nothing away. -/
theorem run_delivers_queued (settings : Settings) (diagnostics : Option Diagnostics)
    (actions : List Action) :
    let p := (start settings diagnostics).run actions
    p.taken.flatten.filter (fun x => !x.isSummary) ++ p.queue = p.queued ∧
    (p.handedEvents ++ p.pendingEvents ++ p.refusedEvents).Perm p.taken ∧
    (∀ place d events, p.pending[place]? = some d → d.payload = .analytics events →
      (p.begin place).handedEvents =
        (if p.shutDown then p.handedEvents else p.handedEvents ++ [events]) ∧
      (p.begin place).refusedEvents =
        (if p.shutDown then p.refusedEvents ++ [events] else p.refusedEvents)) ∧
    (∀ a, (∀ place, a ≠ .begin place) →
      (p.act a).handed = p.handed ∧ (p.act a).refused = p.refused) ∧
    (p.shutDown = false → p.refused = []) ∧
    (p.phase = .stopped → p.pending = []) ∧
    (∀ place r, let q := p.finish place r
      q.queue = p.queue ∧ q.tally = p.tally ∧ q.queued = p.queued ∧ q.taken = p.taken ∧
        q.pending = p.pending) := by
  intro p
  have h : p.books.Balanced := balanced_run settings diagnostics actions
  refine ⟨h.events, h.payloads, fun place d events => payloads_begin, fun a => payloads_act, ?_,
    h.stopped, fun place r => ?_⟩
  · -- a payload is refused only by a processor that is shut down
    intro hrunning
    by_contra hne
    exact Bool.false_ne_true (hrunning.symm.trans (h.refused hne))
  · -- the end of a delivery at most marks the shutdown
    rcases books_finish p place r with hsame | hshut
    · exact ⟨congrArg Books.queue hsame, congrArg Books.tally hsame, congrArg Books.queued hsame,
        congrArg Books.taken hsame, congrArg Books.pending hsame⟩
    · exact ⟨congrArg Books.queue hshut, congrArg Books.tally hshut, congrArg Books.queued hshut,
        congrArg Books.taken hshut, congrArg Books.pending hshut⟩

end Processor

end FeatureFlags

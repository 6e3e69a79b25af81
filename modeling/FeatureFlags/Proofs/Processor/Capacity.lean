/-
  THE CAPACITY OF A PROCESSOR — what waits, and what is sent at once, is bounded.

  One event can ask for several output events while the queue has room for fewer, and flushes come
  at any time.

  1. **One output event** — `queue_enqueue` and `dropped_enqueue`: what is added to the queue is not
     dropped, and what is dropped is not added, whatever the state.
  2. **Payloads (`Packed`)** — events without a summary, as many as the queue holds, and then a
     summary or none.
  3. **Bounds (`Books.Bounded`)** — the queue is within the capacity, and all that was taken out was
     packed.  Every entry in the books keeps that.
  4. **Main result** — the bounds of every run, and what they say of the payloads that are handed to
     the sender.
-/
import FeatureFlags.Proofs.Processor.Delivery

namespace FeatureFlags.Processor

/-! ## One output event -/

/-- An output event is added at the end, if there is room. -/
theorem queue_enqueue (p : Processor) (x : OutputEvent) :
    (p.enqueue x).queue =
      if p.queue.length < p.settings.capacity then p.queue ++ [x] else p.queue := by
  unfold enqueue drop
  split
  · next hfull =>
    rw [if_neg (Nat.not_lt.2 hfull)]
    split <;> rfl
  · next hroom => rw [if_pos (Nat.lt_of_not_le hroom)]

/-- It is counted as dropped exactly if it was not added. -/
theorem dropped_enqueue (p : Processor) (x : OutputEvent) :
    (p.enqueue x).dropped =
      if p.queue.length < p.settings.capacity then p.dropped else p.dropped + 1 := by
  unfold enqueue drop
  split
  · next hfull => rw [if_neg (Nat.not_lt.2 hfull)]
  · next hroom => rw [if_pos (Nat.lt_of_not_le hroom)]

/-! ## Payloads -/

/-- **`Packed capacity payload`** — at most so many events, none of them a summary, then one summary
    or none; and not nothing at all. -/
def Packed (capacity : Nat) (payload : List OutputEvent) : Prop :=
  ∃ (events : List OutputEvent) (summary : Option SummaryOutput),
    payload = events ++ summary.toList.map OutputEvent.summary ∧ events.length ≤ capacity ∧
      (∀ x ∈ events, x.isSummary = false) ∧ payload ≠ []

namespace Packed

variable {capacity : Nat} {payload : List OutputEvent}

theorem ne_nil (h : Packed capacity payload) : payload ≠ [] := by
  obtain ⟨-, -, -, -, -, hsome⟩ := h
  exact hsome

/-- A summary is the one event beyond the capacity. -/
theorem length_le (h : Packed capacity payload) : payload.length ≤ capacity + 1 := by
  obtain ⟨events, summary, rfl, hlength, -, -⟩ := h
  have hone : summary.toList.length ≤ 1 := by cases summary <;> simp
  rw [List.length_append, List.length_map]
  omega

/-- Only the last event can be a summary. -/
theorem plain_dropLast (h : Packed capacity payload) :
    ∀ x ∈ payload.dropLast, x.isSummary = false := by
  obtain ⟨events, summary, rfl, -, hplain, -⟩ := h
  intro x hx
  cases summary with
  | none => exact hplain x (List.dropLast_subset _ (by simpa using hx))
  | some s => exact hplain x (by simpa using hx)

/-- Where nothing can wait, a summary is all that is sent. -/
theorem eq_summary (h : Packed 0 payload) : ∃ s, payload = [.summary s] := by
  obtain ⟨events, summary, rfl, hlength, -, hsome⟩ := h
  obtain rfl : events = [] := List.eq_nil_of_length_eq_zero (Nat.le_zero.1 hlength)
  cases summary with
  | none => exact absurd rfl hsome
  | some s => exact ⟨s, rfl⟩

end Packed

/-! ## Bounds -/

/-- **`b.Bounded settings`** — under these settings the queue is never longer than the capacity, and
    whatever was taken out was packed from such a queue. -/
structure Books.Bounded (settings : Settings) (b : Books) : Prop where
  under : b.settings = settings
  queue : b.queue.length ≤ settings.capacity
  taken : ∀ payload ∈ b.taken, Packed settings.capacity payload

variable {settings : Settings}

theorem Books.Bounded.start (settings : Settings) (diagnostics : Option Diagnostics) :
    (start settings diagnostics).books.Bounded settings :=
  ⟨rfl, Nat.zero_le _, fun _ h => absurd h List.not_mem_nil⟩

/-- However many output events are offered, the queue takes those that fit. -/
theorem Books.length_queue_offer {b : Books} (h : b.queue.length ≤ b.settings.capacity)
    (outputs : List OutputEvent) :
    (b.offer outputs).queue.length ≤ b.settings.capacity := by
  show (b.queue ++ outputs.take b.room).length ≤ _
  rw [List.length_append, List.length_take, room]
  omega

/-- What a flush takes out is packed. -/
theorem Books.Bounded.packed_payload {b : Books} (h : b.Bounded settings) (hb : b.Balanced)
    (hsome : b.payload ≠ []) :
    Packed settings.capacity b.payload :=
  ⟨b.queue, b.tally.summary?, rfl, h.queue, fun _ hx => hb.plain_queue hx, hsome⟩

/-- **Every entry keeps the bounds.** -/
theorem Books.Bounded.step {a : Action} {b c : Books} (h : b.Bounded settings) (hb : b.Balanced)
    (hstep : b.Step a c) :
    c.Bounded settings := by
  cases hstep with
  | takesIn running e debugged drawn =>
    obtain ⟨rfl, hqueue, htaken⟩ := h
    exact ⟨rfl, length_queue_offer (b := b.record e) hqueue _, htaken⟩
  | takesOut running live purpose nonempty =>
    refine ⟨h.under, Nat.zero_le _, fun payload hpayload => ?_⟩
    rcases List.mem_append.1 hpayload with hold | hnew
    · exact h.taken payload hold
    · rw [List.mem_singleton.1 hnew]
      exact h.packed_payload hb nonempty
  | _ => exact ⟨h.under, h.queue, h.taken⟩

/-- **Every run keeps the bounds**, together with the balance of what was queued. -/
theorem bounded_run (settings : Settings) (diagnostics : Option Diagnostics)
    (actions : List Action) :
    ((start settings diagnostics).run actions).books.Balanced ∧
      ((start settings diagnostics).run actions).books.Bounded settings := by
  refine books_run (P := fun b => b.Balanced ∧ b.Bounded settings) ?_
    ⟨.start settings diagnostics, .start settings diagnostics⟩
  rintro a - b c hstep ⟨hb, h⟩
  exact ⟨hb.step hstep, h.step hb hstep⟩

/-- Queueing output events one after the other keeps the bounds. -/
theorem Books.Bounded.foldl_enqueue {p : Processor} (h : p.books.Bounded settings)
    (outputs : List OutputEvent) :
    (outputs.foldl enqueue p).books.Bounded settings := by
  obtain ⟨rfl, hqueue, htaken⟩ := h
  rw [books_foldl_enqueue]
  exact ⟨rfl, length_queue_offer hqueue outputs, htaken⟩

/-! ## Main result -/

/-- **Nothing grows beyond the capacity.**  At every moment of every run:

    - no more output events wait in the queue than the capacity;
    - nor do they while the output events of an event are queued, and then one more output event is
      dropped and counted once if the queue is full, and put at its end if not, and nothing else
      happens to queue and counter;
    - each payload of events that was handed to the sender has at least one event, and at most one
      more than the capacity; only the last one of them can be a summary;
    - with a capacity of 0, each of them is one summary and nothing else. -/
theorem run_within_capacity (settings : Settings) (diagnostics : Option Diagnostics)
    (actions : List Action) :
    let p := (start settings diagnostics).run actions
    p.queue.length ≤ settings.capacity ∧
    (∀ (e : InputEvent) (outputs : List OutputEvent) (x : OutputEvent),
      let q := outputs.foldl enqueue (p.record e)
      q.queue.length ≤ settings.capacity ∧
      if q.queue.length = settings.capacity
      then (q.enqueue x).queue = q.queue ∧ (q.enqueue x).dropped = q.dropped + 1
      else (q.enqueue x).queue = q.queue ++ [x] ∧ (q.enqueue x).dropped = q.dropped) ∧
    (∀ payload ∈ p.handedEvents, payload ≠ [] ∧ payload.length ≤ settings.capacity + 1 ∧
      ∀ x ∈ payload.dropLast, x.isSummary = false) ∧
    (settings.capacity = 0 → ∀ payload ∈ p.handedEvents, ∃ s, payload = [.summary s]) := by
  intro p
  obtain ⟨hbalanced, hbounded⟩ : p.books.Balanced ∧ p.books.Bounded settings :=
    bounded_run settings diagnostics actions
  -- a payload that was handed over was taken out, and was packed then
  have hpacked : ∀ payload ∈ p.handedEvents, Packed settings.capacity payload := by
    intro payload hpayload
    refine hbounded.taken payload (hbalanced.payloads.mem_iff.1 ?_)
    exact List.mem_append_left _ (List.mem_append_left _ hpayload)
  refine ⟨hbounded.queue, fun e outputs x => ?_, fun payload hpayload => ?_,
    fun hzero payload hpayload => ?_⟩
  · -- the bounds hold at every moment while the outputs of one event are queued
    intro q
    have hrecord : (p.record e).books.Bounded settings :=
      ⟨hbounded.under, hbounded.queue, hbounded.taken⟩
    have hq : q.books.Bounded settings := hrecord.foldl_enqueue outputs
    have hsettings : q.settings = settings := hq.under
    have hqueue : q.queue.length ≤ settings.capacity := hq.queue
    refine ⟨hqueue, ?_⟩
    rw [queue_enqueue, dropped_enqueue, hsettings]
    split
    · next hfull =>
      have hnot : ¬ q.queue.length < settings.capacity := Nat.not_lt.2 (Nat.le_of_eq hfull.symm)
      exact ⟨if_neg hnot, if_neg hnot⟩
    · next hroom =>
      have hlt : q.queue.length < settings.capacity := Nat.lt_of_le_of_ne hqueue hroom
      exact ⟨if_pos hlt, if_pos hlt⟩
  · have h := hpacked payload hpayload
    exact ⟨h.ne_nil, h.length_le, h.plain_dropLast⟩
  · exact (hzero ▸ hpacked payload hpayload).eq_summary

end FeatureFlags.Processor

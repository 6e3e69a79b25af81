/-
  WHAT BECOMES OF AN EVENT — the outputs it asks for, and what the processor notes of it.

  The type of the event, whether its context is new, tracking, debugging, sampling and the exclusion
  from summaries decide independently of each other.  Sampling is settled by the ratio if that is
  none, 0 or 1, and by a draw if not.

  1. **Specification** — `candidates` lists what an event may be sent as, `Asks` says of each
     whether it is asked for, `Offers` what offering outputs to a queue does, and `Notes` what else
     changes.
  2. **Asking (`outputs_eq_filter`)** — an event asks for just these candidates, in their order.
  3. **Offering (`offers_foldl_enqueue`)** — outputs offered one after the other fill the queue up,
     and the rest is discarded and counted.
  4. **Main result (`process_offers_asked`)** — all of this at once, in any state of a running
     processor.
-/
import FeatureFlags.Proofs.Counter
import FeatureFlags.Proofs.Processor.Summaries
import FeatureFlags.Proofs.Processor.Window

namespace FeatureFlags

open Calendar (Instant)

/-! ## Specification -/

/-- **What an event may be sent as**, in order: first its context, then the event itself. -/
def InputEvent.candidates (r : Redaction) : InputEvent → List OutputEvent
  | .feature f =>
    let sent (contextKeys : Option (Entries String)) (context : Option Json) : FeatureOutput :=
      { creationDate := f.creationDate, key := f.key, contextKeys, context, version := f.version
        variation := f.variation, value := f.value, default := f.default, reason := f.reason
        prereqOf := f.prereqOf, samplingRatio := toldRatio f.samplingRatio }
    [.index f.creationDate (r.filter f.context), .feature (sent (some f.context.keys) none),
      .debug (sent none (some (r.filter f.context)))]
  | .custom c => [.index c.creationDate (r.filter c.context), .custom c.output]
  | .identify i => [.identify i.creationDate (r.filter i.context)]
  | .migration m => [.migration m.output]

/-- An event is tracked. -/
def InputEvent.Tracked : InputEvent → Prop
  | .feature f => f.trackEvents = true
  | _ => False

/-- **An event is to be debugged until a date** that is a signed 64-bit number of milliseconds, and
    that neither its creation, nor the current time, nor the last known time of the server has
    reached. -/
def InputEvent.Debugged (now : Instant) (serverTime : Option Instant) : InputEvent → Prop
  | .feature f => ∃ date ∈ f.debugEventsUntilDate, date.toNat < 9223372036854775808 ∧
      f.creationDate < Instant.ofMilliseconds date.toNat ∧ now < Instant.ofMilliseconds date.toNat ∧
      ∀ t ∈ serverTime, t < Instant.ofMilliseconds date.toNat
  | _ => False

instance : DecidablePred InputEvent.Tracked
  | .feature f => inferInstanceAs (Decidable (f.trackEvents = true))
  | .identify _ | .custom _ | .migration _ => isFalse id

instance (now : Instant) (serverTime : Option Instant) :
    DecidablePred (InputEvent.Debugged now serverTime)
  | .feature _ => inferInstanceAs (Decidable (∃ date ∈ _, _ ∧ _ ∧ _ ∧ ∀ t ∈ _, _))
  | .identify _ | .custom _ | .migration _ => isFalse id

namespace Processor

/-- A context is new to a processor. -/
def IsNew (p : Processor) (c : Context) : Prop := c.canonicalKey ∉ p.met.names

instance (p : Processor) (c : Context) : Decidable (p.IsNew c) :=
  inferInstanceAs (Decidable (_ ∉ _))

/-- **Which candidates are asked for**: a context if it is new, and all others unless the ratio is
    0, an evaluation if it is tracked, and once more while it is debugged. -/
def Asks (p : Processor) (now : Instant) (e : InputEvent) : OutputEvent → Prop
  | .index .. => p.IsNew e.context
  | .feature _ => e.samplingRatio ≠ some 0 ∧ e.Tracked
  | .debug _ => e.samplingRatio ≠ some 0 ∧ e.Debugged now p.serverTime
  | _ => e.samplingRatio ≠ some 0

instance (p : Processor) (now : Instant) (e : InputEvent) : DecidablePred (p.Asks now e)
  | .index .. => inferInstanceAs (Decidable (p.IsNew e.context))
  | .feature _ => inferInstanceAs (Decidable (_ ∧ e.Tracked))
  | .debug _ => inferInstanceAs (Decidable (_ ∧ e.Debugged now p.serverTime))
  | .identify .. | .custom _ | .migration _ | .summary _ => inferInstanceAs (Decidable (_ ≠ _))

/-- How many output events still fit into the queue. -/
def room (p : Processor) : Nat := p.settings.capacity - p.queue.length

/-- What is logged while so many events are dropped: each one that finds the counter at zero. -/
def warnings (dropped : UInt64) : Nat → List LogEntry
  | 0 => []
  | n + 1 => (if dropped = 0 then [.queueFull] else []) ++ warnings (dropped + 1) n

/-- **Outputs were offered**: as many as fit are queued, the others are discarded and counted, and
    of these the one that finds the counter at zero is logged.  Unless the counter passes its last
    value, that is the first one that is dropped since the last report, and no other one. -/
structure Offers (p q : Processor) (outputs : List OutputEvent) : Prop where
  queue : q.queue = p.queue ++ outputs.take p.room
  queued : q.queued = p.queued ++ outputs.take p.room
  discarded : q.discarded = p.discarded ++ outputs.drop p.room
  dropped : q.dropped = p.dropped + .ofNat (outputs.drop p.room).length
  log : q.log = p.log ++ warnings p.dropped (outputs.drop p.room).length
  logOnce : p.dropped.toNat + (outputs.drop p.room).length ≤ 2 ^ 64 →
    q.log = p.log ++ if p.dropped = 0 ∧ outputs.drop p.room ≠ [] then [.queueFull] else []

/-- A processor with the offers of another one. -/
def withOffers (p q : Processor) : Processor :=
  { p with
    queue := q.queue, queued := q.queued, discarded := q.discarded, dropped := q.dropped
    log := q.log }

/-- **What a processor notes of an event**, apart from its outputs.  An operation of a migration is
    not looked at; all others make their context known, and all but an announcement count a context
    that was known. -/
def Notes (p q : Processor) : InputEvent → Prop
  | .feature f =>
    q.met = p.met.put f.context.canonicalKey () ∧
    q.deduplicated = p.deduplicated + (if p.IsNew f.context then 0 else 1) ∧
    q.tally = if f.excludeFromSummaries then p.tally else p.tally.add f
  | .custom c =>
    q.met = p.met.put c.context.canonicalKey () ∧
    q.deduplicated = p.deduplicated + (if p.IsNew c.context then 0 else 1) ∧
    q.tally = p.tally
  | .identify i =>
    q.met = p.met.put i.context.canonicalKey () ∧
      q.deduplicated = p.deduplicated ∧ q.tally = p.tally
  | .migration _ => q.met = p.met ∧ q.deduplicated = p.deduplicated ∧ q.tally = p.tally

end Processor

/-! ## Asking -/

/-- The program's test: the event, the clock and the server's last time are all before the date. -/
theorem FeatureEvent.isDebugged_iff {f : FeatureEvent} {now : Instant}
    {serverTime : Option Instant} :
    f.isDebugged now serverTime = true ↔ (InputEvent.feature f).Debugged now serverTime := by
  -- the server time, if unknown, is taken to be the creation, which is looked at anyway
  have hpast : ∀ bound : Instant,
      max (max now f.creationDate) (serverTime.getD f.creationDate) < bound ↔
      f.creationDate < bound ∧ now < bound ∧ ∀ t ∈ serverTime, t < bound := by
    intro bound
    cases serverTime with
    | none => simp [and_comm]
    | some t => simp [and_comm, and_assoc]
  rw [isDebugged, Option.any_eq_true]
  simp only [Bool.and_eq_true, decide_eq_true_eq, Calendar.Instant.floorMilliseconds_lt_iff, hpast]
  exact Iff.rfl

/-- The ratios none, 0 and 1 leave nothing to the draw. -/
theorem isSampled_iff {ratio : Option UInt32} (h : ratio = none ∨ ratio = some 0 ∨ ratio = some 1)
    (drawn : Bool) :
    isSampled drawn ratio = true ↔ ratio ≠ some 0 := by
  rcases h with rfl | rfl | rfl <;> simp [isSampled]

namespace Processor

variable {p : Processor} {e : InputEvent}

/-- The program's test for a context that need not be announced again. -/
theorem hasMet_iff {c : Context} : p.hasMet c = true ↔ ¬ p.IsNew c := by
  rw [hasMet, Recency.isSome_get?_iff, IsNew, Decidable.not_not]

/-- Candidates are kept one by one. -/
theorem filter_cons_eq_append (P : OutputEvent → Prop) [DecidablePred P] (x : OutputEvent)
    (rest : List OutputEvent) :
    (x :: rest).filter P = (if P x then [x] else []) ++ rest.filter P := by
  rw [List.filter_cons]
  by_cases hx : P x
  · rw [if_pos hx, if_pos (decide_eq_true hx)]
    rfl
  · rw [if_neg hx, if_neg fun h => hx (of_decide_eq_true h)]
    rfl

/-- **An event asks for the candidates that are asked for**, whatever is drawn. -/
theorem outputs_eq_filter
    (h : e.samplingRatio = none ∨ e.samplingRatio = some 0 ∨ e.samplingRatio = some 1)
    (now : Instant) (drawn : Bool) :
    e.outputs p.settings.redaction (!p.hasMet e.context) (e.isDebugged now p.serverTime)
        (isSampled drawn e.samplingRatio) =
      (e.candidates p.settings.redaction).filter (p.Asks now e) := by
  have hindex : (!p.hasMet e.context) = decide (p.IsNew e.context) := by
    rw [Bool.eq_iff_iff, Bool.not_eq_true', ← Bool.not_eq_true, hasMet_iff, Decidable.not_not,
      decide_eq_true_eq]
  have hkept : isSampled drawn e.samplingRatio = decide (e.samplingRatio ≠ some 0) := by
    rw [Bool.eq_iff_iff, isSampled_iff h, decide_eq_true_eq]
  -- the program decides event by event what to make of it; the candidates are the same, and each is
  -- asked for alone
  rw [hindex, hkept, InputEvent.outputs]
  cases e with
  | feature f =>
    have hdebugged : (InputEvent.feature f).isDebugged now p.serverTime =
        decide ((InputEvent.feature f).Debugged now p.serverTime) := by
      rw [Bool.eq_iff_iff, decide_eq_true_eq]
      exact FeatureEvent.isDebugged_iff
    rw [hdebugged, InputEvent.candidates, filter_cons_eq_append, filter_cons_eq_append,
      filter_cons_eq_append]
    simp only [InputEvent.announcement, InputEvent.itself, List.filter_nil, decide_eq_true_eq, Asks]
    by_cases hnew : p.IsNew f.context <;> by_cases hratio : f.samplingRatio = some 0 <;>
      simp [hnew, hratio, InputEvent.samplingRatio, InputEvent.context, InputEvent.creationDate,
        InputEvent.Tracked, FeatureEvent.output]
  | custom c =>
    rw [InputEvent.candidates, filter_cons_eq_append, filter_cons_eq_append]
    simp only [InputEvent.announcement, InputEvent.itself, List.filter_nil, decide_eq_true_eq, Asks]
    by_cases hnew : p.IsNew c.context <;> by_cases hratio : c.samplingRatio = some 0 <;>
      simp [hnew, hratio, InputEvent.samplingRatio, InputEvent.context, InputEvent.creationDate]
  | identify i =>
    -- these two are announcements themselves or need none, so only the ratio matters
    rw [InputEvent.candidates, filter_cons_eq_append]
    by_cases hratio : i.samplingRatio = some 0 <;>
      simp [hratio, InputEvent.announcement, InputEvent.itself, InputEvent.samplingRatio, Asks]
  | migration m =>
    rw [InputEvent.candidates, filter_cons_eq_append]
    by_cases hratio : m.samplingRatio = some 0 <;>
      simp [hratio, InputEvent.announcement, InputEvent.itself, InputEvent.samplingRatio, Asks]

/-! ## Offering -/

theorem withOffers_enqueue (p : Processor) (x : OutputEvent) :
    p.withOffers (p.enqueue x) = p.enqueue x := by
  unfold enqueue drop
  split
  · split <;> rfl
  · rfl

/-- Outputs offered change nothing but the offers. -/
theorem withOffers_foldl_enqueue (outputs : List OutputEvent) (p : Processor) :
    p.withOffers (outputs.foldl enqueue p) = outputs.foldl enqueue p := by
  induction outputs generalizing p with
  | nil => rfl
  | cons x rest ih =>
    rw [List.foldl_cons]
    show (p.withOffers (p.enqueue x)).withOffers (rest.foldl enqueue (p.enqueue x)) = _
    rw [withOffers_enqueue, ih]

/-- A counter above zero gives no warning before it has passed its last value. -/
theorem warnings_of_pos {n : Nat} {c : UInt64} (hpos : 0 < c.toNat) (hroom : c.toNat + n ≤ 2 ^ 64) :
    warnings c n = [] := by
  induction n generalizing c with
  | zero => rfl
  | succ n ih =>
    have hne : c ≠ 0 := by
      rintro rfl
      exact absurd hpos (Nat.lt_irrefl 0)
    rw [warnings, if_neg hne, List.nil_append]
    cases n with
    | zero => rfl
    | succ n =>
      have hnext : (c + 1).toNat = c.toNat + 1 := (Stands.toNat_succ c).eq_of_lt (by omega)
      exact ih (by omega) (by omega)

/-- **Only the first drop gives a warning**, as long as the counter does not pass its last value. -/
theorem warnings_eq {n : Nat} {c : UInt64} (hroom : c.toNat + n ≤ 2 ^ 64) :
    warnings c n = if c = 0 ∧ n ≠ 0 then [.queueFull] else [] := by
  cases n with
  | zero => simp [warnings]
  | succ n =>
    by_cases hzero : c = 0
    · subst hzero
      have hrest : warnings (0 + 1) n = [] :=
        warnings_of_pos (by decide) (by simp at hroom ⊢; omega)
      rw [warnings, hrest]
      rfl
    · have hpos : 0 < c.toNat := Nat.pos_of_ne_zero fun h => hzero (UInt64.toNat_inj.1 h)
      rw [warnings_of_pos hpos hroom, if_neg fun h => hzero h.1]

/-- **Each drop that finds the counter at zero is logged**, and nothing else. -/
theorem log_foldl_enqueue (outputs : List OutputEvent) (p : Processor) :
    (outputs.foldl enqueue p).log = p.log ++ warnings p.dropped (outputs.drop p.room).length := by
  induction outputs generalizing p with
  | nil => simp [warnings]
  | cons x rest ih =>
    rw [List.foldl_cons, ih]
    -- a queue that is full stays full, and then every further output finds the counter one higher
    rcases Nat.eq_zero_or_pos p.room with hfull | hroom
    · have henqueue : p.enqueue x = { p.drop with discarded := p.discarded ++ [x] } :=
        if_pos (Nat.le_of_sub_eq_zero hfull)
      have hcounted : (p.enqueue x).dropped = p.dropped + 1 := by
        rw [henqueue]
        rfl
      have hstill : (p.enqueue x).room = 0 := by
        rw [henqueue, drop]
        split <;> exact hfull
      have hlog : (p.enqueue x).log = p.log ++ if p.dropped = 0 then [.queueFull] else [] := by
        rw [henqueue]
        show p.drop.log = _
        unfold drop
        split
        · rfl
        · exact (List.append_nil _).symm
      rw [hstill, hcounted, hlog, hfull, List.append_assoc]
      rfl
    · have henqueue : p.enqueue x = { p with queue := p.queue ++ [x], queued := p.queued ++ [x] } :=
        if_neg (Nat.not_le.2 (Nat.lt_of_sub_pos hroom))
      have hnext : p.room = (p.enqueue x).room + 1 := by
        rw [henqueue]
        simp only [room, List.length_append, List.length_singleton] at hroom ⊢
        omega
      have hsame : (p.enqueue x).dropped = p.dropped ∧ (p.enqueue x).log = p.log := by
        rw [henqueue]
        exact ⟨rfl, rfl⟩
      rw [hsame.1, hsame.2, hnext, List.drop_succ_cons]

/-- The outputs are offered one by one, and those that find no room are counted and warned of. -/
theorem offers_foldl_enqueue (outputs : List OutputEvent) (p : Processor) :
    p.Offers (outputs.foldl enqueue p) outputs where
  queue := congrArg Books.queue (books_foldl_enqueue outputs p)
  queued := congrArg Books.queued (books_foldl_enqueue outputs p)
  discarded := congrArg Books.discarded (books_foldl_enqueue outputs p)
  dropped := congrArg Books.dropped (books_foldl_enqueue outputs p)
  log := log_foldl_enqueue outputs p
  logOnce hroom := by
    rw [log_foldl_enqueue, warnings_eq hroom]
    simp only [ne_eq, List.length_eq_zero_iff]

/-! ## Noting -/

/-- Taking an event in leaves a note of it in the tally, among the contexts met and in the
    counter. -/
theorem notes_record (p : Processor) (e : InputEvent) : p.Notes (p.record e) e := by
  have hrepeat : ∀ c : Context,
      (if p.hasMet c = true then 1 else 0 : UInt64) = if p.IsNew c then 0 else 1 := by
    intro c
    by_cases hnew : p.IsNew c
    · rw [if_pos hnew, if_neg fun hmet => hasMet_iff.1 hmet hnew]
    · rw [if_neg hnew, if_pos (hasMet_iff.2 hnew)]
  cases e with
  | feature f => exact ⟨rfl, congrArg (p.deduplicated + ·) (hrepeat f.context), rfl⟩
  | custom c => exact ⟨rfl, congrArg (p.deduplicated + ·) (hrepeat c.context), rfl⟩
  | identify i => exact ⟨rfl, UInt64.add_zero _, rfl⟩
  | migration m => exact ⟨rfl, UInt64.add_zero _, rfl⟩

/-- **The tally changes** exactly if an evaluation is not excluded from summaries. -/
theorem addEvent_ne_iff (t : Summary.Tally) :
    t.addEvent e ≠ t ↔ ∃ f, e = .feature f ∧ f.excludeFromSummaries = false := by
  cases e with
  | feature f =>
    rw [Summary.Tally.addEvent]
    cases hexcluded : f.excludeFromSummaries with
    | true =>
      -- an excluded event is not counted
      refine iff_of_false (fun h => h rfl) ?_
      rintro ⟨g, hg, hnot⟩
      rw [← InputEvent.feature.inj hg, hexcluded] at hnot
      cases hnot
    | false => exact iff_of_true (t.add_ne f) ⟨f, rfl, hexcluded⟩
  | _ =>
    refine iff_of_false (fun h => h rfl) ?_
    rintro ⟨g, hg, -⟩
    cases hg

/-! ## Main result -/

/-- **What becomes of an event.**  In every state of a processor that is not shut down, and for
    every event whose sampling is settled by its ratio, the processor offers to its queue just the
    candidates that are asked for, in their order; it notes the event, the summary being changed by
    evaluations that are not excluded and by nothing else; and apart from what is offered and noted
    it stays as it is. -/
theorem process_offers_asked {p : Processor} {e : InputEvent} (running : p.shutDown = false)
    (ratio : e.samplingRatio = none ∨ e.samplingRatio = some 0 ∨ e.samplingRatio = some 1)
    (now : Instant) (drawn : Bool) :
    let q := p.process now drawn e
    p.Offers q ((e.candidates p.settings.redaction).filter (p.Asks now e)) ∧
    p.Notes q e ∧
    (q.tally ≠ p.tally ↔ ∃ f, e = .feature f ∧ f.excludeFromSummaries = false) ∧
    q = { p.withOffers q with
      tally := q.tally
      met := q.met
      deduplicated := q.deduplicated
      processed := p.processed ++ [e] } := by
  intro q
  have hq : q =
      ((e.candidates p.settings.redaction).filter (p.Asks now e)).foldl enqueue (p.record e) := by
    show p.process now drawn e = _
    rw [← outputs_eq_filter ratio now drawn, process, if_neg (Bool.eq_false_iff.1 running)]
  -- queueing touches the queue and its records only; all else is as the record left it
  have hframe : q = (p.record e).withOffers q := by
    rw [hq, withOffers_foldl_enqueue]
  have hoffers :
      (p.record e).Offers q ((e.candidates p.settings.redaction).filter (p.Asks now e)) :=
    hq ▸ offers_foldl_enqueue _ _
  have hmet : q.met = (p.record e).met := (congrArg Processor.met hframe).trans rfl
  have hdeduplicated : q.deduplicated = (p.record e).deduplicated :=
    (congrArg Processor.deduplicated hframe).trans rfl
  have htally : q.tally = (p.record e).tally := (congrArg Processor.tally hframe).trans rfl
  refine ⟨⟨hoffers.queue, hoffers.queued, hoffers.discarded, hoffers.dropped, hoffers.log,
    hoffers.logOnce⟩, ?_, ?_, ?_⟩
  · have hnotes : p.Notes (p.record e) e := notes_record p e
    cases e <;> rw [Notes, hmet, hdeduplicated, htally] <;> exact hnotes
  · rw [htally]
    exact addEvent_ne_iff p.tally
  · rw [hmet, hdeduplicated, htally]
    exact hframe

/-- With room for two, the third output of an evaluation that is tracked and debugged finds none. -/
theorem process_offers_asked_roomForTwo :
    let p := start (plainSettings 2) none
    let f : FeatureEvent := { evaluationOf "f" (some 1) .null 5 with
      trackEvents := true, debugEventsUntilDate := some 10, samplingRatio := some 1 }
    let q := p.process 7 false (.feature f)
    p.shutDown = false ∧ f.samplingRatio = some 1 ∧
      q.queue.map OutputEvent.kind = ["index", "feature"] ∧
      q.discarded.map OutputEvent.kind = ["debug"] ∧ q.dropped = 1 ∧ q.log = [.queueFull] ∧
        q.tally ≠ p.tally := by
  intro p f q
  obtain ⟨hoffers, -, htally, -⟩ :=
    process_offers_asked (p := p) (e := .feature f) rfl (.inr (.inr rfl)) 7 false
  refine ⟨rfl, rfl, ?_, ?_, ?_, ?_, htally.2 ⟨f, rfl, rfl⟩⟩
  · rw [hoffers.queue]
    decide +kernel
  · rw [hoffers.discarded]
    decide +kernel
  · rw [hoffers.dropped]
    decide +kernel
  · rw [hoffers.log]
    decide +kernel

end Processor

end FeatureFlags

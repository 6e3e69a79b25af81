/-
  EVERY CONTEXT IS ANNOUNCED BEFORE IT IS NAMED.

  Events in full name their context by kinds and keys alone; who receives them knows the context
  from an index or identify event that came before.  A context counts as met from the moment an
  event of it is taken in, and that moment comes before the queue has room for its announcement, or
  has none.

  1. **Conditions (`Sendable`)** — sampling keeps every event, and canonical keys tell contexts
     apart.
  2. **Entries (`Books.Announces.step`)** — of a context that was met an announcement was queued, or
     found the queue full; and the queue names only contexts that were announced.
  3. **Order (`Books.InOrder.step`)** — deliveries that begin in the order in which their payloads
     were taken out hand over what was taken out.
  4. **Main result** — the streams of queued, taken and handed events are announced, up to
     announcements that found the queue full.  Three runs show that none of its conditions can be
     left out: a full queue drops an announcement, two contexts share a canonical key, a delivery
     overtakes another.
-/
import FeatureFlags.Proofs.Event.Announcement
import FeatureFlags.Proofs.Processor.Delivery
import FeatureFlags.Proofs.Processor.Arrival
import FeatureFlags.Proofs.Recency
import Mathlib.Data.List.Infix

namespace FeatureFlags.Processor

/-- What is asked of the events that a program sends: sampling keeps them all, their contexts are
    well-formed, and canonical keys tell apart the contexts that are met. -/
structure Sendable (sent : InputEvent → Prop) : Prop where
  kept : ∀ e, sent e → e.samplingRatio = none ∨ e.samplingRatio = some 1
  wellFormed : ∀ e, sent e → e.context.WellFormed
  separated : ∀ d e, sent d → sent e → d.meetsContext = true → e.meetsContext = true →
    d.context.canonicalKey = e.context.canonicalKey → d.context.keys = e.context.keys

/-! ## Announcements -/

/-- `b.Announces sent` — of the contexts sent, those met were announced, unless the queue was full;
    and so were those that the queued events name. -/
structure Books.Announces (sent : InputEvent → Prop) (b : Books) : Prop where
  met : ∀ e, sent e → e.meetsContext = true → b.hasMet e.context = true →
    ∃ y ∈ b.queued ++ b.discarded, y.announced? = some e.context.keys
  stream : Announced b.discarded b.queued

variable {sent : InputEvent → Prop} {a : Action} {b c : Books}

/-- Whatever is offered to the queue is kept, or counted as dropped. -/
theorem Books.mem_offer_iff {outputs : List OutputEvent} {y : OutputEvent} :
    y ∈ (b.offer outputs).queued ++ (b.offer outputs).discarded ↔
      y ∈ b.queued ++ b.discarded ∨ y ∈ outputs := by
  have houtputs : y ∈ outputs ↔ y ∈ outputs.take b.room ∨ y ∈ outputs.drop b.room := by
    rw [← List.mem_append, List.take_append_drop]
  show y ∈ (b.queued ++ outputs.take b.room) ++ (b.discarded ++ outputs.drop b.room) ↔ _
  rw [houtputs]
  simp only [List.mem_append]
  tauto

/-- A context counts as met after an event only if it did before, or has the canonical key of that
    event. -/
theorem Books.hasMet_record {e : InputEvent} {context : Context}
    (h : (b.record e).hasMet context = true) :
    (e.meetsContext = true ∧ e.context.canonicalKey = context.canonicalKey) ∨
      b.hasMet context = true := by
  cases hmeets : e.meetsContext with
  | false =>
    have hsame : (b.record e).met = b.met := by
      show (if e.meetsContext then _ else b.met) = b.met
      rw [hmeets]
      rfl
    rw [Books.hasMet, hsame] at h
    exact .inr h
  | true =>
    -- a window that has room for the new key finds it, or what it found before
    have hput : (b.record e).met = b.met.put e.context.canonicalKey () := by
      show (if e.meetsContext then _ else b.met) = _
      rw [hmeets]
      rfl
    rw [Books.hasMet, hput] at h
    obtain ⟨found, hfound⟩ := Option.isSome_iff_exists.1 h
    rcases Recency.get?_put_eq_some hfound with ⟨hkey, -⟩ | hearlier
    · exact .inl ⟨rfl, hkey⟩
    · exact .inr (by rw [Books.hasMet, hearlier]; rfl)

/-- Sampling keeps everything that an event asks for. -/
theorem Sendable.outputs_eq (hsent : Sendable sent) {e : InputEvent} (he : sent e)
    (debugged drawn : Bool) : b.outputs e debugged drawn =
      e.outputs b.settings.redaction (!b.hasMet e.context) debugged true := by
  rw [Books.outputs, isSampled_of_kept (hsent.kept e he)]

/-- The context of an event was announced before, or the event asks for its announcement. -/
theorem Books.Announces.exists_announced (h : b.Announces sent) (hsent : Sendable sent)
    {e : InputEvent} (he : sent e) (hmeets : e.meetsContext = true) (debugged drawn : Bool) :
    ∃ y, (y ∈ b.queued ++ b.discarded ∨ y ∈ b.outputs e debugged drawn) ∧
      y.announced? = some e.context.keys := by
  cases hmet : b.hasMet e.context with
  | true =>
    obtain ⟨y, hy, hshown⟩ := h.met e he hmeets hmet
    exact ⟨y, .inl hy, hshown⟩
  | false =>
    have houtputs := hsent.outputs_eq (b := b) he debugged drawn
    rw [hmet] at houtputs
    rw [houtputs]
    obtain ⟨y, hy, hshown⟩ := InputEvent.exists_announced_outputs (hsent.wellFormed e he) hmeets
    exact ⟨y, .inr hy, hshown⟩

/-- Taking an event in: its announcement is offered to the queue before the event itself. -/
theorem Books.Announces.takesIn (h : b.Announces sent) (hsent : Sendable sent) {e : InputEvent}
    (he : sent e) (debugged drawn : Bool) :
    ((b.record e).offer (b.outputs e debugged drawn)).Announces sent := by
  refine ⟨fun d hd hmeets hmet => ?_, ?_⟩
  · rcases Books.hasMet_record hmet with ⟨hmeets', hkey⟩ | hearlier
    · -- `d` may be another event, but of the same canonical key, hence of the same kinds and keys
      have hkeys := hsent.separated e d he hd hmeets' hmeets hkey
      obtain ⟨y, hy, hshown⟩ := h.exists_announced hsent he hmeets' debugged drawn
      exact ⟨y, Books.mem_offer_iff.2 hy, hkeys ▸ hshown⟩
    · obtain ⟨y, hy, hshown⟩ := h.met d hd hmeets hearlier
      exact ⟨y, Books.mem_offer_iff.2 (.inl hy), hshown⟩
  · let room := (b.record e).room
    let outputs := b.outputs e debugged drawn
    show Announced (b.discarded ++ outputs.drop room) (b.queued ++ outputs.take room)
    have hall : Announced (b.queued ++ b.discarded) outputs := by
      show Announced _ (b.outputs e debugged drawn)
      rw [hsent.outputs_eq he]
      refine InputEvent.announced_outputs (hsent.wellFormed e he) fun hmet hmeets => ?_
      exact h.met e he hmeets (by simpa using hmet)
    have hearlier : Announced (b.discarded ++ outputs.drop room) b.queued :=
      h.stream.mono fun y hy => List.mem_append_left _ hy
    -- the announcement comes first, so it is among the outputs that fit if the event is
    have hfits : Announced (b.queued ++ b.discarded) (outputs.take room) :=
      hall.of_prefix (List.take_prefix _ _)
    refine hearlier.append (hfits.mono fun y hy => ?_)
    rw [← List.append_assoc]
    exact List.mem_append_left _ hy

/-- An event taken in stays in the history. -/
theorem Books.Step.processed_prefix (hstep : b.Step a c) : b.processed <+: c.processed := by
  cases hstep with
  | takesIn running e debugged drawn => exact List.prefix_append b.processed [e]
  | _ => exact List.prefix_rfl

/-- **Every entry keeps announcements before the events in full.** -/
theorem Books.Announces.step (h : b.Announces sent) (hsent : Sendable sent) (hstep : b.Step a c)
    (hprocessed : ∀ e ∈ c.processed, sent e) : c.Announces sent := by
  cases hstep with
  | takesIn running e debugged drawn =>
    have he : sent e := hprocessed e (List.mem_append_right b.processed (List.mem_singleton_self e))
    exact h.takesIn hsent he debugged drawn
  -- nobody is met any more, so nothing is asked of the queue
  | forgets => exact ⟨fun e _ _ hmet => (by cases hmet), h.stream⟩
  | dropsOut => exact ⟨h.met, h.stream⟩
  | takesOut => exact ⟨h.met, h.stream⟩
  | reports => exact ⟨h.met, h.stream⟩
  | begins => exact ⟨h.met, h.stream⟩
  | refuses => exact ⟨h.met, h.stream⟩
  | shutsDown => exact ⟨h.met, h.stream⟩
  | ends => exact ⟨h.met, h.stream⟩
  | stops => exact ⟨h.met, h.stream⟩

/-- By entries: only an event that is taken in adds to what must be announced, and it queues its
    announcement first. -/
theorem announces_run (settings : Settings) (diagnostics : Option Diagnostics)
    {actions : List Action} (hsent : Sendable fun e => .send e ∈ actions) :
    ((start settings diagnostics).run actions).books.Announces fun e => .send e ∈ actions := by
  let sent : InputEvent → Prop := fun e => .send e ∈ actions
  -- the condition is about the events taken in, so it is carried through the run as a premise
  let P : Books → Prop := fun b => (∀ e ∈ b.processed, sent e) → b.Announces sent
  have hstart : P (start settings diagnostics).books := by
    intro _
    rw [books_start]
    refine ⟨fun e _ _ hmet => (by cases hmet), fun prior x rest hsplit => ?_⟩
    exact absurd hsplit.symm (List.append_ne_nil_of_right_ne_nil prior (List.cons_ne_nil x rest))
  have hrun : P ((start settings diagnostics).run actions).books := by
    refine books_run (fun a _ b c hstep hb hprocessed => ?_) hstart
    have hbefore : ∀ e ∈ b.processed, sent e := fun e he =>
      hprocessed e (hstep.processed_prefix.subset he)
    exact (hb hbefore).step hsent hstep hprocessed
  exact hrun fun e he => sent_of_mem_processed he

/-! ## Order -/

/-- `b.InOrder` — what was handed over is the beginning of what was taken out, and what waits is the
    rest of it until the processor is shut down. -/
structure Books.InOrder (b : Books) : Prop where
  handed : b.handed.filterMap Payload.events? <+: b.taken
  waiting : b.shutDown = false →
    b.handed.filterMap Payload.events? ++ b.pending.filterMap (fun d => d.payload.events?) = b.taken

/-- **Every entry keeps the order**, if only the delivery that waits longest may begin. -/
theorem Books.InOrder.step (h : b.InOrder) (hfirst : ∀ place, a = .begin place → place = 0)
    (hstep : b.Step a c) : c.InOrder := by
  cases hstep with
  | @begins place d here waiting allowed =>
    -- the longest waiting delivery holds the next payload of `taken`, or none
    obtain rfl := hfirst place here
    obtain ⟨rest, hpending⟩ : ∃ rest, b.pending = d :: rest := by
      cases hlist : b.pending with
      | nil => rw [hlist] at waiting; cases waiting
      | cons first rest => rw [hlist] at waiting; cases waiting; exact ⟨rest, rfl⟩
    have hrest : (b.unqueue 0).pending = rest := by
      show b.pending.eraseIdx 0 = rest
      rw [hpending, List.eraseIdx_cons_zero]
    have hwaiting : b.shutDown = false →
        (b.handed ++ [d.payload]).filterMap Payload.events? ++
          rest.filterMap (fun d => d.payload.events?) = b.taken := by
      intro running
      rw [← h.waiting running, hpending, filterMap_concat, List.append_assoc]
      rw [← List.singleton_append (x := d), List.filterMap_append]
      cases hevents : d.payload.events? <;> simp [hevents]
    refine ⟨?_, fun running => ?_⟩
    · show (b.handed ++ [d.payload]).filterMap Payload.events? <+: b.taken
      cases hshut : b.shutDown with
      | false => exact ⟨_, hwaiting hshut⟩
      | true =>
        rw [filterMap_concat, Payload.events?_of_diagnostics (allowed hshut)]
        simpa using h.handed
    · show _ ++ (b.unqueue 0).pending.filterMap _ = b.taken
      rw [hrest]
      exact hwaiting running
  | refuses here waiting shut analytics =>
    exact ⟨h.handed, fun running => absurd (shut.symm.trans running) nofun⟩
  | takesOut running live purpose nonempty =>
    refine ⟨h.handed.trans (List.prefix_append _ _), fun _ => ?_⟩
    show b.handed.filterMap _ ++ (b.pending ++ [_]).filterMap _ = b.taken ++ [b.payload]
    rw [filterMap_concat, ← List.append_assoc, h.waiting running]
    rfl
  | reports running live event =>
    refine ⟨h.handed, fun _ => ?_⟩
    show b.handed.filterMap _ ++ (b.pending ++ [_]).filterMap _ = b.taken
    rw [filterMap_concat, ← List.append_assoc, h.waiting running]
    exact List.append_nil _
  | shutsDown => exact ⟨h.handed, nofun⟩
  | takesIn => exact ⟨h.handed, h.waiting⟩
  | dropsOut => exact ⟨h.handed, h.waiting⟩
  | forgets => exact ⟨h.handed, h.waiting⟩
  | ends => exact ⟨h.handed, h.waiting⟩
  | stops => exact ⟨h.handed, h.waiting⟩

/-- By entries: a delivery that begins is always the first of those that wait. -/
theorem inOrder_run (settings : Settings) (diagnostics : Option Diagnostics) {actions : List Action}
    (hfirst : ∀ place, .begin place ∈ actions → place = 0) :
    ((start settings diagnostics).run actions).books.InOrder := by
  have hstart : (start settings diagnostics).books.InOrder := by
    rw [books_start]
    refine ⟨List.prefix_rfl, fun _ => ?_⟩
    cases diagnostics <;> rfl
  refine books_run (fun a ha b c hstep hb => ?_) hstart
  exact hb.step (fun place here => hfirst place (here ▸ ha)) hstep

/-! ## Main result -/

/-- **Every context is announced before it is named.**  In every run whose events sampling keeps,
    and whose contexts canonical keys tell apart, every feature and every custom event comes after
    an index or identify event of the same kinds and keys, unless such an announcement found the
    queue full:

    - in the stream of queued events, so that the announcement was dropped before the event was
      queued;
    - in the stream of payloads as flushes take them out;
    - in the stream handed to the sender, if payloads are handed over in the order in which they
      were taken out.  They are if the delivery that waits longest always begins first. -/
theorem run_announces_contexts (settings : Settings) (diagnostics : Option Diagnostics)
    (actions : List Action) (hsent : Sendable fun e => .send e ∈ actions) :
    let p := (start settings diagnostics).run actions
    Announced p.discarded p.queued ∧
    Announced p.discarded p.taken.flatten ∧
    (p.handedEvents <+: p.taken → Announced p.discarded p.handedEvents.flatten) ∧
    ((∀ place, .begin place ∈ actions → place = 0) → p.handedEvents <+: p.taken) := by
  intro p
  have hbalanced : p.books.Balanced := balanced_run settings diagnostics actions
  have hqueued : Announced p.discarded p.queued := (announces_run settings diagnostics hsent).stream
  have htaken : Announced p.discarded p.taken.flatten := by
    -- summaries name no context; without them, what was taken out is the beginning of what was
    -- queued
    refine Announced.of_filter (fun x => !x.isSummary) (fun x hfull => ?_) (hqueued.of_prefix ?_)
    · cases x <;> first | rfl | cases hfull
    · exact ⟨p.queue, hbalanced.events⟩
  refine ⟨hqueued, htaken, fun hbegins => htaken.of_prefix hbegins.flatten, fun hfirst => ?_⟩
  exact (inOrder_run settings diagnostics hfirst).handed

/-! ## Runs -/

/-- A context of one individual with nothing but a key. -/
def bareContext (kind : Kind) (key : String) : Context :=
  .single ⟨kind, key, none, false, none, [], []⟩

theorem bareContext_wellFormed {kind : Kind} {key : String} (hkind : kind ≠ .multi)
    (hkey : key ≠ "") :
    (bareContext kind key).WellFormed :=
  ⟨hkind, hkey, .nil⟩

def userContext (key : String) : Context := bareContext .user key

def orgKind : Kind := ⟨"org", by decide +kernel⟩

/-- A custom event of a context. -/
def customEvent (c : Context) : InputEvent := .custom ⟨0, c, "k", none, none, none⟩

/-- What is sent of it. -/
def customOutput (c : Context) : OutputEvent := .custom ⟨0, "k", c.keys, none, none, none⟩

def identifyEvent (c : Context) : InputEvent := .identify ⟨0, c, none⟩

def plainSettings (capacity : Nat) : Settings := ⟨capacity, 0, 10, 0, 0, ⟨false, []⟩, 0⟩

/-- A context as it is shown under these settings. -/
def shownContext (c : Context) : Json := Redaction.filter ⟨false, []⟩ c

/-- Send an event and take it in. -/
def taking (e : InputEvent) : List Action := [.send e, .receive 0 false]

/-- Flush, and hand the payload over. -/
def delivering : List Action := [.flushTick, .begin 0]

/-- Two users, and the first one once more after a flush. -/
def twoUsersRun : List Action :=
  taking (customEvent (userContext "a")) ++ taking (customEvent (userContext "b")) ++ delivering ++
    taking (customEvent (userContext "a")) ++ delivering

theorem sendable_twoUsersRun : Sendable fun e => .send e ∈ twoUsersRun := by
  have hsent : ∀ e, .send e ∈ twoUsersRun →
      e = customEvent (userContext "a") ∨ e = customEvent (userContext "b") := by
    intro e he
    simp [twoUsersRun, taking, delivering] at he
    tauto
  refine ⟨fun e he => ?_, fun e he => ?_, fun d e hd he _ _ hkey => ?_⟩
  · rcases hsent e he with rfl | rfl <;> exact .inl rfl
  · rcases hsent e he with rfl | rfl <;> exact bareContext_wellFormed (by decide) (by decide)
  · rcases hsent d hd with rfl | rfl <;> rcases hsent e he with rfl | rfl
    · rfl
    · exact absurd hkey (by decide)
    · exact absurd hkey (by decide)
    · rfl

theorem run_announces_contexts_twoUsersRun :
    let p := (start (plainSettings 10) none).run twoUsersRun
    p.handedEvents =
      [[.index 0 (shownContext (userContext "a")), customOutput (userContext "a"),
        .index 0 (shownContext (userContext "b")), customOutput (userContext "b")],
       [customOutput (userContext "a")]] ∧
    p.discarded = [] ∧ Announced p.discarded p.handedEvents.flatten := by
  refine ⟨rfl, rfl, ?_⟩
  have h := run_announces_contexts (plainSettings 10) none twoUsersRun sendable_twoUsersRun
  refine h.2.2.1 (h.2.2.2 fun place hplace => ?_)
  simpa [twoUsersRun, taking, delivering] using hplace

/-- The announcement of a user finds the queue full; after a flush the user counts as met. -/
def fullQueueRun : List Action :=
  taking (identifyEvent (userContext "x")) ++ taking (identifyEvent (userContext "y")) ++
    taking (customEvent (userContext "a")) ++ delivering ++
    taking (customEvent (userContext "a")) ++ delivering

/-- A user and an organization whose canonical keys are the same. -/
def sharedKeyRun : List Action :=
  taking (customEvent (userContext "org:x")) ++ taking (customEvent (bareContext orgKind "x")) ++
    delivering

/-- The second payload begins before the first one, which holds the announcement. -/
def overtakingRun : List Action :=
  taking (customEvent (userContext "a")) ++ [.flushTick] ++
    taking (customEvent (userContext "a")) ++ [.flushTick, .begin 1]

/-- **Not every context is announced before it is named**, though no event is sampled: the
    announcement can find the queue full, a context of the same canonical key can count as having
    announced it, and its payload can be overtaken. -/
theorem exists_unannounced :
    (∀ e, .send e ∈ fullQueueRun ++ sharedKeyRun ++ overtakingRun →
      e.samplingRatio = none ∧ e.context.WellFormed) ∧
    ¬ Announced [] ((start (plainSettings 2) none).run fullQueueRun).handedEvents.flatten ∧
    ¬ Announced [] ((start (plainSettings 10) none).run sharedKeyRun).handedEvents.flatten ∧
    ¬ Announced [] ((start (plainSettings 10) none).run overtakingRun).handedEvents.flatten := by
  have hshown : ∀ key : String, key ≠ "" →
      (shownContext (userContext key)).shownKeys = [("user", key)] := fun key hkey =>
    Redaction.shownKeys_filter _ (bareContext_wellFormed (by decide) hkey)
  refine ⟨fun e he => ?_, ?_, ?_, ?_⟩
  · have hsent : e = identifyEvent (userContext "x") ∨ e = identifyEvent (userContext "y") ∨
        e = customEvent (userContext "a") ∨ e = customEvent (userContext "org:x") ∨
        e = customEvent (bareContext orgKind "x") := by
      simp [fullQueueRun, sharedKeyRun, overtakingRun, taking, delivering] at he
      tauto
    rcases hsent with rfl | rfl | rfl | rfl | rfl <;>
      exact ⟨rfl, bareContext_wellFormed (by decide) (by decide)⟩
  · -- the queue was full with the contexts of others
    refine Announced.not_of_split
      [.identify 0 (shownContext (userContext "x")), .identify 0 (shownContext (userContext "y"))]
      (customOutput (userContext "a")) [] rfl rfl rfl ?_
    intro y hy hkeys
    rcases List.mem_cons.1 hy with rfl | hy
    · rw [OutputEvent.announced?, hshown "x" (by decide)] at hkeys
      exact absurd hkeys (by decide)
    · rw [List.mem_singleton.1 hy, OutputEvent.announced?, hshown "y" (by decide)] at hkeys
      exact absurd hkeys (by decide)
  · -- the announcement names the other context with this canonical key
    refine Announced.not_of_split
      [.index 0 (shownContext (userContext "org:x")), customOutput (userContext "org:x")]
      (customOutput (bareContext orgKind "x")) [] rfl rfl rfl ?_
    intro y hy hkeys
    rcases List.mem_cons.1 hy with rfl | hy
    · rw [OutputEvent.announced?, hshown "org:x" (by decide)] at hkeys
      exact absurd hkeys (by decide)
    · rw [List.mem_singleton.1 hy] at hkeys
      cases hkeys
  · -- the announcement is in the delivery that was overtaken
    exact Announced.not_of_split [] (customOutput (userContext "a")) [] rfl rfl rfl
      fun y hy => absurd hy List.not_mem_nil

end FeatureFlags.Processor

/-
  PRIVATE VALUES NEVER INFLUENCE WHAT IS SENT — a law of two runs.

  Two programs do the same, step by step, but the contexts of their events differ in private values.
  Contexts are read all over: to announce them, to remember whom was met, to count, and for each
  kind of output event.

  1. **Twins** — two processors that differ at most in the events that wait or were taken in; one is
     the other `withIntake` of its own.
  2. **Steps that read no events** — they do the same to both.
  3. **The crux (`Twins.act`)** — every action keeps twins, if both send events that are the same
     but for private values.  Only `record_withIntake` takes the reading of contexts apart.
  4. **Main result** — after both runs the processors are twins, so that everything sent or counted
     is the same.
-/
import FeatureFlags.Proofs.Event.Secrecy
import FeatureFlags.Proofs.Processor.Books
import FeatureFlags.Proofs.Processor.Traffic

namespace FeatureFlags.Processor

open Calendar (Instant)

/-! ## Twins -/

/-- `m.SameBut r m'` — messages that differ at most in their events, and there in what is
    private. -/
inductive Message.SameBut (r : Redaction) : Message → Message → Prop where
  | event {e e' : InputEvent} (same : e.SameBut r e') : SameBut r (.event e) (.event e')
  | flush (id : Nat) : SameBut r (.flush id) (.flush id)
  | close : SameBut r .close .close

/-- **`a.SameBut r a'`** — actions that differ at most in the event that is sent, and there in what
    is private. -/
inductive Action.SameBut (r : Redaction) : Action → Action → Prop where
  | send {e e' : InputEvent} (same : e.SameBut r e') : SameBut r (.send e) (.send e')
  | other (a : Action) (quiet : ∀ e, a ≠ .send e) : SameBut r a a

/-- A processor with other events. -/
def withIntake (p : Processor) (inbox : List Message) (processed : List InputEvent) : Processor :=
  { p with inbox, processed }

/-- **`Twins r p q`** — the processors differ at most in their events, and there in what is
    private. -/
def Twins (r : Redaction) (p q : Processor) : Prop :=
  ∃ inbox processed, q = p.withIntake inbox processed ∧
    List.Forall₂ (Message.SameBut r) p.inbox inbox ∧
    List.Forall₂ (InputEvent.SameBut r) p.processed processed

variable {p q : Processor} {inbox : List Message} {processed : List InputEvent}

/-! ## Steps that read no events -/

theorem drop_withIntake :
    (p.withIntake inbox processed).drop = p.drop.withIntake inbox processed := by
  show (let q :=
      if p.dropped = 0 then (p.withIntake inbox processed).note .queueFull
      else p.withIntake inbox processed
    ({ q with dropped := p.dropped + 1 } : Processor)) = _
  unfold drop
  split <;> rfl

/-- Queueing does not look at what waits or was taken in. -/
theorem enqueue_withIntake (e : OutputEvent) :
    (p.withIntake inbox processed).enqueue e = (p.enqueue e).withIntake inbox processed := by
  unfold enqueue
  rw [drop_withIntake]
  show (if p.settings.capacity ≤ p.queue.length then _ else _) = _
  split <;> rfl

theorem foldl_enqueue_withIntake (outputs : List OutputEvent) :
    outputs.foldl enqueue (p.withIntake inbox processed) =
      (outputs.foldl enqueue p).withIntake inbox processed := by
  induction outputs generalizing p with
  | nil => rfl
  | cons e rest ih => rw [List.foldl_cons, enqueue_withIntake, ih, List.foldl_cons]

/-- Neither does a flush, which takes its payload from queue and tally. -/
theorem flush_withIntake (purpose : Purpose) :
    (p.withIntake inbox processed).flush purpose =
      (p.flush purpose).withIntake inbox processed := by
  unfold flush
  show (if p.payload = [] then _ else _) = _
  split <;> rfl

theorem flushFor_withIntake (id : Nat) :
    (p.withIntake inbox processed).flushFor id = (p.flushFor id).withIntake inbox processed := by
  unfold flushFor
  rw [flush_withIntake]
  show (if p.shutDown then _ else if p.payload = [] then _ else _) = _
  split
  · rfl
  · split <;> rfl

theorem beginEnd_withIntake :
    (p.withIntake inbox processed).beginEnd = p.beginEnd.withIntake inbox processed := by
  show (if p.shutDown then ({ p with phase := .finishing } : Processor).withIntake inbox processed
    else (({ p with phase := .finishing } : Processor).withIntake inbox processed).flush .final) =
    (if p.shutDown then ({ p with phase := .finishing } : Processor)
      else ({ p with phase := .finishing } : Processor).flush .final).withIntake inbox processed
  rw [flush_withIntake]
  split <;> rfl

theorem conclude_withIntake (purpose : Purpose) (outcome : Except Failure Unit) :
    (p.withIntake inbox processed).conclude purpose outcome =
      (p.conclude purpose outcome).withIntake inbox processed := by
  rcases purpose with _ | _ | _ | _ <;> cases outcome <;> rfl

theorem learn_withIntake (r : DeliveryResult) :
    (p.withIntake inbox processed).learn r = (p.learn r).withIntake inbox processed := by
  unfold learn
  split <;> rfl

theorem begin_withIntake (place : Nat) :
    (p.withIntake inbox processed).begin place = (p.begin place).withIntake inbox processed := by
  have hpending : (p.withIntake inbox processed).pending = p.pending := rfl
  unfold begin
  rw [hpending]
  cases p.pending[place]? with
  | none => rfl
  | some d =>
    -- whether it is refused depends on the mark of the shutdown and the kind of payload
    simp only
    show (if (p.shutDown && d.payload.kind = .analytics) = true then _ else _) = _
    split
    · exact conclude_withIntake
        (p := { p with pending := p.pending.eraseIdx place, refused := p.refused ++ [d.payload] })
        d.purpose (.error .invalidSdkKey)
    · rfl

theorem finish_withIntake (place : Nat) (r : DeliveryResult) :
    (p.withIntake inbox processed).finish place r =
      (p.finish place r).withIntake inbox processed := by
  have hunderway : (p.withIntake inbox processed).underway = p.underway := rfl
  unfold finish
  rw [hunderway]
  cases p.underway[place]? with
  | none => rfl
  | some d =>
    simp only
    cases d.payload.kind with
    | diagnostics => rfl
    | analytics =>
      show ((({ p with underway := p.underway.eraseIdx place } : Processor).withIntake inbox
        processed).learn r).conclude d.purpose r.outcome = _
      rw [learn_withIntake, conclude_withIntake]

theorem statsTick_withIntake (now : Instant) :
    (p.withIntake inbox processed).statsTick now =
      (p.statsTick now).withIntake inbox processed := by
  have hdiagnostics : (p.withIntake inbox processed).diagnostics = p.diagnostics := rfl
  unfold statsTick
  rw [hdiagnostics]
  cases p.diagnostics with
  | none => rfl
  | some d =>
    simp only
    show (if decide (p.phase ≠ .running) || p.shutDown then _ else _) = _
    split <;> rfl

theorem flushTick_withIntake :
    (p.withIntake inbox processed).flushTick = p.flushTick.withIntake inbox processed := by
  unfold flushTick
  rw [flush_withIntake]
  show (if decide (p.phase ≠ .running) || p.shutDown then _ else _) = _
  split <;> rfl

theorem contextKeysTick_withIntake :
    (p.withIntake inbox processed).contextKeysTick =
      p.contextKeysTick.withIntake inbox processed := by
  unfold contextKeysTick
  show (if p.phase ≠ .running then _ else _) = _
  split <;> rfl

/-! ## Taking an event in -/

variable {r : Redaction} {e e' : InputEvent}

/-- Of a context met or not met before, only the canonical key is read. -/
theorem hasMet_eq (h : e.SameBut r e') : p.hasMet e'.context = p.hasMet e.context := by
  rw [hasMet, hasMet, h.context.canonicalKey_eq]

/-- Whether a context was met depends on its canonical key, which is never private. -/
theorem isRepeat_eq (h : e.SameBut r e') : p.isRepeat e' = p.isRepeat e := by
  have hmet := hasMet_eq (p := p) h
  cases h with
  | feature e same => exact hmet
  | custom e same => exact hmet
  | identify e same => rfl
  | migration e same => rfl

/-- An event is counted and its context met alike for both. -/
theorem record_withIntake (h : e.SameBut r e') :
    (p.withIntake inbox processed).record e' =
      (p.record e).withIntake inbox (processed ++ [e']) := by
  have hmeets : e'.meetsContext = e.meetsContext := by cases h <;> rfl
  show ({ p with
    inbox
    tally := p.tally.addEvent e'
    met := if e'.meetsContext then p.met.put e'.context.canonicalKey () else p.met
    deduplicated := p.deduplicated + if p.isRepeat e' then 1 else 0
    processed := processed ++ [e'] } : Processor) = _
  rw [hmeets, isRepeat_eq h, ← h.addEvent_eq, ← h.context.canonicalKey_eq]
  rfl

/-- **Both events do the same to both processors.** -/
theorem process_withIntake (h : e.SameBut p.settings.redaction e') (now : Instant) (drawn : Bool) :
    (p.withIntake inbox processed).process now drawn e' =
      (p.process now drawn e).withIntake inbox
        (if p.shutDown then processed else processed ++ [e']) := by
  have hdebugged : e'.isDebugged now p.serverTime = e.isDebugged now p.serverTime := by
    cases h <;> rfl
  have hratio : e'.samplingRatio = e.samplingRatio := by cases h <;> rfl
  have houtputs := h.outputs_eq (!p.hasMet e.context) (e.isDebugged now p.serverTime)
    (isSampled drawn e.samplingRatio)
  unfold process
  show (if p.shutDown then p.withIntake inbox processed
    else (e'.outputs p.settings.redaction (!p.hasMet e'.context) (e'.isDebugged now p.serverTime)
      (isSampled drawn e'.samplingRatio)).foldl enqueue
        ((p.withIntake inbox processed).record e')) = _
  rw [hasMet_eq h, hdebugged, hratio, ← houtputs, record_withIntake h, foldl_enqueue_withIntake]
  split <;> rfl

/-! ## Actions -/

namespace Twins

/-- A step that reads no events keeps twins.  It leaves the processor's own events alone, too. -/
theorem keep (h : Twins r p q) (f : Processor → Processor)
    (hf : ∀ inbox processed, f (p.withIntake inbox processed) = (f p).withIntake inbox processed) :
    Twins r (f p) (f q) := by
  obtain ⟨inbox, processed, rfl, hinbox, hprocessed⟩ := h
  have hself : f p = (f p).withIntake p.inbox p.processed := hf p.inbox p.processed
  refine ⟨inbox, processed, hf inbox processed, ?_, ?_⟩
  · rw [hself]
    exact hinbox
  · rw [hself]
    exact hprocessed

/-- A message for each of them. -/
theorem concat (h : Twins r p q) {m m' : Message} (hm : m.SameBut r m') :
    Twins r { p with inbox := p.inbox ++ [m] } { q with inbox := q.inbox ++ [m'] } := by
  obtain ⟨inbox, processed, rfl, hinbox, hprocessed⟩ := h
  exact ⟨inbox ++ [m'], processed, rfl, List.rel_append hinbox (.cons hm .nil), hprocessed⟩

/-- Both send an event, or both find the inbox full: the inboxes are equally long. -/
theorem send (h : Twins r p q) (hsame : e.SameBut r e') : Twins r (p.send e) (q.send e') := by
  have hconcat := h.concat (.event hsame)
  have hdrop : Twins r p.drop q.drop := h.keep drop fun _ _ => drop_withIntake
  obtain ⟨inbox, processed, rfl, hinbox, hprocessed⟩ := id h
  -- whether there is room is a matter of numbers
  have hlength : inbox.length = p.inbox.length := hinbox.length_eq.symm
  unfold Processor.send
  show Twins r _ (if (p.closed || p.shutDown) = true then _
    else if max p.settings.capacity 1 ≤ inbox.length then _ else _)
  rw [hlength]
  split
  · exact h
  · split
    · exact hdrop
    · exact hconcat

theorem requestFlush (h : Twins r p q) (id : Nat) :
    Twins r (p.requestFlush id) (q.requestFlush id) := by
  have hconcat := h.concat (.flush id)
  have hreply : ∀ answer, Twins r (p.reply id answer) (q.reply id answer) := fun answer =>
    h.keep (fun p => p.reply id answer) fun _ _ => rfl
  obtain ⟨inbox, processed, rfl, -, -⟩ := h
  unfold Processor.requestFlush
  show Twins r _ (if p.shutDown then _
      else if (p.closed || decide (p.phase = .stopped)) = true then _ else _)
  split
  · exact hreply _
  · split
    · exact hreply _
    · exact hconcat

theorem requestClose (h : Twins r p q) : Twins r p.requestClose q.requestClose := by
  have hclosed : Twins r { p with closed := true } { q with closed := true } :=
    h.keep (fun p => { p with closed := true }) fun _ _ => rfl
  have hconcat := hclosed.concat .close
  obtain ⟨inbox, processed, rfl, -, -⟩ := id h
  unfold Processor.requestClose
  show Twins r _ (if p.closed then _ else _)
  split
  · exact h
  · exact hconcat

/-- Events that are the same but for private values ask for the same outputs. -/
theorem process (h : Twins p.settings.redaction p q) (hsame : e.SameBut p.settings.redaction e')
    (now : Instant) (drawn : Bool) :
    Twins p.settings.redaction (p.process now drawn e) (q.process now drawn e') := by
  obtain ⟨inbox, processed, rfl, hinbox, hprocessed⟩ := h
  have htraffic := traffic_process p now drawn e
  have hkept : (p.process now drawn e).inbox = p.inbox := congrArg Traffic.inbox htraffic
  -- both take the event in, or both are shut down
  have hgrown : (p.process now drawn e).processed =
      if p.shutDown then p.processed else p.processed ++ [e] :=
    congrArg Traffic.processed htraffic
  refine ⟨inbox, if p.shutDown then processed else processed ++ [e'],
    process_withIntake hsame now drawn, hkept ▸ hinbox, ?_⟩
  rw [hgrown]
  split
  · exact hprocessed
  · exact List.rel_append hprocessed (.cons hsame .nil)

/-- The messages at the head are both events, or one and the same request. -/
theorem receive (h : Twins p.settings.redaction p q) (now : Instant) (drawn : Bool) :
    Twins p.settings.redaction (p.receive now drawn) (q.receive now drawn) := by
  obtain ⟨inbox, processed, rfl, hinbox, hprocessed⟩ := id h
  by_cases hphase : p.phase = .running
  · cases hmessages : p.inbox with
    | nil =>
      rw [hmessages] at hinbox
      cases hinbox
      rw [receive_nil hmessages, receive_nil (p := p.withIntake [] processed) rfl]
      exact h
    | cons m rest =>
      -- the first messages belong together, and so do the messages behind them
      rw [hmessages] at hinbox
      obtain ⟨m', rest', hm, hrest, rfl⟩ := List.forall₂_cons_left_iff.1 hinbox
      have hleft : Twins p.settings.redaction { p with inbox := rest }
          (({ p with inbox := rest } : Processor).withIntake rest' processed) :=
        ⟨rest', processed, rfl, hrest, hprocessed⟩
      rw [receive_cons hphase hmessages,
        receive_cons (p := p.withIntake (m' :: rest') processed) hphase rfl]
      cases hm with
      | event same => exact process (p := { p with inbox := rest }) hleft same now drawn
      | flush id =>
        exact hleft.keep (fun p => p.flushFor id) fun _ _ => flushFor_withIntake id
      | close => exact hleft.keep beginEnd fun _ _ => beginEnd_withIntake
  · rw [receive_idle hphase, receive_idle (p := p.withIntake inbox processed) hphase]
    exact h

theorem endForsaken (h : Twins r p q) : Twins r p.endForsaken q.endForsaken := by
  have hend : Twins r p.beginEnd q.beginEnd := h.keep beginEnd fun _ _ => beginEnd_withIntake
  -- of the inbox, only whether it is empty counts
  have hforsaken : q.isForsaken = p.isForsaken := by
    obtain ⟨inbox, processed, rfl, hinbox, -⟩ := h
    have hempty : inbox = [] ↔ p.inbox = [] := by
      rw [← List.length_eq_zero_iff, ← hinbox.length_eq, List.length_eq_zero_iff]
    show (p.released && decide (inbox = []) && !p.awaitsFlush) = _
    rw [decide_eq_decide.2 hempty]
    rfl
  have hphase : q.phase = p.phase := by
    obtain ⟨inbox, processed, rfl, -, -⟩ := h
    rfl
  unfold Processor.endForsaken
  rw [hforsaken, hphase]
  split
  · exact hend
  · exact h

/-- Flushes that come too late are the same ones. -/
theorem lateAnswers_eq {first second : List Message}
    (h : List.Forall₂ (Message.SameBut r) first second) :
    lateAnswers second = lateAnswers first := by
  induction h with
  | nil => rfl
  | cons hm _ ih =>
    cases hm with
    | event same => exact ih
    | flush id => exact congrArg (List.cons (id, .error .eventProcessorClosed)) ih
    | close => exact ih

theorem stop (h : Twins r p q) : Twins r p.stop q.stop := by
  obtain ⟨inbox, processed, rfl, hinbox, hprocessed⟩ := id h
  by_cases hdone : p.isDone = true
  · rw [stop_of_isDone hdone, stop_of_isDone (p := p.withIntake inbox processed) hdone]
    refine ⟨[], processed, ?_, .nil, hprocessed⟩
    -- the flushes that wait are the same ones, so they get the same answers
    show ({ p with
      phase := .stopped
      inbox := []
      processed
      replies := p.replies ++ lateAnswers inbox } : Processor) = _
    rw [lateAnswers_eq hinbox]
    rfl
  · have hrests : ∀ p : Processor, ¬ p.isDone = true → p.stop = p := fun p hp => if_neg hp
    rw [hrests p hdone, hrests (p.withIntake inbox processed) hdone]
    exact h

/-- **Every action keeps twins**, if both send events that are the same but for private values. -/
theorem act (h : Twins p.settings.redaction p q) {a a' : Action}
    (ha : a.SameBut p.settings.redaction a') :
    Twins p.settings.redaction (p.act a) (q.act a') := by
  cases ha with
  | send same => exact h.send same
  | other a quiet =>
    -- every other action is the same for both, and most of them read no event
    cases a with
    | send e => exact absurd rfl (quiet e)
    | requestFlush id => exact h.requestFlush id
    | requestClose => exact h.requestClose
    | giveUp => exact h.keep giveUp fun _ _ => rfl
    | release => exact h.keep release fun _ _ => rfl
    | recordStreamInit attempt =>
      exact h.keep (fun p => p.recordStreamInit attempt) fun _ _ => rfl
    | receive now drawn => exact h.receive now drawn
    | endForsaken => exact h.endForsaken
    | flushTick => exact h.keep flushTick fun _ _ => flushTick_withIntake
    | contextKeysTick =>
      exact h.keep contextKeysTick fun _ _ => contextKeysTick_withIntake
    | statsTick now =>
      exact h.keep (fun p => p.statsTick now) fun _ _ => statsTick_withIntake now
    | stop => exact h.stop
    | begin place =>
      exact h.keep (fun p => p.begin place) fun _ _ => begin_withIntake place
    | finish place r =>
      exact h.keep (fun p => p.finish place r) fun _ _ => finish_withIntake place r

end Twins

/-- **Twins stay twins**, whatever happens to both. -/
theorem Twins.run {r : Redaction} {first second : List Action}
    (h : List.Forall₂ (Action.SameBut r) first second) {p q : Processor}
    (hp : p.settings.redaction = r) (hpq : Twins r p q) :
    Twins r (p.run first) (q.run second) := by
  induction h generalizing p q with
  | nil => exact hpq
  | @cons a a' _ _ ha _ ih =>
    subst hp
    have hsettings : (p.act a).settings = p.settings :=
      books_act (P := fun b => b.settings = p.settings) (fun _ _ hstep hb =>
        by cases hstep <;> exact hb) rfl
    exact ih (congrArg Settings.redaction hsettings) (hpq.act ha)

/-! ## Main result -/

/-- **What is private never influences what is sent.**  In two runs that are the same step by step,
    but for values at secret paths and for secondary keys in the contexts of their events, the same
    payloads are taken and handed to the sender, and the same events are dropped and counted as
    repeats.  The processors themselves differ in nothing but the events that wait or were taken
    in. -/
theorem run_keeps_secrets (settings : Settings) (diagnostics : Option Diagnostics)
    {first second : List Action}
    (h : List.Forall₂ (Action.SameBut settings.redaction) first second) :
    let p := (start settings diagnostics).run first
    let q := (start settings diagnostics).run second
    q.taken = p.taken ∧ q.handed = p.handed ∧ q.dropped = p.dropped ∧ q.discarded = p.discarded ∧
    q.deduplicated = p.deduplicated ∧ q = p.withIntake q.inbox q.processed := by
  intro p q
  have hstart :
      Twins settings.redaction (start settings diagnostics) (start settings diagnostics) :=
    ⟨[], [], rfl, .nil, .nil⟩
  obtain ⟨inbox, processed, hq, -, -⟩ : Twins settings.redaction p q := hstart.run h rfl
  rw [hq]
  exact ⟨rfl, rfl, rfl, rfl, rfl, rfl⟩

/-- A guest whose mail address is not to be seen. -/
def guest (email : String) : Context :=
  .single ⟨Kind.user, "a", none, false, none, [("email", .text email)], []⟩

/-- Settings that make mail addresses private. -/
def guardedSettings : Settings := ⟨10, 0, 10, 0, 0, ⟨false, [.ofText "email"]⟩, 0⟩

theorem sameBut_guest (email other : String) :
    (guest email).SameBut guardedSettings.redaction (guest other) := by
  have hmapped : ∀ text, (Document.object [("email", .text text)] : Attribute).Mapped := by
    intro text
    refine Document.mapped_object (List.pairwise_singleton _ _) fun name d hd => ?_
    obtain ⟨-, rfl⟩ := Prod.mk.inj (List.mem_singleton.1 (Entries.mem_of_get? hd))
    exact Document.mapped_of_ne_object fun _ h => by cases h
  have hpaths : guardedSettings.redaction.secretPaths
      ⟨Kind.user, "a", none, false, none, [("email", .text email)], []⟩ = [["email"]] := by
    have hnames : (Reference.ofText "email").names = ["email"] := by decide +kernel
    simp [Redaction.secretPaths, guardedSettings, hnames]
  refine .single ⟨rfl, rfl, rfl, rfl, ⟨hmapped email, hmapped other⟩, fun _ => ?_,
    fun h => by cases h⟩
  rw [hpaths]
  exact Document.sameOutside_insert "email" (.text email) (.text other) []

/-- An event of such a guest. -/
def visit (email : String) : CustomEvent := ⟨0, guest email, "visit", none, none, none⟩

/-- A visit that is announced and sent. -/
def visitRun (email : String) : List Action :=
  [.send (.custom (visit email)), .receive 0 false, .flushTick]

/-- The processor after such a visit. -/
def visited (email : String) : Processor := (start guardedSettings none).run (visitRun email)

/-- Two guests cannot be told apart. -/
theorem run_keeps_secrets_guests :
    List.Forall₂ (Action.SameBut guardedSettings.redaction) (visitRun "x") (visitRun "y") ∧
    (visited "x").processed ≠ (visited "y").processed ∧ (visited "x").taken.length = 1 ∧
    (visited "y").taken = (visited "x").taken := by
  have hreceive : ∀ e, Action.receive 0 false ≠ .send e := fun _ h => by cases h
  have hflush : ∀ e, Action.flushTick ≠ .send e := fun _ h => by cases h
  have hvisit : InputEvent.SameBut guardedSettings.redaction (.custom (visit "x"))
      (.custom (visit "y")) :=
    .custom (visit "x") (sameBut_guest "x" "y")
  have hsame :
      List.Forall₂ (Action.SameBut guardedSettings.redaction) (visitRun "x") (visitRun "y") :=
    .cons (.send hvisit) (.cons (.other _ hreceive) (.cons (.other _ hflush) .nil))
  obtain ⟨htaken, -⟩ := run_keeps_secrets guardedSettings none hsame
  exact ⟨hsame, by decide +kernel, by decide +kernel, htaken⟩

end FeatureFlags.Processor

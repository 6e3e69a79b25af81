/-
  ANSWERS TO FLUSHES — every flush gets one answer, and it is about its own payload.

  Answers come from many places: a flush may be turned away when it is asked for, answered when it
  is received, refused when its delivery would begin, or told the outcome when its delivery ends;
  several deliveries are underway at once and end in any order.

  1. **Ways to an answer (`Answers`)** — one constructor for each.  `answers_of_mem_replies`: an
     action gives an answer in these ways only.
  2. **Own payload (`payloadOf_run`)** — the delivery for which a flush waits carries the payload
     that was taken when that flush was received.
  3. **Accounts (`count_run`)** — a flush that was asked for is answered, waits in the inbox, or
     waits for its delivery: one of these, and once.
-/
import FeatureFlags.Proofs.Processor.Traffic
import Mathlib.Data.List.Induction
import Mathlib.Data.List.Perm.Basic

namespace FeatureFlags.Processor

variable {p : Processor} {a : Action}

/-! ## Ways to an answer -/

/-- `p.Answers a id answer` — in the state `p`, the action `a` answers the flush `id`. -/
inductive Answers (p : Processor) (a : Action) (id : Nat) : Except Failure Unit → Prop where
  /-- The processor is shut down. -/
  | shutDown (asked : a = .requestFlush id ∨ p.Takes a (.flush id)) (shut : p.shutDown = true) :
      Answers p a id (.error .invalidSdkKey)
  /-- The processor is closed, or its program has let go of it. -/
  | closed (asked : a = .requestFlush id ∨ a = .stop ∧ .flush id ∈ p.inbox)
      (gone : p.closed = true ∨ p.released = true) : Answers p a id (.error .eventProcessorClosed)
  /-- There is nothing to send. -/
  | nothing (received : p.Takes a (.flush id)) (running : p.shutDown = false)
    (empty : p.payload = []) :
      Answers p a id (.ok ())
  /-- The delivery of its payload comes too late. -/
  | refused (place : Nat) (events : List OutputEvent) (begun : a = .begin place)
      (waiting : p.pending[place]? = some ⟨.flush id, .analytics events⟩)
        (shut : p.shutDown = true) :
      Answers p a id (.error .invalidSdkKey)
  /-- The delivery of its payload has ended. -/
  | delivered (place : Nat) (events : List OutputEvent) (r : DeliveryResult)
      (ended : a = .finish place r)
      (underway : p.underway[place]? = some ⟨.flush id, .analytics events⟩) :
      Answers p a id r.outcome

/-- `p.Ends` — only a closed processor has a request for the end in its inbox, and a processor ends
    only when it is closed, or released. -/
structure Ends (p : Processor) : Prop where
  asked : .close ∈ p.inbox → p.closed = true
  gone : p.phase ≠ .running → p.closed = true ∨ p.released = true

/-- A request for the end comes from closing, and the running phase is left when it is served or
    after a release. -/
theorem Ends.act (h : p.Ends) : (p.act a).Ends := by
  have hturn : ∀ t, Turn p a t → (.close ∈ t.inbox → t.closed = true) ∧
      (t.phase ≠ .running → t.closed = true ∨ t.released = true) := by
    intro t ht
    cases ht with
    | joins m asked notClose isOpen running =>
      -- events and flushes join; the request for the end comes by `closes` alone
      refine ⟨fun hclose => ?_, h.gone⟩
      rcases List.mem_append.1 hclose with hold | hnew
      · exact h.asked hold
      · exact absurd (List.mem_singleton.1 hnew).symm notClose
    | closes asked isOpen => exact ⟨fun _ => rfl, fun _ => .inl rfl⟩
    | releases asked => exact ⟨h.asked, fun _ => .inr rfl⟩
    | takesIn e rest next =>
      -- what is received leaves the rest of the inbox as it was
      exact ⟨fun hclose => h.asked (next ▸ List.mem_cons_of_mem _ hclose), h.gone⟩
    | ignores e rest next =>
      exact ⟨fun hclose => h.asked (next ▸ List.mem_cons_of_mem _ hclose), h.gone⟩
    | answers id rest next =>
      exact ⟨fun hclose => h.asked (next ▸ List.mem_cons_of_mem _ hclose), h.gone⟩
    | flushes id rest next =>
      exact ⟨fun hclose => h.asked (next ▸ List.mem_cons_of_mem _ hclose), h.gone⟩
    | ends rest running reason =>
      -- the request was in the inbox, so the processor is closed; a forsaken one is released
      rcases reason with next | ⟨hreleased, -, rfl⟩
      · have hclosed : p.closed = true := h.asked (next ▸ List.mem_cons_self ..)
        exact ⟨fun _ => hclosed, fun _ => .inl hclosed⟩
      · exact ⟨fun hclose => absurd hclose List.not_mem_nil, fun _ => .inr hreleased⟩
    | stops here finishing =>
      refine ⟨fun hclose => (by cases hclose), fun _ => h.gone fun hrunning => ?_⟩
      exact absurd (finishing.symm.trans hrunning) nofun
    | _ => exact ⟨h.asked, h.gone⟩
  obtain ⟨hasked, hgone⟩ := hturn _ (turn_act p a)
  exact ⟨hasked, hgone⟩

theorem ends_run (settings : Settings) (diagnostics : Option Diagnostics) (actions : List Action) :
    ((start settings diagnostics).run actions).Ends :=
  run_keeps (fun _ _ h => h.act) actions
    ⟨fun hclose => absurd hclose List.not_mem_nil, fun hphase => absurd rfl hphase⟩

/-- In a run from `s`, the program asks for nothing once it has let go. -/
def AsksNoMore (s : Processor) (actions : List Action) : Prop :=
  ∀ earlier a later, actions = earlier ++ a :: later →
    (s.run earlier).released = true → a.message? = none

/-- **Letting go leaves no flush behind**: a processor that ends without being closed has nothing in
    its inbox, if its program asks for nothing more. -/
theorem inbox_of_released (settings : Settings) (diagnostics : Option Diagnostics)
    {actions : List Action} (quiet : AsksNoMore (start settings diagnostics) actions) :
    let p := (start settings diagnostics).run actions
    p.phase ≠ .running → p.closed = false → p.inbox = [] := by
  induction actions using List.reverseRecOn with
  | nil => exact fun hphase => absurd rfl hphase
  | append_singleton actions a ih =>
    let q := (start settings diagnostics).run actions
    have hquiet : q.released = true → a.message? = none := quiet actions a [] rfl
    have hold : q.phase ≠ .running → q.closed = false → q.inbox = [] :=
      ih fun earlier b later hsplit => quiet earlier b (later ++ [a]) (by simp [hsplit])
    have hends : q.Ends := ends_run settings diagnostics actions
    have hturn : ∀ t, Turn q a t → t.phase ≠ .running → t.closed = false → t.inbox = [] := by
      intro t ht hphase hclosed
      cases ht with
      | joins m asked =>
        -- a message joins only before the program lets go, when the processor has not ended
        have hreleased : q.released = false := by
          cases hreleased : q.released with
          | false => rfl
          | true => exact absurd (asked.symm.trans (hquiet hreleased)) nofun
        rcases hends.gone hphase with hclosed' | hreleased'
        · exact absurd (hclosed'.symm.trans hclosed) nofun
        · exact absurd (hreleased'.symm.trans hreleased) nofun
      | closes => cases hclosed
      | takesIn e rest next taken => exact absurd taken.1 hphase
      | ignores e rest next taken => exact absurd taken.1 hphase
      | answers id rest next taken => exact absurd taken.1 hphase
      | flushes id rest next taken => exact absurd taken.1 hphase
      | ends rest running reason =>
        rcases reason with next | ⟨-, -, hrest⟩
        · have hclosed' : q.closed = true := hends.asked (next ▸ List.mem_cons_self ..)
          exact absurd (hclosed'.symm.trans hclosed) nofun
        · exact hrest
      | stops => rfl
      | _ => exact hold hphase hclosed
    rw [run_append]
    exact hturn _ (turn_act q a)

/-- Who waits for the end of a delivery is told the outcome. -/
theorem mem_answer_iff {purpose : Purpose} {outcome : Except Failure Unit}
    {x : Nat × Except Failure Unit} :
    x ∈ purpose.answer outcome ↔ purpose = .flush x.1 ∧ x.2 = outcome := by
  obtain ⟨id, answer⟩ := x
  cases purpose <;> simp [Purpose.answer, Purpose.flush?, eq_comm]

/-- A delivery of analytics carries events. -/
theorem eq_analytics_of_kind {d : Delivery} (h : d.payload.kind = .analytics) :
    ∃ events, d = ⟨d.purpose, .analytics events⟩ := by
  obtain ⟨purpose, payload⟩ := d
  cases payload with
  | analytics events => exact ⟨events, rfl⟩
  | diagnostics event => cases h

/-- **An action answers a flush in these ways only**, and keeps the answers given before. -/
theorem answers_of_mem_replies (h : p.Ends) :
    ∃ new, (p.act a).replies = p.replies ++ new ∧ ∀ x ∈ new, p.Answers a x.1 x.2 := by
  have hturn : ∀ t, Turn p a t →
      ∃ new, t.replies = p.replies ++ new ∧ ∀ x ∈ new, p.Answers a x.1 x.2 := by
    intro t ht
    cases ht with
    | turnsAway id asked failure reason =>
      -- a processor that was shut down says so first, then one that is closed or has stopped
      refine ⟨[(id, .error failure)], rfl, fun x hx => ?_⟩
      obtain rfl := List.mem_singleton.1 hx
      rcases reason with ⟨hshut, rfl⟩ | ⟨hgone, rfl⟩
      · exact .shutDown (.inl asked) hshut
      · refine .closed (.inl asked) (hgone.elim .inl fun hstopped => h.gone ?_)
        rw [hstopped]
        exact nofun
    | answers id rest next taken answer reason =>
      refine ⟨[(id, answer)], rfl, fun x hx => ?_⟩
      obtain rfl := List.mem_singleton.1 hx
      rcases reason with ⟨hshut, rfl⟩ | ⟨hrunning, hempty, rfl⟩
      · exact .shutDown (.inr taken) hshut
      · exact .nothing taken hrunning hempty
    | @refuses place d here waiting shut analytics =>
      -- a delivery answers the flush that it is for, if it is for one
      refine ⟨_, rfl, fun x hx => ?_⟩
      obtain ⟨hpurpose, hanswer⟩ := mem_answer_iff.1 hx
      obtain ⟨events, hd⟩ := eq_analytics_of_kind analytics
      rw [hd, hpurpose] at waiting
      exact hanswer ▸ .refused place events here waiting shut
    | @finishes place d r here underway shutDown lasting =>
      refine ⟨_, rfl, fun x hx => ?_⟩
      unfold Delivery.answer at hx
      cases hkind : d.payload.kind with
      | diagnostics => rw [hkind] at hx; cases hx
      | analytics =>
        rw [hkind] at hx
        obtain ⟨hpurpose, hanswer⟩ := mem_answer_iff.1 hx
        obtain ⟨events, hd⟩ := eq_analytics_of_kind hkind
        rw [hd, hpurpose] at underway
        exact hanswer ▸ .delivered place events r here underway
    | stops here finishing =>
      -- whatever flush still waits in the inbox comes too late
      refine ⟨_, rfl, fun x hx => ?_⟩
      obtain ⟨m, hm, hlate⟩ := List.mem_filterMap.1 hx
      cases m with
      | flush id =>
        cases hlate
        refine .closed (.inr ⟨here, hm⟩) (h.gone ?_)
        rw [finishing]
        exact nofun
      | event e => cases hlate
      | close => cases hlate
    | _ => exact ⟨[], (List.append_nil _).symm, fun _ hx => absurd hx List.not_mem_nil⟩
  exact hturn _ (turn_act p a)

/-- **A flush that is received** is told that all is well if there is nothing to send; otherwise it
    waits for the delivery of what there is. -/
theorem receive_flush {id : Nat} {rest : List Message} (hphase : p.phase = .running)
    (running : p.shutDown = false) (next : p.inbox = .flush id :: rest) (now : Calendar.Instant)
    (drawn : Bool) :
    let q := p.receive now drawn
    (p.payload = [] → q.replies = p.replies ++ [(id, .ok ())] ∧ q.pending = p.pending) ∧
    (p.payload ≠ [] → q.replies = p.replies ∧
      q.pending = p.pending ++ [⟨.flush id, .analytics p.payload⟩]) := by
  intro q
  have hq : q = ({ p with inbox := rest } : Processor).flushFor id :=
    receive_cons hphase next now drawn
  have hshut : ¬({ p with inbox := rest } : Processor).shutDown = true := by simp [running]
  constructor
  · -- nothing to send: the answer is given at once
    intro hempty
    have hflush : q = ({ p with inbox := rest } : Processor).reply id (.ok ()) := by
      rw [hq, flushFor, if_neg hshut]
      exact if_pos hempty
    rw [hflush]
    exact ⟨rfl, rfl⟩
  · -- else the flush waits for its delivery
    intro hne
    have hflush : q = ({ p with inbox := rest } : Processor).flush (.flush id) := by
      rw [hq, flushFor, if_neg hshut]
      exact if_neg hne
    have htraffic := traffic_flush { p with inbox := rest } (.flush id)
    rw [hflush]
    refine ⟨congrArg Traffic.replies htraffic, (congrArg Traffic.pending htraffic).trans ?_⟩
    exact congrArg (p.pending ++ ·) (if_neg hne)

/-- The end of a delivery is told to the flush that waits for it, if one does, and to no other. -/
theorem replies_finish {place : Nat} {d : Delivery} (underway : p.underway[place]? = some d)
    (r : DeliveryResult) : (p.finish place r).replies = p.replies ++ d.answer r := by
  unfold finish
  rw [underway]
  unfold Delivery.answer
  cases hkind : d.payload.kind with
  | diagnostics => simp only [hkind, List.append_nil]
  | analytics =>
    simp only [hkind]
    have htraffic := traffic_conclude
      (({ p with underway := p.underway.eraseIdx place } : Processor).learn r) d.purpose r.outcome
    refine (congrArg Traffic.replies htraffic).trans ?_
    unfold learn
    cases r.status <;> rfl

/-! ## Own payload -/

/-- `PayloadOf s actions id payload` — in a run from `s`, the flush `id` was received when `payload`
    was what there was to send. -/
def PayloadOf (s : Processor) (actions : List Action) (id : Nat) (payload : Payload) : Prop :=
  ∃ earlier a later, actions = earlier ++ a :: later ∧
    let q := s.run earlier
    q.Takes a (.flush id) ∧ q.shutDown = false ∧ q.payload ≠ [] ∧ payload = .analytics q.payload

/-- What a flush was received for does not change later on. -/
theorem PayloadOf.concat {s : Processor} {actions : List Action} {id : Nat} {payload : Payload}
    (h : PayloadOf s actions id payload) (a : Action) :
    PayloadOf s (actions ++ [a]) id payload := by
  obtain ⟨earlier, b, later, rfl, htaken⟩ := h
  exact ⟨earlier, b, later ++ [a], by simp, htaken⟩

/-- At the start no flush waits for a delivery. -/
theorem fresh_start (settings : Settings) (diagnostics : Option Diagnostics) :
    let s := start settings diagnostics
    ∀ d ∈ s.pending ++ s.underway, d.purpose.flush? = none := by
  intro s d hd
  obtain ⟨x, -, rfl⟩ : ∃ x, x ∈ diagnostics.toList ∧
      (⟨.diagnostics, .diagnostics x.initEvent⟩ : Delivery) = d := by
    simpa [s, start] using hd
  rfl

/-- **Where a delivery comes from**: it was there before, or no flush waits for it, or it carries
    what the flush that is received finds to send. -/
theorem delivery_act {d : Delivery} (hd : d ∈ (p.act a).pending ++ (p.act a).underway) :
    d ∈ p.pending ++ p.underway ∨ d.purpose.flush? = none ∨
      ∃ id, p.Takes a (.flush id) ∧ p.shutDown = false ∧ p.payload ≠ [] ∧
        d = ⟨.flush id, .analytics p.payload⟩ := by
  have hturn : ∀ t, Turn p a t → d ∈ t.pending ++ t.underway → d ∈ p.pending ++ p.underway ∨
      d.purpose.flush? = none ∨ ∃ id, p.Takes a (.flush id) ∧ p.shutDown = false ∧ p.payload ≠ [] ∧
        d = ⟨.flush id, .analytics p.payload⟩ := by
    intro t ht hmem
    -- a delivery is one of the earlier ones, or one that this action gets ready
    have hnew : ∀ {fresh : List Delivery}, d ∈ (p.pending ++ fresh) ++ p.underway →
        d ∈ p.pending ++ p.underway ∨ d ∈ fresh := by
      intro fresh h
      simp only [List.mem_append] at h ⊢
      rcases h with (hpending | hfresh) | hunderway
      · exact .inl (.inl hpending)
      · exact .inr hfresh
      · exact .inl (.inr hunderway)
    cases ht with
    | flushes id rest next taken running nonempty =>
      exact (hnew hmem).imp_right fun h =>
        .inr ⟨id, taken, running, nonempty, List.mem_singleton.1 h⟩
    | ends rest running reason =>
      refine (hnew hmem).imp_right fun h => .inl ?_
      unfold lastDelivery at h
      split at h
      · cases h
      · rw [List.mem_singleton.1 h]
        rfl
    | schedules d' running purpose =>
      refine (hnew hmem).imp_right fun h => .inl ?_
      rw [List.mem_singleton.1 h]
      rcases purpose with hpurpose | hpurpose <;> rw [hpurpose] <;> rfl
    | @begins place d' here waiting =>
      refine .inl ?_
      simp only [List.mem_append, List.mem_singleton] at hmem ⊢
      rcases hmem with hpending | hunderway | rfl
      · exact .inl (List.mem_of_mem_eraseIdx hpending)
      · exact .inr hunderway
      · exact .inl (List.mem_of_getElem? waiting)
    | refuses here waiting shut analytics =>
      refine .inl ?_
      simp only [List.mem_append] at hmem ⊢
      exact hmem.imp_left List.mem_of_mem_eraseIdx
    | finishes here underway shutDown lasting =>
      refine .inl ?_
      simp only [List.mem_append] at hmem ⊢
      exact hmem.imp_right List.mem_of_mem_eraseIdx
    | _ => exact .inl hmem
  exact hturn _ (turn_act p a) hd

/-- **A delivery for which a flush waits carries the payload of that flush.** -/
theorem payloadOf_run {s : Processor}
    (hstart : ∀ d ∈ s.pending ++ s.underway, d.purpose.flush? = none) (actions : List Action) :
    ∀ d ∈ (s.run actions).pending ++ (s.run actions).underway, ∀ id, d.purpose = .flush id →
      PayloadOf s actions id d.payload := by
  induction actions using List.reverseRecOn with
  | nil =>
    intro d hd id hpurpose
    have hnone := hstart d hd
    rw [hpurpose] at hnone
    cases hnone
  | append_singleton actions a ih =>
    -- a delivery after the last action was there before, is for no flush, or was made by a flush
    -- that the last action received
    intro d hd id hpurpose
    rw [run_append] at hd
    rcases delivery_act hd with hold | hnone | ⟨id', taken, running, nonempty, rfl⟩
    · exact (ih d hold id hpurpose).concat a
    · rw [hpurpose] at hnone
      cases hnone
    · cases hpurpose
      exact ⟨actions, a, [], rfl, taken, running, nonempty, rfl⟩

/-! ## Accounts -/

/-- How often a flush is answered, waits in the inbox, or waits for a delivery. -/
def Traffic.count (t : Traffic) (id : Nat) : Nat :=
  t.replies.countP (·.1 = id) + t.inbox.count (.flush id) +
    t.pending.countP (·.purpose = .flush id) + t.underway.countP (·.purpose = .flush id)

/-- Taking an item from its place takes it from the count. -/
theorem countP_eraseIdx {α : Type} (f : α → Bool) {items : List α} {place : Nat} {x : α}
    (h : items[place]? = some x) :
    items.countP f = (items.eraseIdx place).countP f + if f x then 1 else 0 := by
  obtain ⟨hlt, hget⟩ := List.getElem?_eq_some_iff.1 h
  have hperm : (x :: items.eraseIdx place).Perm items := hget ▸ List.getElem_cons_eraseIdx_perm hlt
  rw [← hperm.countP_eq, List.countP_cons]

/-- The end of a delivery answers the one flush that waits for it, once. -/
theorem countP_answer (purpose : Purpose) (outcome : Except Failure Unit) (id : Nat) :
    (purpose.answer outcome).countP (·.1 = id) = if purpose = .flush id then 1 else 0 := by
  cases purpose <;> simp [Purpose.answer, Purpose.flush?, List.countP_cons]

/-- The end of a delivery answers the flush that waits for it, as flushes wait for events only. -/
theorem countP_answer_of_attended {d : Delivery} {id : Nat}
    (attended : d.purpose = .flush id → d.payload.kind = .analytics) (r : DeliveryResult) :
    (d.answer r).countP (·.1 = id) = if d.purpose = .flush id then 1 else 0 := by
  unfold Delivery.answer
  cases hkind : d.payload.kind with
  | analytics => exact countP_answer d.purpose r.outcome id
  | diagnostics =>
    have hd : d.purpose ≠ .flush id := by
      intro hpurpose
      have hanalytics := attended hpurpose
      rw [hkind] at hanalytics
      cases hanalytics
    rw [if_neg hd]
    rfl

/-- No flush waits for the last delivery. -/
theorem countP_lastDelivery (p : Processor) (id : Nat) :
    p.lastDelivery.countP (·.purpose = .flush id) = 0 := by
  unfold lastDelivery
  split <;> simp

/-- At the end, each flush that still waits in the inbox is told so. -/
theorem countP_lateAnswers (messages : List Message) (id : Nat) :
    (lateAnswers messages).countP (·.1 = id) = messages.count (.flush id) := by
  induction messages with
  | nil => rfl
  | cons m rest ih =>
    rw [List.count_cons, ← ih]
    cases m with
    | event e => rfl
    | close => rfl
    | flush id' =>
      show ((id', _) :: lateAnswers rest).countP _ = _
      simp [List.countP_cons]

/-- A flush that is asked for is answered at once, or waits in the inbox. -/
theorem count_requestFlush (id : Nat) :
    (p.requestFlush id).traffic.count id = p.traffic.count id + 1 := by
  have hanswered : ∀ answer, (p.reply id answer).traffic.count id = p.traffic.count id + 1 := by
    intro answer
    simp only [Traffic.count, traffic, reply, List.countP_append, List.countP_singleton,
      decide_eq_true_eq, if_true]
    omega
  unfold requestFlush
  split
  · exact hanswered _
  · split
    · exact hanswered _
    · simp only [Traffic.count, traffic, List.count_append, List.count_singleton_self]
      omega

/-- **Every other action keeps the account of a flush**: an answer takes the place of a message or
    of a delivery, and a delivery that of a message. -/
theorem count_of_other
    (attended : ∀ d ∈ p.underway, ∀ id, d.purpose = .flush id → d.payload.kind = .analytics)
    {id : Nat} (other : a.message? ≠ some (.flush id)) :
    (p.act a).traffic.count id = p.traffic.count id := by
  have hturn : ∀ t, Turn p a t → t.count id = p.traffic.count id := by
    intro t ht
    unfold Traffic.count
    -- what leaves one of the four places joins another one, and what joins otherwise is no matter
    -- of `id`
    cases ht with
    | rests => rfl
    | joins m asked =>
      have hm : m ≠ .flush id := fun heq => other (heq ▸ asked)
      simp [traffic, hm]
    | closes asked => simp [traffic]
    | releases asked => rfl
    | turnsAway asked here =>
      have hid : asked ≠ id := fun heq => other (by rw [here, heq]; rfl)
      simp [traffic, hid]
    | takesIn e rest next => simp [traffic, next]
    | ignores e rest next => simp [traffic, next]
    | answers asked rest next =>
      simp only [traffic, next, List.count_cons, List.countP_append, List.countP_singleton,
        beq_iff_eq, Message.flush.injEq, decide_eq_true_eq]
      omega
    | flushes asked rest next =>
      simp only [traffic, next, List.count_cons, List.countP_append, List.countP_singleton,
        beq_iff_eq, Message.flush.injEq, Purpose.flush.injEq, decide_eq_true_eq]
      omega
    | ends rest running reason =>
      have hinbox : rest.count (.flush id) = p.inbox.count (.flush id) := by
        rcases reason with next | ⟨-, hinbox, rfl⟩
        · simp [next]
        · rw [hinbox]
      simp only [traffic, List.countP_append, countP_lastDelivery, hinbox, Nat.add_zero]
    | schedules d running purpose =>
      have hd : d.purpose ≠ .flush id := by
        rcases purpose with h | h <;> simp [h]
      simp [traffic, hd]
    | begins here waiting =>
      have hpending := countP_eraseIdx (·.purpose = .flush id) waiting
      simp only [traffic, List.countP_append, List.countP_singleton]
      omega
    | refuses here waiting =>
      have hpending := countP_eraseIdx (·.purpose = .flush id) waiting
      simp only [traffic, List.countP_append, countP_answer, decide_eq_true_eq] at hpending ⊢
      omega
    | @finishes place d r here underway =>
      have hunderway := countP_eraseIdx (·.purpose = .flush id) underway
      have hanswer : (d.answer r).countP (·.1 = id) = if d.purpose = .flush id then 1 else 0 :=
        countP_answer_of_attended (attended d (List.mem_of_getElem? underway) id) r
      simp only [traffic, List.countP_append, hanswer, decide_eq_true_eq] at hunderway ⊢
      omega
    | stops here finishing =>
      simp only [traffic, List.countP_append, countP_lateAnswers, List.count_nil]
      omega
  exact hturn _ (turn_act p a)

/-- **A flush is answered as often as it was asked for, but for the requests that still wait.** -/
theorem count_run {s : Processor} (hstart : ∀ d ∈ s.pending ++ s.underway, d.purpose.flush? = none)
    (actions : List Action) (id : Nat) :
    (s.run actions).traffic.count id =
      s.traffic.count id + actions.countP (fun a => a.message? = some (.flush id)) := by
  induction actions using List.reverseRecOn with
  | nil => rfl
  | append_singleton actions a ih =>
    -- a delivery that a flush waits for carries events, so that its end gives an answer
    have hattended : ∀ d ∈ (s.run actions).underway, ∀ id, d.purpose = .flush id →
        d.payload.kind = .analytics := by
      intro d hd id hpurpose
      obtain ⟨_, _, _, _, _, _, _, hpayload⟩ :=
        payloadOf_run hstart actions d (List.mem_append_right _ hd) id hpurpose
      rw [hpayload]
      rfl
    rw [run_append, run_cons, run_nil, List.countP_append, List.countP_singleton]
    by_cases hasked : a.message? = some (.flush id)
    · -- the flush is asked for: it joins the inbox or is turned away
      obtain rfl : a = .requestFlush id := by
        cases a <;> cases hasked
        rfl
      have hcount := count_requestFlush (p := s.run actions) id
      simp only [act, hasked, decide_true, if_true]
      omega
    · -- any other action moves the flush on, from one of the three places to another
      rw [count_of_other hattended hasked, ih]
      simp only [hasked, decide_false, Bool.false_eq_true, if_false, Nat.add_zero]

/-- Every flush that was asked for is answered, or waits for its answer. -/
theorem count_of_start (settings : Settings) (diagnostics : Option Diagnostics)
    (actions : List Action) (id : Nat) :
    ((start settings diagnostics).run actions).traffic.count id =
      actions.countP fun a => a.message? = some (.flush id) := by
  have hzero : (start settings diagnostics).traffic.count id = 0 := by
    cases diagnostics <;> simp [start, traffic, Traffic.count]
  rw [count_run (fresh_start settings diagnostics), hzero, Nat.zero_add]

end FeatureFlags.Processor

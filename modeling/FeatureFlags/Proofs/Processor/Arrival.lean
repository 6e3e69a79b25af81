/-
  FIRST COME, FIRST SERVED — requests are barriers between earlier and later events.

  1. **Service (`Served`)** — what an action can do to the inbox and to the events taken in: a
     message joins at the end, the first one leaves, or the inbox is cleared after the end.
  2. **Accepted events** — those taken in, followed by those that wait.  Until a shutdown they only
     grow, at their end, and what they grow by was sent (`sent_of_mem_processed`).
  3. **The crux (`Awaits`)** — while a request waits, the events taken in and those ahead of it are
     together the events accepted before it.  So when it is served, nothing is ahead of it any more,
     and all of them have been taken in (`processed_of_awaits`).
  4. **After closing** — nothing is accepted any more, so only what waited can still be taken in.
-/
import FeatureFlags.Proofs.Processor.Traffic

namespace FeatureFlags.Processor

/-! ## Service -/

/-- The messages that wait, and the events taken in, after an action. -/
inductive Served (p : Processor) (a : Action) : List Message → List InputEvent → Prop where
  | stays : Served p a p.inbox p.processed
  | joins (m : Message) (asked : a.message? = some m) (isOpen : p.closed = false) :
      Served p a (p.inbox ++ [m]) p.processed
  /-- An event that leaves is taken in, unless the processor is shut down. -/
  | leaves (m : Message) (rest : List Message) (next : p.inbox = m :: rest) :
      Served p a rest (p.processed ++ if p.shutDown then [] else m.event?.toList)
  | cleared (ended : (p.act a).phase ≠ .running) : Served p a [] p.processed

/-- Of all actions only requests, receiving and the end touch the inbox. -/
theorem served_act (p : Processor) (a : Action) :
    Served p a (p.act a).inbox (p.act a).processed := by
  have hturn : ∀ t, Turn p a t → t.phase = (p.act a).phase → Served p a t.inbox t.processed := by
    intro t ht hphase
    cases ht with
    | joins m asked _ isOpen => exact .joins m asked isOpen
    | closes asked isOpen => exact .joins .close (by rw [asked]; rfl) isOpen
    | takesIn e rest next _ running =>
      -- the event leaves the inbox and is taken in
      have h := Served.leaves (a := a) (.event e) rest next
      rwa [running] at h
    | ignores e rest next _ shut =>
      -- after a shutdown it leaves the inbox and is lost
      have h := Served.leaves (a := a) (.event e) rest next
      rwa [shut, if_pos rfl, List.append_nil] at h
    | answers id rest next =>
      have h := Served.leaves (a := a) (.flush id) rest next
      rwa [Message.event?, Option.toList_none, ite_self, List.append_nil] at h
    | flushes id rest next =>
      have h := Served.leaves (a := a) (.flush id) rest next
      rwa [Message.event?, Option.toList_none, ite_self, List.append_nil] at h
    | ends rest running reason =>
      -- a request for the end leaves the inbox; a forsaken processor had none in it
      rcases reason with next | ⟨-, hinbox, rfl⟩
      · have h := Served.leaves (a := a) .close rest next
        rwa [Message.event?, Option.toList_none, ite_self, List.append_nil] at h
      · have h := Served.stays (p := p) (a := a)
        rwa [hinbox] at h
    -- whoever stops has left the running phase, so clearing is allowed
    | stops here finishing => exact .cleared (fun h => nomatch hphase.trans h)
    | _ => exact .stays
  exact hturn _ (turn_act p a) rfl

/-! ## Accepted events -/

/-- **The events accepted so far**, in order: those taken in, and those that wait. -/
def accepted (p : Processor) : List InputEvent := p.processed ++ eventsOf p.inbox

theorem eventsOf_append (first second : List Message) :
    eventsOf (first ++ second) = eventsOf first ++ eventsOf second := List.filterMap_append

theorem eventsOf_cons (m : Message) (rest : List Message) :
    eventsOf (m :: rest) = m.event?.toList ++ eventsOf rest := by
  unfold eventsOf
  rw [List.filterMap_cons]
  cases m.event? <;> rfl

/-- The event that an action sends. -/
def Action.event? (a : Action) : Option InputEvent := a.message?.bind Message.event?

variable {p : Processor} {a : Action}

/-- **An action accepts at most the event that it sends**, and none if the processor is closed. -/
theorem accepted_act (p : Processor) (a : Action) : (p.act a).accepted.Sublist p.accepted ∨
    p.closed = false ∧ (p.act a).accepted = p.accepted ++ a.event?.toList := by
  have hserved : ∀ inbox processed, Served p a inbox processed →
      (processed ++ eventsOf inbox).Sublist p.accepted ∨
        p.closed = false ∧ processed ++ eventsOf inbox = p.accepted ++ a.event?.toList := by
    intro inbox processed h
    cases h with
    | stays => exact .inl (List.Sublist.refl _)
    | joins m asked isOpen =>
      have hevent : a.event? = m.event? := by
        rw [Action.event?, asked]
        rfl
      have hnew : eventsOf [m] = m.event?.toList := by
        rw [eventsOf_cons]
        exact List.append_nil _
      rw [eventsOf_append, hnew, ← hevent, ← List.append_assoc]
      exact .inr ⟨isOpen, rfl⟩
    | leaves m rest next =>
      -- what leaves is taken in, or lost: the accepted events stay or become fewer
      rw [accepted, next, eventsOf_cons, List.append_assoc]
      refine .inl (List.Sublist.append_left (List.Sublist.append_right ?_ _) _)
      split
      · exact List.nil_sublist _
      · exact List.Sublist.refl _
    | cleared => exact .inl (List.Sublist.append_left (List.nil_sublist _) _)
  exact hserved _ _ (served_act p a)

/-- **What a run accepts was sent in that run**, in this order. -/
theorem accepted_run (p : Processor) (actions : List Action) :
    (p.run actions).accepted.Sublist (p.accepted ++ actions.filterMap Action.event?) := by
  induction actions generalizing p with
  | nil => exact List.sublist_append_left _ _
  | cons a rest ih =>
    have hsent : (a :: rest).filterMap Action.event? =
        a.event?.toList ++ rest.filterMap Action.event? := by
      rw [List.filterMap_cons]
      cases a.event? <;> rfl
    have hfirst : (p.act a).accepted.Sublist (p.accepted ++ a.event?.toList) := by
      rcases accepted_act p a with hold | ⟨-, hnew⟩
      · exact hold.trans (List.sublist_append_left _ _)
      · exact hnew ▸ List.Sublist.refl _
    rw [hsent, ← List.append_assoc]
    exact (ih (p.act a)).trans (hfirst.append_right _)

/-- Every event taken in was sent by the program. -/
theorem sent_of_mem_processed {settings : Settings} {diagnostics : Option Diagnostics}
    {actions : List Action} {e : InputEvent}
    (h : e ∈ ((start settings diagnostics).run actions).processed) : .send e ∈ actions := by
  have haccepted : e ∈ ((start settings diagnostics).run actions).accepted :=
    List.mem_append_left _ h
  have hsent : e ∈ actions.filterMap Action.event? :=
    (accepted_run (start settings diagnostics) actions).subset haccepted
  obtain ⟨a, ha, hevent⟩ := List.mem_filterMap.1 hsent
  cases a <;> cases hevent
  exact ha

/-- Until a shutdown, an action takes back no event that was accepted. -/
theorem accepted_prefix_act (running : p.shutDown = false) (hphase : (p.act a).phase = .running) :
    p.accepted <+: (p.act a).accepted := by
  have hserved : ∀ inbox processed, Served p a inbox processed →
      p.accepted <+: processed ++ eventsOf inbox := by
    intro inbox processed h
    cases h with
    | stays => exact List.prefix_rfl
    | joins m _ _ =>
      rw [eventsOf_append, ← List.append_assoc]
      exact List.prefix_append _ _
    | leaves m rest next =>
      -- while it runs, what leaves the inbox is taken in, so the accepted events are the same
      have hsame : p.accepted = p.processed ++ m.event?.toList ++ eventsOf inbox := by
        rw [accepted, next, eventsOf_cons, List.append_assoc]
      rw [running, hsame]
      exact List.prefix_rfl
    | cleared ended => exact absurd hphase ended
  exact hserved _ _ (served_act p a)

/-- Until a shutdown, a run that has not ended takes back no event that was accepted. -/
theorem accepted_prefix_run {actions : List Action} (running : (p.run actions).shutDown = false)
    (hphase : (p.run actions).phase = .running) : p.accepted <+: (p.run actions).accepted := by
  induction actions generalizing p with
  | nil => exact List.prefix_rfl
  | cons a rest ih =>
    have hshut : p.shutDown = false := not_shutDown_of_run running
    have hfirst : (p.act a).phase = .running := running_of_run hphase
    exact (accepted_prefix_act hshut hfirst).trans (ih running hphase)

/-! ## Waiting for a request -/

/-- `p.Awaits m events` — if the message `m` waits, it waits once, and `events` are those taken in,
    followed by those ahead of it. -/
def Awaits (p : Processor) (m : Message) (events : List InputEvent) : Prop :=
  m ∈ p.inbox → ∃ ahead behind, p.inbox = ahead ++ m :: behind ∧ m ∉ ahead ∧ m ∉ behind ∧
    p.processed ++ eventsOf ahead = events

namespace Awaits

variable {m : Message} {events : List InputEvent}

/-- A request that joins the inbox waits behind the events accepted before it. -/
theorem of_asked (asked : a.message? = some m) (hnew : m ∉ p.inbox) :
    (p.act a).Awaits m p.accepted := by
  have hserved : ∀ inbox processed, Served p a inbox processed → m ∈ inbox →
      ∃ ahead behind, inbox = ahead ++ m :: behind ∧ m ∉ ahead ∧ m ∉ behind ∧
        processed ++ eventsOf ahead = p.accepted := by
    intro inbox processed h hm
    cases h with
    | stays => exact absurd hm hnew
    | joins x hx _ =>
      obtain rfl : m = x := Option.some.inj (asked.symm.trans hx)
      exact ⟨p.inbox, [], rfl, hnew, List.not_mem_nil, rfl⟩
    | leaves x rest next => exact absurd (next ▸ List.mem_cons_of_mem x hm) hnew
    | cleared => cases hm
  exact hserved _ _ (served_act p a)

/-- **Every action keeps the events ahead of a request**, while no other request of its name
    joins. -/
theorem act (h : p.Awaits m events) (running : p.shutDown = false)
    (again : a.message? = some m → p.closed = true) : (p.act a).Awaits m events := by
  have hserved : ∀ inbox processed, Served p a inbox processed → m ∈ inbox →
      ∃ ahead behind, inbox = ahead ++ m :: behind ∧ m ∉ ahead ∧ m ∉ behind ∧
        processed ++ eventsOf ahead = events := by
    intro inbox processed hserved hm
    cases hserved with
    | stays => exact h hm
    | joins x asked isOpen =>
      have hne : m ≠ x := fun heq =>
        Bool.false_ne_true (isOpen.symm.trans (again (heq ▸ asked)))
      have hold : m ∈ p.inbox := by
        rcases List.mem_append.1 hm with hold | hnew
        · exact hold
        · exact absurd (List.mem_singleton.1 hnew) hne
      obtain ⟨ahead, behind, hinbox, hahead, hbehind, hevents⟩ := h hold
      refine ⟨ahead, behind ++ [x], ?_, hahead, ?_, hevents⟩
      · rw [hinbox, List.append_assoc, List.cons_append]
      · intro hmem
        rcases List.mem_append.1 hmem with hmem | hmem
        · exact hbehind hmem
        · exact hne (List.mem_singleton.1 hmem)
    | leaves x rest next =>
      obtain ⟨ahead, behind, hinbox, hahead, hbehind, hevents⟩ :=
        h (next ▸ List.mem_cons_of_mem x hm)
      rw [next] at hinbox
      cases ahead with
      | nil =>
        -- the message that leaves is the request itself, and no second one waits
        obtain ⟨-, rfl⟩ := List.cons.inj hinbox
        exact absurd hm hbehind
      | cons y ahead =>
        obtain ⟨rfl, rfl⟩ := List.cons.inj hinbox
        refine ⟨ahead, behind, rfl, fun hmem => hahead (List.mem_cons_of_mem x hmem), hbehind, ?_⟩
        rw [← hevents, running, eventsOf_cons, ← List.append_assoc]
        rfl
    | cleared => cases hm
  exact hserved _ _ (served_act p a)

/-- By induction on the run: what is served before the message was ahead of it, and what joins
    stands behind it. -/
theorem run (h : p.Awaits m events) {actions : List Action}
    (running : (p.run actions).shutDown = false)
    (again : ∀ a ∈ actions, a.message? = some m → p.closed = true) :
    (p.run actions).Awaits m events := by
  induction actions generalizing p with
  | nil => exact h
  | cons a rest ih =>
    have hshut : p.shutDown = false := not_shutDown_of_run running
    have hfirst : (p.act a).Awaits m events := h.act hshut (again a (List.mem_cons_self ..))
    refine ih hfirst running fun b hb hasked => ?_
    exact closed_act (again b (List.mem_cons_of_mem a hb) hasked)

end Awaits

/-- **When a request is the next message, all events accepted before it have been taken in**, and no
    others. -/
theorem processed_of_awaits {m : Message} {events : List InputEvent} (h : p.Awaits m events)
    (next : p.inbox.head? = some m) : p.processed = events := by
  obtain ⟨rest, hinbox⟩ := List.head?_eq_some_iff.1 next
  obtain ⟨ahead, behind, hsplit, hahead, -, hevents⟩ := h (hinbox ▸ List.mem_cons_self ..)
  cases ahead with
  | nil => exact (List.append_nil _).symm.trans hevents
  | cons x ahead =>
    rw [hinbox, List.cons_append] at hsplit
    obtain ⟨rfl, -⟩ := List.cons.inj hsplit
    exact absurd (List.mem_cons_self ..) hahead

/-! ## After closing -/

/-- A closed processor accepts no event any more. -/
theorem accepted_sublist_act (hclosed : p.closed = true) :
    (p.act a).accepted.Sublist p.accepted := by
  rcases accepted_act p a with hold | ⟨hopen, -⟩
  · exact hold
  · exact absurd (hopen.symm.trans hclosed) Bool.false_ne_true

/-- **Whatever a closed processor takes in was accepted before it was closed.** -/
theorem processed_sublist_run (hclosed : p.closed = true) (actions : List Action) :
    (p.run actions).processed.Sublist p.accepted := by
  have hrun : (p.run actions).accepted.Sublist p.accepted := by
    induction actions generalizing p with
    | nil => exact List.Sublist.refl _
    | cons a rest ih => exact (ih (closed_act hclosed)).trans (accepted_sublist_act hclosed)
  exact (List.sublist_append_left _ _).trans hrun

end FeatureFlags.Processor

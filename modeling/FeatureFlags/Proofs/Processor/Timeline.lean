/-
  CLOCKED RUNS ARE RUNS — a timeline does to its processor only what a list of actions does.

  A timeline decides when something happens: answers before messages, messages before deliveries,
  timers when they are due.  What happens are the actions of `Processor.Action`.  So a law of all
  runs is a law of every timeline, whatever its clock and its sender.

  1. **Reaching (`LeadsTo`)** — one timeline reaches another, as far as their processors are
     concerned, by some list of actions.  It is reflexive and transitive.
  2. **One moment** — `leadsTo_of_ready?`, and from it `leadsTo_settle`.
  3. **Over time** — `leadsTo_advance`, and from it waiting, flushing and closing.
-/
import FeatureFlags.Processor.Run
import FeatureFlags.Processor.Timeline

namespace FeatureFlags.Timeline

open Processor (Action)

/-- `t.LeadsTo u` — the processor of `u` comes from that of `t` by a run. -/
def LeadsTo (t u : Timeline) : Prop :=
  ∃ actions : List Action, u.processor = t.processor.run actions

namespace LeadsTo

variable {t u v : Timeline}

theorem refl (t : Timeline) : t.LeadsTo t := ⟨[], rfl⟩

theorem trans (h : t.LeadsTo u) (h' : u.LeadsTo v) : t.LeadsTo v := by
  obtain ⟨first, hfirst⟩ := h
  obtain ⟨second, hsecond⟩ := h'
  refine ⟨first ++ second, ?_⟩
  rw [Processor.run_append, ← hfirst, hsecond]

theorem of_act (a : Action) (h : u.processor = t.processor.act a) : t.LeadsTo u := ⟨[a], h⟩

/-- Moving the clock does nothing to the processor. -/
theorem of_processor_eq (h : u.processor = t.processor) : t.LeadsTo u := ⟨[], h⟩

/-- One more run, or none, as a condition has it. -/
theorem ite {c : Prop} [Decidable c] (h : t.LeadsTo u) (h' : u.LeadsTo v) :
    t.LeadsTo (if c then v else u) := by
  split
  · exact h.trans h'
  · exact h

end LeadsTo

/-! ## At one moment -/

/-- Whatever can be done now is an action. -/
theorem leadsTo_of_ready? {t u : Timeline} (h : t.ready? = some u) : t.LeadsTo u := by
  unfold ready? at h
  simp only at h
  split at h
  · next place r _ =>
    -- an answer has arrived
    cases h
    exact .of_act (.finish place r) rfl
  · -- no answer: a message is received
    split at h
    · cases h; exact .of_act (.receive t.wall false) rfl
    · -- no message either: a forsaken processor ends, a delivery begins, or a processor that is
      -- through stops
      split at h
      · cases h; exact .of_act .endForsaken rfl
      · split at h
        · cases h; exact .of_act (.begin t.nextPlace) rfl
        · split at h
          · cases h; exact .of_act .stop rfl
          · cases h

/-- By induction on the fuel, one ready action at a time. -/
theorem leadsTo_settleWithin (n : Nat) (t : Timeline) : t.LeadsTo (settleWithin n t) := by
  induction n generalizing t with
  | zero => exact .refl t
  | succ n ih =>
    rw [settleWithin]
    split
    · next next hnext => exact (leadsTo_of_ready? hnext).trans (ih next)
    · exact .refl t

theorem leadsTo_settle (t : Timeline) : t.LeadsTo t.settle := leadsTo_settleWithin t.work t

/-! ## Over time -/

/-- The timers tick one after the other, each at most once. -/
theorem leadsTo_tick (t : Timeline) : t.LeadsTo t.tick := by
  refine LeadsTo.ite (LeadsTo.ite (LeadsTo.ite (.refl t) ?_) ?_) ?_
  · exact .of_act .flushTick rfl
  · exact .of_act .contextKeysTick rfl
  · exact .of_act (.statsTick _) rfl

/-- By induction on the fuel: the clock goes on to the next moment, and there things settle. -/
theorem leadsTo_advanceWithin (stop : Timeline → Bool) (limit n : Nat) (t : Timeline) :
    t.LeadsTo (advanceWithin stop limit n t) := by
  induction n generalizing t with
  | zero => exact leadsTo_settle t
  | succ n ih =>
    rw [advanceWithin]
    refine (leadsTo_settle t).trans ?_
    split
    · exact .refl _
    · split
      · next due _ =>
        -- setting the clock is not an action; the timers that are due are
        have hclock : t.settle.LeadsTo { t.settle with now := max t.settle.now due } :=
          .of_processor_eq rfl
        exact (hclock.trans (leadsTo_tick _)).trans (ih _)
      · exact .of_processor_eq rfl

theorem leadsTo_advance (t : Timeline) (stop : Timeline → Bool) (limit : Nat) :
    t.LeadsTo (t.advance stop limit) := leadsTo_advanceWithin stop limit _ t

/-- **Waiting is a run.** -/
theorem leadsTo_sleep (t : Timeline) (duration : Nat) : t.LeadsTo (t.sleep duration) :=
  (leadsTo_advance t _ _).trans (leadsTo_settle _)

/-- **Flushing is a run.** -/
theorem leadsTo_flush (t : Timeline) (id : Nat) : t.LeadsTo (t.flush id) := by
  have hrequest : t.LeadsTo (t.act (·.requestFlush id)) := .of_act (.requestFlush id) rfl
  exact (hrequest.trans (leadsTo_settle _)).trans (leadsTo_advance _ _ _)

/-- **Closing is a run.** -/
theorem leadsTo_close (t : Timeline) : t.LeadsTo t.close := by
  unfold close
  split
  · exact .refl t
  · have hrequest : t.LeadsTo (t.act Processor.requestClose) := .of_act .requestClose rfl
    let requested := t.act Processor.requestClose
    let timeout := requested.processor.settings.closeTimeout
    let stopped (t : Timeline) : Bool := t.processor.phase = .stopped
    let waited :=
      if timeout = 0 then requested else requested.advance stopped (requested.now + timeout)
    have hwaited : t.LeadsTo waited := by
      refine hrequest.trans ?_
      show requested.LeadsTo (if timeout = 0 then _ else _)
      split
      · exact .refl requested
      · exact leadsTo_advance requested _ _
    show t.LeadsTo (if stopped waited then waited else waited.act Processor.giveUp)
    split
    · exact hwaited
    · exact hwaited.trans (.of_act .giveUp rfl)

end FeatureFlags.Timeline

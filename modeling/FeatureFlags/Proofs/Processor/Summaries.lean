/-
  WHAT A PROCESSOR SUMS UP — each summary tells of the evaluations since the one before.

  1. **Taking out (`taken_flush`)** — a flush takes the summary of all that was counted, and counts
     from nothing again.
  2. **Parts (`Books.Sums`)** — the evaluations that count fall into parts, one for each payload
     taken out, and those that are still counted.  An event taken in joins the last part, a payload
     taken out closes it.
  3. **Main results** — the parts of every run (`run_sums_parts`), and what the summary of events
     tells, whatever they are and in whatever order they came (`summary_tells_events`).
-/
import FeatureFlags.Proofs.Event.Tally
import FeatureFlags.Proofs.Processor.Announcement

namespace FeatureFlags

open Calendar (Instant)
open Summary (Tally)

/-- The summary that an output event is. -/
def OutputEvent.summary? : OutputEvent → Option SummaryOutput
  | .summary s => some s
  | _ => none

/-- The evaluation that an event adds to a summary. -/
def InputEvent.summed? : InputEvent → Option FeatureEvent
  | .feature f => if f.excludeFromSummaries then none else some f
  | _ => none

theorem OutputEvent.summary?_of_plain {x : OutputEvent} (h : x.isSummary = false) :
    x.summary? = none := by
  cases x with
  | summary s => cases h
  | _ => rfl

/-- A tally of events, with one more event that counts or does not. -/
theorem Summary.Tally.addEvent_ofEvents (events : List FeatureEvent) (e : InputEvent) :
    (ofEvents events).addEvent e = ofEvents (events ++ e.summed?.toList) := by
  have hsame : ofEvents events = ofEvents (events ++ []) := by rw [List.append_nil]
  cases e with
  | feature f =>
    rw [addEvent, InputEvent.summed?]
    split
    · exact hsame
    · exact (ofEvents_concat events f).symm
  | _ => exact hsame

namespace Processor

/-! ## Taking out -/

/-- **A flush takes what was counted**, behind what was queued, and leaves nothing counted. -/
theorem taken_flush {p : Processor} {s : SummaryOutput} (h : p.tally.summary? = some s)
    (purpose : Purpose) :
    (p.flush purpose).tally = .empty ∧
      (p.flush purpose).taken = p.taken ++ [p.queue ++ [.summary s]] := by
  have hpayload : p.payload = p.queue ++ [.summary s] := by
    rw [payload, h]
    rfl
  have hsome : p.payload ≠ [] := by
    rw [hpayload]
    exact List.append_ne_nil_of_right_ne_nil _ (List.cons_ne_nil _ _)
  rw [flush, if_neg hsome, ← hpayload]
  exact ⟨rfl, rfl⟩

/-! ## Parts -/

/-- A payload sums up a part of the evaluations: it holds their summary, and none if there were
    none. -/
def SumsUp (payload : List OutputEvent) (part : List FeatureEvent) : Prop :=
  payload.filterMap OutputEvent.summary? = (Tally.ofEvents part).summary?.toList

/-- **The evaluations in parts**: each payload taken out sums up its part, and the recent ones are
    still counted. -/
structure Books.Sums (b : Books) (parts : List (List FeatureEvent))
    (recent : List FeatureEvent) : Prop where
  events : b.processed.filterMap InputEvent.summed? = parts.flatten ++ recent
  tally : b.tally = .ofEvents recent
  payloads : List.Forall₂ SumsUp b.taken parts

/-- Without its summary a payload is the queue, which sums nothing up. -/
theorem Books.Sums.payload {b : Books} {parts : List (List FeatureEvent)}
    {recent : List FeatureEvent} (h : b.Sums parts recent) (hb : b.Balanced) :
    SumsUp b.payload recent := by
  have hqueue : b.queue.filterMap OutputEvent.summary? = [] :=
    List.filterMap_eq_nil_iff.2 fun x hx => OutputEvent.summary?_of_plain (hb.plain_queue hx)
  show (b.queue ++ b.tally.summary?.toList.map OutputEvent.summary).filterMap
      OutputEvent.summary? = _
  rw [List.filterMap_append, hqueue, h.tally]
  cases (Tally.ofEvents recent).summary? with
  | none => rfl
  | some s => rfl

/-- **Every entry keeps the parts**: only what is taken in joins the recent ones, and only what is
    taken out closes them. -/
theorem Books.Sums.step {a : Action} {b c : Books} {parts : List (List FeatureEvent)}
    {recent : List FeatureEvent} (h : b.Sums parts recent) (hb : b.Balanced) (hstep : b.Step a c) :
    ∃ parts recent, c.Sums parts recent := by
  cases hstep with
  | takesIn running e debugged drawn =>
    -- one more event since the last payload
    refine ⟨parts, recent ++ e.summed?.toList, ?_, ?_, h.payloads⟩
    · show (b.processed ++ [e]).filterMap InputEvent.summed? = _
      rw [List.filterMap_append, h.events, List.append_assoc, List.append_cancel_left_eq,
        List.append_cancel_left_eq, List.filterMap_cons]
      cases e.summed? <;> rfl
    · show b.tally.addEvent e = _
      rw [h.tally, Tally.addEvent_ofEvents]
  | takesOut running live purpose nonempty =>
    -- the events since the last payload become a part of their own, told by its summary
    refine ⟨parts ++ [recent], [], ?_, rfl, ?_⟩
    · show b.processed.filterMap InputEvent.summed? = _
      rw [h.events, List.flatten_append, List.flatten_singleton, List.append_nil]
    · exact List.rel_append h.payloads (.cons (h.payload hb) .nil)
  | _ => exact ⟨parts, recent, h.events, h.tally, h.payloads⟩

/-! ## Main results -/

/-- **Every run sums up what it took in, part by part.**  The evaluations taken in that are not
    excluded from summaries, in their order, are the parts of the payloads taken out and then those
    that are still counted.  A payload holds the summary of its part, and none exactly if the part
    is empty. -/
theorem run_sums_parts (settings : Settings) (diagnostics : Option Diagnostics)
    (actions : List Action) :
    let p := (start settings diagnostics).run actions
    ∃ parts recent, p.processed.filterMap InputEvent.summed? = parts.flatten ++ recent ∧
      p.tally = .ofEvents recent ∧ List.Forall₂ SumsUp p.taken parts := by
  intro p
  have hstart : (start settings diagnostics).books.Balanced ∧
      ∃ parts recent, (start settings diagnostics).books.Sums parts recent :=
    ⟨.start settings diagnostics, [], [], rfl, rfl, .nil⟩
  have hrun : p.books.Balanced ∧ ∃ parts recent, p.books.Sums parts recent := by
    refine books_run (P := fun b => b.Balanced ∧ ∃ parts recent, b.Sums parts recent) ?_ hstart
    rintro a - b c hstep ⟨hb, parts, recent, h⟩
    exact ⟨hb.step hstep, h.step hb hstep⟩
  obtain ⟨-, parts, recent, h⟩ := hrun
  exact ⟨parts, recent, h.events, h.tally, h.payloads⟩

/-- **What the summary of events tells**, whatever events they are.  Of none there is no summary.
    Of any others there is one, and it tells of just these events: the first and the last date, each
    flag once, and of each flag the kinds of all contexts, the first default, and one counter for
    each pair of variation and version, in their order.  The same events in another order make the
    same summary, defaults and values apart.  Whoever flushes has nothing counted any more, and has
    taken this summary out. -/
theorem summary_tells_events (events : List FeatureEvent) :
    ((Tally.ofEvents events).summary? = none ↔ events = []) ∧
    (events ≠ [] → ∃ s, (Tally.ofEvents events).summary? = some s ∧ s.Tells events ∧
      (∀ others, others.Perm events →
        ∃ s', (Tally.ofEvents others).summary? = some s' ∧ s'.withoutValues = s.withoutValues) ∧
      ∀ p : Processor, p.tally = .ofEvents events → ∀ purpose,
        (p.flush purpose).tally = .empty ∧
          (p.flush purpose).taken = p.taken ++ [p.queue ++ [.summary s]]) := by
  refine ⟨Tally.summary?_eq_none_iff, fun hevents => ?_⟩
  obtain ⟨s, hs⟩ := Option.ne_none_iff_exists'.1 (mt Tally.summary?_eq_none_iff.1 hevents)
  have htells : s.Tells events := Tally.tells_summary? hs
  refine ⟨s, hs, htells, fun others hperm => ?_, fun p htally purpose => ?_⟩
  · have hothers : others ≠ [] := fun hnone => hevents (List.nil_perm.1 (hnone ▸ hperm))
    obtain ⟨s', hs'⟩ := Option.ne_none_iff_exists'.1 (mt Tally.summary?_eq_none_iff.1 hothers)
    exact ⟨s', hs', (Tally.tells_summary? hs').withoutValues_eq htells hperm⟩
  · exact taken_flush (htally ▸ hs) purpose

/-- An evaluation of a flag for a user, in the first version of the flag. -/
def evaluationOf (key : String) (variation : Option VariationIndex) (value : Json)
    (date : Instant) : FeatureEvent where
  creationDate := date
  context := userContext "a"
  key := key
  version := some 1
  variation := variation
  value := value
  default := some (.bool false)
  reason := none
  prereqOf := none
  trackEvents := false
  debugEventsUntilDate := none
  samplingRatio := none
  excludeFromSummaries := false

/-- Two flags, the flag `f` with two variations: the first one came twice, and its first value is
    told. -/
theorem summary_tells_events_twoFlags :
    let events := [evaluationOf "f" (some 1) (.text "x") 5, evaluationOf "e" none (.bool true) 3,
      evaluationOf "f" none .null 9, evaluationOf "f" (some 1) (.text "y") 4]
    events ≠ [] ∧ ∃ s, (Tally.ofEvents events).summary? = some s ∧ s.Tells events ∧
      s = ⟨3, 9, [("e", ⟨.bool false, ["user"], [⟨none, some 1, .bool true, 1, false⟩]⟩),
        ("f", ⟨.bool false, ["user"],
          [⟨none, some 1, .null, 1, false⟩, ⟨some 1, some 1, .text "x", 2, false⟩]⟩)]⟩ := by
  intro events
  have hevents : events ≠ [] := List.cons_ne_nil _ _
  obtain ⟨s, hs, htells, -⟩ := (summary_tells_events events).2 hevents
  refine ⟨hevents, s, hs, htells, ?_⟩
  refine Option.some.inj (hs.symm.trans ?_)
  decide +kernel

end Processor

end FeatureFlags

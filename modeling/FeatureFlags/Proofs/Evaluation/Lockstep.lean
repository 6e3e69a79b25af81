/-
  LOCKSTEP — two evaluations that go side by side and end alike, faults included.

  1. **Lockstep** — `Lockstep P x y`: from states that `P` relates, both give the same result and
     leave states that `P` relates.  It goes through the steps of evaluations if `P` survives them
     (`Kept`).
  2. **Moments** — a constant outside store answers the same all through a moment, whatever is kept
     of its answers.  `Matches` relates states of two moments at which it also tells the same about
     itself; what the two states have kept may differ.
  3. **Evaluators in lockstep** — `AnsweredAlike`: evaluators of one outside store, each at its
     moment.  Consultations keep their states matching, and so do reports that differ in their dates
     only.
-/
import FeatureFlags.Proofs.BigSegments.Constant
import FeatureFlags.Proofs.Evaluation.Stepwise

namespace FeatureFlags

/-- An event without its date. -/
def FeatureEvent.undated (e : FeatureEvent) : FeatureEvent := { e with creationDate := 0 }

namespace Evaluation

/-! ## Lockstep -/

/-- `Lockstep P x y` — from states that `P` relates, `y` gives what `x` gives, and `P` relates the
    states they leave. -/
def Lockstep (P : State → State → Prop) {α : Type} (x y : Evaluation α) : Prop :=
  ∀ ⦃s t : State⦄, P s t →
    (y.runFrom t).1 = (x.runFrom s).1 ∧ P (x.runFrom s).2 (y.runFrom t).2

/-- A relation of states that survives what is noted on both sides. -/
structure Kept (P : State → State → Prop) : Prop where
  note : ∀ {s t : State}, P s t → ∀ entry,
    P { s with log := s.log ++ [entry] } { t with log := t.log ++ [entry] }
  noteStatus : ∀ {s t : State}, P s t → ∀ status,
    P { s with status := some (BigSegmentsStatus.merge s.status status) }
      { t with status := some (BigSegmentsStatus.merge t.status status) }

theorem Lockstep.bind {P : State → State → Prop} {α β : Type} {x y : Evaluation α}
    {f g : α → Evaluation β} (hxy : Lockstep P x y) (hfg : ∀ a, Lockstep P (f a) (g a)) :
    Lockstep P (x >>= f) (y >>= g) := by
  intro s t hst
  obtain ⟨hresult, hstates⟩ := hxy hst
  rw [runFrom_bind, runFrom_bind]
  rcases hx : x.runFrom s with ⟨result, s'⟩
  rcases hy : y.runFrom t with ⟨result', t'⟩
  rw [hx, hy] at hresult hstates
  obtain rfl : result' = result := hresult
  cases result' with
  | error fault => exact ⟨rfl, hstates⟩
  | ok a => exact hfg a hstates

/-- The single steps keep what they write on both sides alike. -/
theorem stepwise_lockstep {P : State → State → Prop} (hP : Kept P) :
    Stepwise fun _ x y => Lockstep P x y where
  pure _ _ _ hst := ⟨rfl, hst⟩
  throw hst := ⟨rfl, hst⟩
  note entry _ _ hst := ⟨rfl, hP.note hst entry⟩
  noteStatus status _ _ hst := ⟨rfl, hP.noteStatus hst status⟩
  bind hxy hfg := hxy.bind hfg

/-! ## Moments -/

/-- What is kept in a state is what the outside store answers, and at this moment the store is found
    in a certain status. -/
def State.AtMoment (o : Option BigSegments) (clock : BigSegments.Clock)
    (found : BigSegments → BigSegments.StoreStatus) (s : State) : Prop :=
  ∀ b, o = some b → b.Faithful s.cache ∧ b.statusAt clock s.cache = found b

/-- States of two moments at which the outside store is found in the same status. -/
structure Matches (o : Option BigSegments) (clock clock' : BigSegments.Clock)
    (found : BigSegments → BigSegments.StoreStatus) (s t : State) : Prop where
  memberships : t.memberships = s.memberships
  status : t.status = s.status
  events : t.events.map FeatureEvent.undated = s.events.map FeatureEvent.undated
  first : s.AtMoment o clock found
  second : t.AtMoment o clock' found

variable {o : Option BigSegments} {b : BigSegments} {clock clock' : BigSegments.Clock}
  {found : BigSegments → BigSegments.StoreStatus} {s t : State}

/-- Matching states stay so, whatever both write: log, status and reports do not enter into the
    lookups. -/
theorem kept_matches : Kept (Matches o clock clock' found) where
  note h _ := ⟨h.memberships, h.status, h.events, h.first, h.second⟩
  noteStatus h status :=
    ⟨h.memberships, congrArg (fun worst => some (BigSegmentsStatus.merge worst status)) h.status,
      h.events, h.first, h.second⟩

/-- Looking a context key up in the moment tells what the outside store knows, and leaves the moment
    as it is. -/
theorem State.AtMoment.membershipOf (hb : b.source.Constant) (h : s.AtMoment (some b) clock found)
    (key : String) :
    ((b.membershipOf clock key).run ⟨s.cache, []⟩).1 = (b.known key, b.toldStatus (found b) key) ∧
      (s.afterLookUp key ((b.membershipOf clock key).run ⟨s.cache, []⟩)).AtMoment (some b) clock
        found := by
  obtain ⟨hfaithful, hstatus⟩ := h b rfl
  obtain ⟨hknown, hkept⟩ :=
    BigSegments.run_membershipOf hb.steady clock key (s := ⟨s.cache, []⟩) hfaithful
  obtain ⟨htold, hfound⟩ :=
    BigSegments.status_membershipOf hb clock key (s := ⟨s.cache, []⟩) hfaithful
  refine ⟨Prod.ext hknown (htold.trans (congrArg (b.toldStatus · key) hstatus)), ?_⟩
  intro b' hb'
  cases hb'
  exact ⟨hkept, hfound.trans hstatus⟩

/-- **Looking a membership up goes in lockstep** at two moments. -/
theorem lockstep_membership {e e' : Evaluator} (hb : b.source.Constant) (key : String) :
    Lockstep (Matches (some b) e.clock e'.clock found) (e.membership b key)
      (e'.membership b key) := by
  intro s t h
  cases hget : Entries.get? key s.memberships with
  | some membership =>
    -- both have it at hand, since their memberships are the same
    have hget' : Entries.get? key t.memberships = some membership := by rw [h.memberships, hget]
    rw [runFrom_membership_of_some hget, runFrom_membership_of_some hget']
    exact ⟨rfl, h⟩
  | none =>
    -- both look it up, each at its own time and in its own cache, and the source tells both the
    -- same
    have hget' : Entries.get? key t.memberships = none := by rw [h.memberships, hget]
    obtain ⟨htold, hmoment⟩ := h.first.membershipOf hb key
    obtain ⟨htold', hmoment'⟩ := h.second.membershipOf hb key
    rw [runFrom_membership_of_none hget, runFrom_membership_of_none hget']
    refine ⟨by rw [htold, htold'], ?_, ?_, h.events, hmoment, hmoment'⟩
    · simp only [State.afterLookUp, htold, htold', h.memberships]
    · simp only [State.afterLookUp, htold, htold', h.status]

end Evaluation

namespace Evaluator

open Evaluation (Lockstep Matches Kept)

/-! ## Evaluators in lockstep -/

/-- Evaluators of one outside store, if any, that is constant, each with its clock and with what
    calls have left behind; the store is found in the same status. -/
structure AnsweredAlike (e : Evaluator) (cache : BigSegments.Cache) (e' : Evaluator)
    (cache' : BigSegments.Cache) : Prop where
  bigSegments : e'.bigSegments = e.bigSegments
  constant : ∀ b, e.bigSegments = some b → b.source.Constant
  reachable : ∀ b, e.bigSegments = some b → b.Reachable cache ∧ b.Reachable cache'
  status : ∀ b, e.bigSegments = some b → b.statusAt e'.clock cache' = b.statusAt e.clock cache

variable {e e' : Evaluator} {cache cache' : BigSegments.Cache} {part : Store.Part}
  {context context' : Context} {P : Evaluation.State → Evaluation.State → Prop}

/-- Evaluations begin in matching states. -/
theorem AnsweredAlike.start (h : e.AnsweredAlike cache e' cache') :
    Matches e.bigSegments e.clock e'.clock (fun b => b.statusAt e.clock cache) (.start cache)
      (.start cache') where
  memberships := rfl
  status := rfl
  events := rfl
  first b hb := ⟨(h.reachable b hb).1.faithful (h.constant b hb).steady, rfl⟩
  second b hb := ⟨(h.reachable b hb).2.faithful (h.constant b hb).steady, h.status b hb⟩

/-- Evaluators that are answered alike go through segments and flags in lockstep, at every level. -/
theorem AnsweredAlike.alike (h : e.AnsweredAlike cache e' cache')
    (found : BigSegments → BigSegments.StoreStatus) (hpart : e.store.Shares e'.store part) :
    Alike (fun _ x y => Lockstep (Matches e.bigSegments e.clock e'.clock found) x y) part e e' where
  store := hpart
  bigSegments := h.bigSegments
  membership b hb key := by
    rw [hb]
    exact Evaluation.lockstep_membership (h.constant b hb) key

/-- Reports that differ in their dates only. -/
theorem lockstep_notePrerequisite {o : Option BigSegments} {clock clock' : BigSegments.Clock}
    {found : BigSegments → BigSegments.StoreStatus}
    (h : e'.factory.map (·.withReasons) = e.factory.map (·.withReasons)) (f q : Flag)
    (d : Detail Json) :
    Lockstep (Matches o clock clock' found) (e.notePrerequisite context f q d)
      (e'.notePrerequisite context f q d) := by
  intro s t hst
  rw [notePrerequisite, notePrerequisite]
  rcases hfactory : e.factory with _ | ⟨withReasons, now⟩ <;>
    rcases hfactory' : e'.factory with _ | ⟨withReasons', now'⟩ <;> rw [hfactory, hfactory'] at h
  · exact ⟨rfl, hst⟩
  · cases h
  · cases h
  · obtain rfl : withReasons' = withReasons := Option.some.inj h
    refine ⟨rfl, hst.memberships, hst.status, ?_, hst.first, hst.second⟩
    show List.map _ (_ ++ [_]) = List.map _ (_ ++ [_])
    rw [List.map_append, List.map_append, hst.events]
    rfl

/-- **Evaluations in lockstep end alike**: with the same detail, with the same reports but for their
    dates, and at the same moments. -/
theorem AnsweredAlike.evaluate {f : Flag} (h : e.AnsweredAlike cache e' cache')
    (hrun : ∀ found, Lockstep (Matches e.bigSegments e.clock e'.clock found)
      (e.check context maxDepth [] f) (e'.check context' maxDepth [] f)) :
    (e'.evaluate cache' f context').detail = (e.evaluate cache f context).detail ∧
    (e'.evaluate cache' f context').prerequisiteEvents.map FeatureEvent.undated
      = (e.evaluate cache f context).prerequisiteEvents.map FeatureEvent.undated ∧
    ∀ b, e.bigSegments = some b →
      b.statusAt e.clock (e.evaluate cache f context).cache = b.statusAt e.clock cache := by
  obtain ⟨hresult, hmatches⟩ := hrun _ h.start
  refine ⟨?_, hmatches.events, fun b hb => (hmatches.first b hb).2⟩
  have hstatus := hmatches.status
  rcases hx : (e.check context maxDepth [] f).runFrom (.start cache) with ⟨result, s⟩
  rcases hy : (e'.check context' maxDepth [] f).runFrom (.start cache') with ⟨result', t⟩
  rw [hx, hy] at hresult hstatus
  obtain rfl : result' = result := hresult
  have hstatus : t.status = s.status := hstatus
  cases result' with
  | ok d => rw [detail_evaluate_of_ok hx, detail_evaluate_of_ok hy, hstatus]
  | error fault => rw [detail_evaluate_of_error hx, detail_evaluate_of_error hy, hstatus]

end Evaluator

end FeatureFlags

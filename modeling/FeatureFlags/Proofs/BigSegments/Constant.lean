/-
  CONSTANT SOURCES — big segments whose store always gives the same answers, also about itself.

  A status may be older than the moment, since it is kept for a while.  But the status that is FOUND
  at one moment (`statusAt`) is one and the same, whatever else is asked in that moment: a status
  that is kept stays kept, and one that is not is asked for, with the same answer each time.
-/
import FeatureFlags.Proofs.BigSegments.Steady

namespace FeatureFlags.BigSegments

/-- A source that always answers the same. -/
structure Source.Constant (source : Source) : Prop where
  steady : source.Steady
  lastUpToDate : ∀ m n, source.lastUpToDate m = source.lastUpToDate n

theorem Source.constant_ofTable (memberships : Entries Membership) (unavailable : List String)
    (lastUpToDate : Except Failure (Option Int64)) :
    (Source.ofTable memberships unavailable lastUpToDate).Constant where
  steady := steady_ofTable memberships unavailable lastUpToDate
  lastUpToDate _ _ := rfl

/-- The status that the source gives when it is asked. -/
def askedStatus (b : BigSegments) (clock : Clock) : StoreStatus :=
  match b.source.lastUpToDate 0 with
  | .ok last => ⟨true, isStale clock.wall b.settings.staleAfter last⟩
  | .error _ => ⟨false, false⟩

/-- **The status that is found at a moment**: the one that is kept, if it is not too old. -/
def statusAt (b : BigSegments) (clock : Clock) (c : Cache) : StoreStatus :=
  match c.status with
  | some (status, since) =>
    if clock.steady - since < b.settings.statusPoll then status else b.askedStatus clock
  | none => b.askedStatus clock

/-- What an evaluation is told about the store when it looks a context key up. -/
def toldStatus (b : BigSegments) (status : StoreStatus) (key : String) : BigSegmentsStatus :=
  match b.answer key with
  | .ok _ => status.toBigSegmentsStatus
  | .error _ => .storeError

variable {b : BigSegments}

/-- The status found depends on nothing but the status kept. -/
theorem statusAt_congr {clock : Clock} {c c' : Cache} (h : c'.status = c.status) :
    b.statusAt clock c' = b.statusAt clock c := by
  rw [statusAt, statusAt, h]

/-- The status that is told is kept, with the time of the call. -/
theorem run_askStatus (hb : b.source.Constant) (clock : Clock) (s : Session) :
    ((askStatus b clock).run s).1 = b.askedStatus clock ∧
      ((askStatus b clock).run s).2.cache.status = some (b.askedStatus clock, clock.steady) := by
  have hanswer : b.source.lastUpToDate s.cache.asked = b.source.lastUpToDate 0 :=
    hb.lastUpToDate _ _
  simp only [askStatus, noteCall, StateT.run_bind, StateT.run_get, pure_bind, hanswer, askedStatus]
  cases b.source.lastUpToDate 0 with
  | ok last => exact ⟨rfl, rfl⟩
  | error failure => exact ⟨rfl, rfl⟩

/-- **The status of the moment is found**, and found again. -/
theorem run_currentStatus (hb : b.source.Constant) (clock : Clock) (s : Session) :
    ((currentStatus b clock).run s).1 = b.statusAt clock s.cache ∧
      b.statusAt clock ((currentStatus b clock).run s).2.cache = b.statusAt clock s.cache := by
  obtain ⟨hasked, hkept⟩ := run_askStatus hb clock s
  -- a status asked for just now is found again, be it kept or asked for once more
  have hagain : b.statusAt clock ((askStatus b clock).run s).2.cache = b.askedStatus clock := by
    rw [statusAt, hkept]
    exact ite_self _
  simp only [currentStatus, StateT.run_bind, StateT.run_get, pure_bind]
  cases hstatus : s.cache.status with
  | none =>
    have hfound : b.statusAt clock s.cache = b.askedStatus clock := by rw [statusAt, hstatus]
    rw [hfound]
    exact ⟨hasked, hagain⟩
  | some entry =>
    obtain ⟨status, since⟩ := entry
    simp only
    by_cases hrecent : clock.steady - since < b.settings.statusPoll
    · have hfound : b.statusAt clock s.cache = status := by
        rw [statusAt, hstatus]
        exact if_pos hrecent
      rw [if_pos hrecent]
      exact ⟨hfound.symm, rfl⟩
    · have hfound : b.statusAt clock s.cache = b.askedStatus clock := by
        rw [statusAt, hstatus]
        exact if_neg hrecent
      rw [if_neg hrecent, hfound]
      exact ⟨hasked, hagain⟩

/-- Asking for a membership does not touch the status. -/
theorem status_askMembership (b : BigSegments) (clock : Clock) (key : String) (s : Session) :
    ((askMembership b clock key).run s).2.cache.status = s.cache.status := by
  simp only [askMembership, StateT.run_bind, StateT.run_get, pure_bind]
  cases b.source.membership s.cache.asked (contextHash key) <;> rfl

/-- **Looking a membership up tells the status of the moment**, or that the source fails. -/
theorem status_membershipOf (hb : b.source.Constant) (clock : Clock) (key : String) {s : Session}
    (h : Faithful b s.cache) :
    ((membershipOf b clock key).run s).1.2 = b.toldStatus (b.statusAt clock s.cache) key ∧
      b.statusAt clock ((membershipOf b clock key).run s).2.cache = b.statusAt clock s.cache := by
  simp only [membershipOf, StateT.run_bind, StateT.run_get, pure_bind]
  let touched : Session := ⟨⟨s.cache.memberships.touch key, s.cache.status, s.cache.asked⟩, s.calls⟩
  have htouched : b.statusAt clock touched.cache = b.statusAt clock s.cache := statusAt_congr rfl
  cases hkept : kept? b clock key s.cache with
  | some membership =>
    -- what is kept does not fail, so the status is told as it is
    obtain ⟨hfound, hagain⟩ := run_currentStatus hb clock touched
    have htold : b.toldStatus (b.statusAt clock s.cache) key
        = (b.statusAt clock s.cache).toBigSegmentsStatus := by
      rw [toldStatus, h.of_kept? hkept]
    rw [htold, ← htouched, ← hfound]
    exact ⟨rfl, hagain.trans hfound.symm⟩
  | none =>
    -- the query leaves the status alone; its own failure is told in the place of the status
    obtain ⟨hasked, -⟩ := run_askMembership hb.steady clock key (s := touched) (h.touch key)
    have hstatus := status_askMembership b clock key touched
    simp only [StateT.run_modify, pure_bind, StateT.run_bind]
    generalize (askMembership b clock key).run touched = asked at hasked hstatus ⊢
    obtain ⟨answer, t⟩ := asked
    obtain rfl : answer = b.answer key := hasked
    have ht : b.statusAt clock t.cache = b.statusAt clock s.cache := statusAt_congr hstatus
    rw [toldStatus]
    cases hkey : b.answer key with
    | ok membership =>
      obtain ⟨hfound, hagain⟩ := run_currentStatus hb clock t
      rw [← ht, ← hfound]
      exact ⟨rfl, hagain.trans hfound.symm⟩
    | error failure => exact ⟨rfl, ht⟩

end FeatureFlags.BigSegments

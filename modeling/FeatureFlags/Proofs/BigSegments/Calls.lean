/-
  THE CALLS OF A LOOKUP — what a source is asked, and what its failures say about its status.

  Nothing is assumed about the source here: it may answer otherwise at every call.

  1. **Polls** — finding the status asks for no membership, and finds the source unavailable exactly
     if it fails, or has failed so recently that this is still kept (`KeptUnavailable`).
  2. **Lookups** (`calls_membershipOf`) — looking a key up asks at most once for a membership, that
     of the key, and tells of a store error exactly if a call fails or such a failure is kept.  If
     it is the membership that cannot be had, none is told.
-/
import FeatureFlags.BigSegments.Lookup

namespace FeatureFlags.BigSegments

/-- The name of the context whose memberships a call asks for. -/
def Call.hash? (call : Call) : Option String :=
  match call.request with
  | .membership hash => some hash
  | .metadata => none

/-- One of the calls fails. -/
def SomeFails (calls : List Call) : Prop := ∃ call ∈ calls, call.failure ≠ none

/-- The status that is kept, and not too old, says that the source was unavailable. -/
def KeptUnavailable (b : BigSegments) (clock : Clock) (c : Cache) : Prop :=
  ∃ status since, c.status = some (status, since) ∧
    clock.steady - since < b.settings.statusPoll ∧ status.available = false

variable (b : BigSegments) (clock : Clock)

/-! ## Polls -/

/-- The status is one call without a key, and it fails exactly if the status says unavailable. -/
theorem calls_askStatus (s : Session) :
    ∃ call : Call, ((askStatus b clock).run s).2.calls = s.calls ++ [call] ∧ call.hash? = none ∧
      (((askStatus b clock).run s).1.available = false ↔ call.failure ≠ none) := by
  simp only [askStatus, noteCall, StateT.run_bind, StateT.run_get, pure_bind]
  cases b.source.lastUpToDate s.cache.asked with
  | ok last => exact ⟨⟨.metadata, none⟩, rfl, rfl, by simp⟩
  | error failure =>
    exact ⟨⟨.metadata, some failure⟩, rfl, rfl, iff_of_true rfl (Option.some_ne_none failure)⟩

/-- **Finding the status** asks for no membership. -/
theorem calls_currentStatus (s : Session) :
    ∃ made, ((currentStatus b clock).run s).2.calls = s.calls ++ made ∧
      made.filterMap Call.hash? = [] ∧
      (((currentStatus b clock).run s).1.available = false ↔
        SomeFails made ∨ b.KeptUnavailable clock s.cache) := by
  -- where nothing recent is kept, the status is asked for
  have hask : ¬ b.KeptUnavailable clock s.cache → ∃ made,
      ((askStatus b clock).run s).2.calls = s.calls ++ made ∧ made.filterMap Call.hash? = [] ∧
      (((askStatus b clock).run s).1.available = false ↔
        SomeFails made ∨ b.KeptUnavailable clock s.cache) := by
    intro hkept
    obtain ⟨call, hcalls, hhash, havailable⟩ := calls_askStatus b clock s
    refine ⟨[call], hcalls, by simp [hhash], ?_⟩
    rw [havailable, SomeFails]
    simp [hkept]
  simp only [currentStatus, StateT.run_bind, StateT.run_get, pure_bind]
  cases hstatus : s.cache.status with
  | none =>
    refine hask ?_
    rintro ⟨status, since, hkept, -⟩
    rw [hstatus] at hkept
    cases hkept
  | some entry =>
    obtain ⟨status, since⟩ := entry
    simp only
    by_cases hrecent : clock.steady - since < b.settings.statusPoll
    · rw [if_pos hrecent]
      refine ⟨[], (List.append_nil _).symm, rfl, ?_⟩
      show status.available = false ↔ _
      rw [KeptUnavailable, hstatus, SomeFails]
      constructor
      · intro havailable
        exact .inr ⟨status, since, rfl, hrecent, havailable⟩
      · rintro (⟨call, hcall, -⟩ | ⟨_, _, hkept, -, havailable⟩)
        · cases hcall
        · cases hkept
          exact havailable
    · rw [if_neg hrecent]
      refine hask ?_
      rintro ⟨_, _, hkept, hrecent', -⟩
      rw [hstatus] at hkept
      cases hkept
      exact hrecent hrecent'

/-! ## Lookups -/

/-- **Looking a key up** asks at most once for a membership, and for that of no other key.  It tells
    of a store error exactly if a call fails, or if the store was found unavailable a moment ago.  A
    lookup whose membership cannot be had tells none. -/
theorem calls_membershipOf (key : String) (s : Session) :
    ∃ made, ((membershipOf b clock key).run s).2.calls = s.calls ++ made ∧
      (made.filterMap Call.hash?).Sublist [contextHash key] ∧
      (((membershipOf b clock key).run s).1.2 = .storeError ↔
        SomeFails made ∨ b.KeptUnavailable clock s.cache) ∧
      ∀ call ∈ made, call.hash? ≠ none → call.failure ≠ none →
        ((membershipOf b clock key).run s).1.1 = none := by
  simp only [membershipOf, StateT.run_bind, StateT.run_get, pure_bind]
  let touched : Session := ⟨⟨s.cache.memberships.touch key, s.cache.status, s.cache.asked⟩, s.calls⟩
  cases kept? b clock key s.cache with
  | some membership =>
    obtain ⟨made, hcalls, hhashes, havailable⟩ := calls_currentStatus b clock touched
    refine ⟨made, hcalls, by simp [hhashes], ?_, fun call hcall hhash => ?_⟩
    · exact StoreStatus.toBigSegmentsStatus_eq_storeError_iff.trans havailable
    · exact absurd (List.filterMap_eq_nil_iff.1 hhashes call hcall) hhash
  | none =>
    simp only [StateT.run_modify, pure_bind, StateT.run_bind, askMembership, StateT.run_get]
    cases b.source.membership s.cache.asked (contextHash key) with
    | ok membership =>
      let kept : Session :=
        ⟨⟨(s.cache.memberships.touch key).put key (membership, clock.steady), s.cache.status,
          s.cache.asked + 1⟩, s.calls ++ [⟨.membership (contextHash key), none⟩]⟩
      obtain ⟨made, hcalls, hhashes, havailable⟩ := calls_currentStatus b clock kept
      refine ⟨⟨.membership (contextHash key), none⟩ :: made, ?_, ?_, ?_, ?_⟩
      · exact hcalls.trans (List.append_assoc ..)
      · simp [Call.hash?, hhashes]
      · refine (StoreStatus.toBigSegmentsStatus_eq_storeError_iff.trans havailable).trans ?_
        simp [SomeFails, KeptUnavailable, kept]
      · intro call hcall hhash hfails
        rcases List.mem_cons.1 hcall with rfl | hmade
        · exact absurd rfl hfails
        · exact absurd (List.filterMap_eq_nil_iff.1 hhashes call hmade) hhash
    | error failure =>
      refine ⟨[⟨.membership (contextHash key), some failure⟩], rfl, by simp [Call.hash?], ?_, ?_⟩
      · exact iff_of_true rfl (.inl ⟨_, List.mem_singleton_self _, by simp⟩)
      · exact fun _ _ _ _ => rfl

end FeatureFlags.BigSegments

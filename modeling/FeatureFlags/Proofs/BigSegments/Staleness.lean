/-
  STALENESS — when the status of a store is stale, and when an evaluation is told so.

  1. **Overdue** — the store was never up to date, or at least `staleAfter` ago.  Said of integers,
     so that nothing can overflow.
  2. **Sixty-four bits** — what is compared are signed numbers of 64 bits (`WrappedOverdue`).  Where
     setting and age fit, this is the same (`wrappedOverdue_iff`), and of two settings that fit the
     longer one is never stricter.  A setting of 2⁶³ milliseconds or more counts as a negative
     number.
  3. **Polls** — when the store was asked about itself, and by which call.  The status that is kept
     is the one that the latest poll gave (`Through.keepsGiven`), in every cache that calls leave
     behind.
  4. **Main result** (`told_stale_iff`).

  Nothing is assumed about the source: it may answer otherwise at every call.
-/
import FeatureFlags.Proofs.BigSegments.Transparency
import Mathlib.Algebra.Ring.Int.Defs
import Mathlib.Algebra.Ring.Nat

namespace FeatureFlags.BigSegments

/-! ## Overdue -/

/-- **The store was never up to date, or at least so many milliseconds ago.** -/
def Overdue (now : Int64) (staleAfter : Nat) : Option Int64 → Prop
  | none => True
  | some last => staleAfter ≤ now.toInt - last.toInt

instance (now : Int64) (staleAfter : Nat) : DecidablePred (Overdue now staleAfter)
  | none => inferInstanceAs (Decidable True)
  | some last => inferInstanceAs (Decidable (staleAfter ≤ now.toInt - last.toInt))

/-- The setting and the age of what the store holds are signed numbers of 64 bits. -/
def Fits (now : Int64) (staleAfter : Nat) (lastUpToDate : Option Int64) : Prop :=
  staleAfter < 2 ^ 63 ∧ ∀ last, lastUpToDate = some last →
    -2 ^ 63 ≤ now.toInt - last.toInt ∧ now.toInt - last.toInt < 2 ^ 63

/-! ## Sixty-four bits -/

/-- Overdue as it is found with 64 bits: the setting and the age are first brought into their
    range. -/
def WrappedOverdue (now : Int64) (staleAfter : Nat) : Option Int64 → Prop
  | none => True
  | some last => (staleAfter : Int).bmod (2 ^ 64) ≤ (now.toInt - last.toInt).bmod (2 ^ 64)

instance (now : Int64) (staleAfter : Nat) : DecidablePred (WrappedOverdue now staleAfter)
  | none => inferInstanceAs (Decidable True)
  | some last => inferInstanceAs (Decidable
      ((staleAfter : Int).bmod (2 ^ 64) ≤ (now.toInt - last.toInt).bmod (2 ^ 64)))

/-- The program's test: the limit is cut to 64 bits and read with a sign. -/
theorem isStale_iff {now : Int64} {staleAfter : Nat} {lastUpToDate : Option Int64} :
    isStale now staleAfter lastUpToDate = true ↔ WrappedOverdue now staleAfter lastUpToDate := by
  cases lastUpToDate with
  | none => exact iff_of_true rfl trivial
  | some last =>
    rw [isStale, decide_eq_true_iff, Int64.le_iff_toInt_le, Int64.toInt_ofNat', Int64.toInt_sub]
    rfl

/-- Numbers that fit are not wrapped. -/
theorem bmod_of_fits {i : Int} (hlow : -2 ^ 63 ≤ i) (hhigh : i < 2 ^ 63) : i.bmod (2 ^ 64) = i :=
  Int.bmod_eq_of_le (by omega) (by omega)

/-- **What fits into 64 bits is found as it is.** -/
theorem wrappedOverdue_iff {now : Int64} {staleAfter : Nat} {lastUpToDate : Option Int64}
    (h : Fits now staleAfter lastUpToDate) :
    WrappedOverdue now staleAfter lastUpToDate ↔ Overdue now staleAfter lastUpToDate := by
  obtain ⟨hsetting, hage⟩ := h
  cases lastUpToDate with
  | none => exact Iff.rfl
  | some last =>
    obtain ⟨hlow, hhigh⟩ := hage last rfl
    rw [WrappedOverdue, bmod_of_fits (by omega) (by omega), bmod_of_fits hlow hhigh, Overdue]

/-- **Longer settings are not stricter**, up to the greatest signed number and whatever the age
    is. -/
theorem WrappedOverdue.anti {now : Int64} {shorter longer : Nat} {lastUpToDate : Option Int64}
    (h : WrappedOverdue now longer lastUpToDate) (hle : shorter ≤ longer)
    (hlonger : longer < 2 ^ 63) :
    WrappedOverdue now shorter lastUpToDate := by
  cases lastUpToDate with
  | none => trivial
  | some last =>
    rw [WrappedOverdue, bmod_of_fits (by omega) (by omega)] at h ⊢
    omega

/-! ## Polls -/

/-- A call to the store that asks about itself: its moment, and how many calls were made before
    it. -/
structure Poll where
  moment : Clock
  number : Nat

/-- The status that the store gives at a poll. -/
def statusGiven (b : BigSegments) (poll : Poll) : StoreStatus :=
  match b.source.lastUpToDate poll.number with
  | .ok last => ⟨true, isStale poll.moment.wall b.settings.staleAfter last⟩
  | .error _ => ⟨false, false⟩

/-- Whether a status is kept that is not too old. -/
def keepsStatus (b : BigSegments) (clock : Clock) (c : Cache) : Bool :=
  c.status.any fun kept => clock.steady - kept.2 < b.settings.statusPoll

/-- The poll that finding the status takes, if it takes one. -/
def poll? (b : BigSegments) (clock : Clock) (c : Cache) : Option Poll :=
  if b.keepsStatus clock c then none else some ⟨clock, c.asked⟩

/-- The membership of a key is not kept, and the store fails when it is asked for it. -/
def LookUpFails (b : BigSegments) (clock : Clock) (key : String) (c : Cache) : Prop :=
  kept? b clock key c = none ∧
    ∃ failure, b.source.membership c.asked (contextHash key) = .error failure

/-- The poll that looking a key up takes, if it takes one.  If the membership is not kept, the call
    for it comes first, and where that call fails no other follows. -/
def lookUpPoll? (b : BigSegments) (clock : Clock) (key : String) (c : Cache) : Option Poll :=
  match kept? b clock key c with
  | some _ => b.poll? clock c
  | none =>
    match b.source.membership c.asked (contextHash key) with
    | .ok _ => b.poll? clock { c with asked := c.asked + 1 }
    | .error _ => none

/-- **The caches that calls leave behind**, each with the latest poll that was made, if any was. -/
inductive Through (b : BigSegments) : Option Poll → Cache → Prop
  | start : Through b none (Cache.ofSettings b.settings)
  | membership {latest : Option Poll} {c : Cache} (clock : Clock) (key : String)
    (calls : List Call) :
    Through b latest c → Through b ((b.lookUpPoll? clock key c).or latest)
      ((membershipOf b clock key).run ⟨c, calls⟩).2.cache
  | status {latest : Option Poll} {c : Cache} (clock : Clock) (calls : List Call) :
    Through b latest c → Through b ((b.poll? clock c).or latest)
      ((currentStatus b clock).run ⟨c, calls⟩).2.cache

variable {b : BigSegments} {latest : Option Poll}

/-- What a cache keeps of the status is what a poll gave. -/
def KeepsGiven (b : BigSegments) (latest : Option Poll) (c : Cache) : Prop :=
  c.status = latest.map fun poll => (b.statusGiven poll, poll.moment.steady)

/-- The status is given by the clock and the number of calls, and so it is kept. -/
theorem run_askStatus_given (b : BigSegments) (clock : Clock) (s : Session) :
    ((askStatus b clock).run s).1 = b.statusGiven ⟨clock, s.cache.asked⟩ ∧
      KeepsGiven b (some ⟨clock, s.cache.asked⟩) ((askStatus b clock).run s).2.cache := by
  simp only [askStatus, noteCall, StateT.run_bind, StateT.run_get, pure_bind, KeepsGiven,
    Option.map_some, statusGiven]
  cases b.source.lastUpToDate s.cache.asked with
  | ok last => exact ⟨rfl, rfl⟩
  | error failure => exact ⟨rfl, rfl⟩

/-- **Finding the status** gives what the latest poll gave, and that is what is kept then. -/
theorem run_currentStatus_given (clock : Clock) {s : Session} (h : KeepsGiven b latest s.cache) :
    ∃ poll, (b.poll? clock s.cache).or latest = some poll ∧
      ((currentStatus b clock).run s).1 = b.statusGiven poll ∧
      KeepsGiven b (some poll) ((currentStatus b clock).run s).2.cache := by
  have hasked := run_askStatus_given b clock s
  simp only [currentStatus, StateT.run_bind, StateT.run_get, pure_bind]
  cases hstatus : s.cache.status with
  | none =>
    have hpoll : b.poll? clock s.cache = some ⟨clock, s.cache.asked⟩ := by
      simp [poll?, keepsStatus, hstatus]
    exact ⟨_, by rw [hpoll, Option.some_or], hasked⟩
  | some kept =>
    obtain ⟨status, since⟩ := kept
    simp only
    by_cases hrecent : clock.steady - since < b.settings.statusPoll
    · -- a status that is kept was given by the latest poll
      have hpoll : b.poll? clock s.cache = none := by simp [poll?, keepsStatus, hstatus, hrecent]
      obtain ⟨poll, hlatest, hgiven⟩ := Option.map_eq_some_iff.1 (h.symm.trans hstatus)
      obtain ⟨rfl, rfl⟩ := Prod.mk.inj hgiven
      rw [if_pos hrecent]
      refine ⟨poll, by rw [hpoll, Option.none_or, hlatest], rfl, ?_⟩
      exact hstatus
    · -- one that is too old is asked for again
      have hpoll : b.poll? clock s.cache = some ⟨clock, s.cache.asked⟩ := by
        simp [poll?, keepsStatus, hstatus, hrecent]
      rw [if_neg hrecent]
      exact ⟨_, by rw [hpoll, Option.some_or], hasked⟩

/-- **Looking a key up** tells what the latest poll gave, or that the store failed. -/
theorem run_membershipOf_given (clock : Clock) (key : String) {s : Session}
    (h : KeepsGiven b latest s.cache) :
    KeepsGiven b ((b.lookUpPoll? clock key s.cache).or latest)
        ((membershipOf b clock key).run s).2.cache ∧
      (b.LookUpFails clock key s.cache → ((membershipOf b clock key).run s).1.2 = .storeError) ∧
      (¬ b.LookUpFails clock key s.cache →
        ∃ poll, (b.lookUpPoll? clock key s.cache).or latest = some poll ∧
          ((membershipOf b clock key).run s).1.2 = (b.statusGiven poll).toBigSegmentsStatus) := by
  simp only [membershipOf, StateT.run_bind, StateT.run_get, pure_bind, LookUpFails, lookUpPoll?]
  cases hkept : kept? b clock key s.cache with
  | some membership =>
    -- found in the window: the status is that of the latest poll, or of one made now
    let touched : Session :=
      ⟨⟨s.cache.memberships.touch key, s.cache.status, s.cache.asked⟩, s.calls⟩
    obtain ⟨poll, hpoll, htold, hkeeps⟩ := run_currentStatus_given (s := touched) clock h
    refine ⟨?_, ?_, ?_⟩
    · exact hpoll ▸ hkeeps
    · rintro ⟨hnone, -⟩
      cases hnone
    · intro _
      exact ⟨poll, hpoll, congrArg StoreStatus.toBigSegmentsStatus htold⟩
  | none =>
    simp only [StateT.run_modify, pure_bind, StateT.run_bind, askMembership, StateT.run_get]
    cases hanswer : b.source.membership s.cache.asked (contextHash key) with
    | error failure =>
      -- the query fails before the status is asked for, so no poll is made
      refine ⟨h, fun _ => rfl, fun hnot => ?_⟩
      exact absurd ⟨trivial, failure, rfl⟩ hnot
    | ok membership =>
      let asked : Session :=
        ⟨⟨(s.cache.memberships.touch key).put key (membership, clock.steady), s.cache.status,
          s.cache.asked + 1⟩, s.calls ++ [⟨.membership (contextHash key), none⟩]⟩
      obtain ⟨poll, hpoll, htold, hkeeps⟩ := run_currentStatus_given (s := asked) clock h
      refine ⟨?_, ?_, ?_⟩
      · exact hpoll ▸ hkeeps
      · rintro ⟨-, failure, hfailure⟩
        cases hfailure
      · intro _
        exact ⟨poll, hpoll, congrArg StoreStatus.toBigSegmentsStatus htold⟩

/-- **The status that is kept is what the latest poll gave**, whatever calls came before. -/
theorem Through.keepsGiven {c : Cache} (h : b.Through latest c) : KeepsGiven b latest c := by
  induction h with
  | start => rfl
  | membership clock key calls _ ih =>
    exact (run_membershipOf_given (s := ⟨_, calls⟩) clock key ih).1
  | status clock calls _ ih =>
    obtain ⟨poll, hpoll, -, hkeeps⟩ := run_currentStatus_given (s := ⟨_, calls⟩) clock ih
    exact hpoll ▸ hkeeps

/-! ## Main result -/

/-- **How staleness is decided**, in any cache that calls leave behind.  The status of the store
    comes from the latest poll: if the store answered, it is available, and stale exactly if it was
    overdue when it was polled, as found with 64 bits.  A lookup tells of a stale store exactly
    then; if its membership cannot be had, or the poll failed, it tells of a store error.  What is
    found with 64 bits is so for integers if setting and age fit; and as long as settings fit, a
    longer one makes no store stale that was not. -/
theorem told_stale_iff {c : Cache} (h : b.Through latest c) (clock : Clock) (key : String)
    (calls : List Call) :
    let status := ((currentStatus b clock).run ⟨c, calls⟩).1
    let told := ((membershipOf b clock key).run ⟨c, calls⟩).1.2
    (∃ poll, (b.poll? clock c).or latest = some poll ∧
      ∀ last, b.source.lastUpToDate poll.number = .ok last →
        status.available = true ∧
        (status.stale = true ↔ WrappedOverdue poll.moment.wall b.settings.staleAfter last)) ∧
    (b.LookUpFails clock key c → told = .storeError) ∧
    (¬ b.LookUpFails clock key c → ∃ poll, (b.lookUpPoll? clock key c).or latest = some poll ∧
      (∀ failure, b.source.lastUpToDate poll.number = .error failure → told = .storeError) ∧
      ∀ last, b.source.lastUpToDate poll.number = .ok last →
        (told = .stale ↔ WrappedOverdue poll.moment.wall b.settings.staleAfter last) ∧
        (told = .healthy ↔ ¬ WrappedOverdue poll.moment.wall b.settings.staleAfter last)) ∧
    (∀ now staleAfter last, Fits now staleAfter last →
      (WrappedOverdue now staleAfter last ↔ Overdue now staleAfter last)) ∧
    ∀ now shorter longer last, shorter ≤ longer → longer < 2 ^ 63 →
      WrappedOverdue now longer last → WrappedOverdue now shorter last := by
  intro status told
  have hkeeps := h.keepsGiven
  refine ⟨?_, ?_, ?_, fun _ _ _ => wrappedOverdue_iff, fun _ _ _ _ hle hlonger hstale =>
    hstale.anti hle hlonger⟩
  · -- the status by itself
    obtain ⟨poll, hpoll, hstatus, -⟩ := run_currentStatus_given (s := ⟨c, calls⟩) clock hkeeps
    refine ⟨poll, hpoll, fun last hlast => ?_⟩
    have hgiven : status = b.statusGiven poll := hstatus
    rw [hgiven, statusGiven, hlast]
    exact ⟨rfl, isStale_iff⟩
  · exact (run_membershipOf_given (s := ⟨c, calls⟩) clock key hkeeps).2.1
  · -- the status that is told with a membership, by the same poll
    intro hanswers
    obtain ⟨poll, hpoll, htold⟩ :=
      (run_membershipOf_given (s := ⟨c, calls⟩) clock key hkeeps).2.2 hanswers
    have hgiven : told = (b.statusGiven poll).toBigSegmentsStatus := htold
    refine ⟨poll, hpoll, fun failure hfailure => ?_, fun last hlast => ?_⟩
    · rw [hgiven, statusGiven, hfailure]
      rfl
    · have hread : told =
          if isStale poll.moment.wall b.settings.staleAfter last then .stale else .healthy := by
        rw [hgiven, statusGiven, hlast]
        rfl
      rw [hread, ← isStale_iff]
      cases isStale poll.moment.wall b.settings.staleAfter last with
      | true => simp
      | false => simp

/-- A store that comes of age between two lookups: the second one tells so only if it polls anew. -/
theorem told_stale_iff_keptStatus :
    let b : BigSegments := ⟨.ofTable [] [] (.ok (some 0)), .standard⟩
    let c := ((membershipOf b ⟨100000, 0⟩ "u").run ⟨.ofSettings b.settings, []⟩).2.cache
    b.Through (some ⟨⟨100000, 0⟩, 1⟩) c ∧ ¬ b.LookUpFails ⟨120000, 4000⟩ "u" c ∧
    ((membershipOf b ⟨120000, 4000⟩ "u").run ⟨c, []⟩).1.2 = .healthy ∧
    ((membershipOf b ⟨120000, 5000⟩ "u").run ⟨c, []⟩).1.2 = .stale ∧
    Fits 120000 b.settings.staleAfter (some 0) ∧ Overdue 120000 b.settings.staleAfter (some 0) := by
  intro b c
  have hthrough : b.Through (some ⟨⟨100000, 0⟩, 1⟩) c := .membership ⟨100000, 0⟩ "u" [] .start
  have hanswers : ∀ clock, ¬ b.LookUpFails clock "u" c := by
    rintro clock ⟨-, failure, hfailure⟩
    cases hfailure
  have hfits : Fits 120000 b.settings.staleAfter (some 0) :=
    ⟨by decide, fun last hlast => Option.some.inj hlast ▸ by decide⟩
  obtain ⟨-, -, hkept, -⟩ := told_stale_iff hthrough ⟨120000, 4000⟩ "u" []
  obtain ⟨-, -, hpolled, hexact, -⟩ := told_stale_iff hthrough ⟨120000, 5000⟩ "u" []
  refine ⟨hthrough, hanswers _, ?_, ?_, hfits, by decide⟩
  · -- the status that was found at 100000 is kept
    obtain ⟨poll, hpoll, -, htold⟩ := hkept (hanswers _)
    obtain rfl : poll = ⟨⟨100000, 0⟩, 1⟩ := (Option.some.inj hpoll).symm
    exact (htold (some 0) rfl).2.2 (by decide)
  · -- it is too old, and so is the membership: the poll is the fourth call
    obtain ⟨poll, hpoll, -, htold⟩ := hpolled (hanswers _)
    obtain rfl : poll = ⟨⟨120000, 5000⟩, 3⟩ := (Option.some.inj hpoll).symm
    exact (htold (some 0) rfl).1.2 ((hexact _ _ _ hfits).2 (by decide))

/-- **A setting of 2⁶⁴ - 1 milliseconds, as long as never, counts as -1**: a store that was brought
    up to date a second ago is told to be stale, though it is not overdue and would not be stale
    with a setting of an hour.  And the age of what is dated at the least signed number counts as
    negative: it is overdue, but not found to be. -/
theorem told_stale_iff_never :
    let b : BigSegments := ⟨.ofTable [] [] (.ok (some 0)), ⟨1000, 5000, 5000, 2 ^ 64 - 1⟩⟩
    ((membershipOf b ⟨1000, 0⟩ "u").run ⟨.ofSettings b.settings, []⟩).1.2 = .stale ∧
    ¬ Overdue 1000 b.settings.staleAfter (some 0) ∧
    isStale 1000 3600000 (some 0) = false ∧ isStale 1000 b.settings.staleAfter (some 0) = true ∧
    isStale 1000 3600000 (some Int64.minValue) = false ∧
      Overdue 1000 3600000 (some Int64.minValue) := by
  refine ⟨rfl, by decide, by decide, by decide, by decide, by decide⟩

end FeatureFlags.BigSegments

/-
  STEADY SOURCES — big segments whose store always gives the same memberships.

  1. **Steady** — the memberships do not depend on how many calls were made before.  (Its status may
     change: it plays no part in what an evaluation finds.)
  2. **Reachable** — the caches that calls can leave behind, from an empty one on.
  3. **Faithful** — a cache that keeps nothing but what the source answers.  With a steady source
     all reachable caches are faithful, and looking a membership up gives the source's own answer,
     whatever the cache holds, whatever it has forgotten and whatever the time is
     (`run_membershipOf`).
-/
import FeatureFlags.BigSegments.Lookup
import FeatureFlags.Proofs.Recency

namespace FeatureFlags.BigSegments

/-- A source whose memberships are always the same. -/
def Source.Steady (source : Source) : Prop :=
  ∀ m n hash, source.membership m hash = source.membership n hash

theorem Source.steady_ofTable (memberships : Entries Membership) (unavailable : List String)
    (lastUpToDate : Except Failure (Option Int64)) :
    (Source.ofTable memberships unavailable lastUpToDate).Steady :=
  fun _ _ _ => rfl

/-- The caches that calls leave behind. -/
inductive Reachable (b : BigSegments) : Cache → Prop
  | start : Reachable b (Cache.ofSettings b.settings)
  | membership {c : Cache} (clock : Clock) (key : String) (calls : List Call) :
    Reachable b c → Reachable b ((membershipOf b clock key).run ⟨c, calls⟩).2.cache
  | status {c : Cache} (clock : Clock) (calls : List Call) :
    Reachable b c → Reachable b ((currentStatus b clock).run ⟨c, calls⟩).2.cache

/-- What the source answers for a context key. -/
def answer (b : BigSegments) (key : String) : Except Failure (Option Membership) :=
  b.source.membership 0 (contextHash key)

/-- What an evaluation learns about a context key: nothing from a source that fails. -/
def known (b : BigSegments) (key : String) : Option Membership :=
  match b.answer key with
  | .ok membership => membership
  | .error _ => none

/-- A cache that keeps nothing but answers of the source. -/
def Faithful (b : BigSegments) (c : Cache) : Prop :=
  ∀ key membership since, c.memberships.get? key = some (membership, since) →
    b.answer key = .ok membership

variable {b : BigSegments} {clock : Clock} {key : String} {s : Session}

/-! ## Calls -/

/-- The status of the store does not touch what is kept of memberships. -/
theorem memberships_currentStatus :
    ((currentStatus b clock).run s).2.cache.memberships = s.cache.memberships := by
  have hask : ((askStatus b clock).run s).2.cache.memberships = s.cache.memberships := by
    simp only [askStatus, noteCall, StateT.run_bind, StateT.run_get, pure_bind]
    cases b.source.lastUpToDate s.cache.asked <;> rfl
  simp only [currentStatus, StateT.run_bind, StateT.run_get, pure_bind]
  cases s.cache.status with
  | none => exact hask
  | some entry =>
    obtain ⟨status, since⟩ := entry
    simp only
    split
    · rfl
    · exact hask

/-- A status plays no part in memberships. -/
theorem Faithful.currentStatus (h : Faithful b s.cache) :
    Faithful b ((currentStatus b clock).run s).2.cache := by
  intro key membership since hkept
  rw [memberships_currentStatus] at hkept
  exact h key membership since hkept

theorem Faithful.touch {c : Cache} (h : Faithful b c) (name : String) :
    Faithful b { c with memberships := c.memberships.touch name } := by
  intro other membership since hkept
  rw [Recency.get?_touch] at hkept
  exact h other membership since hkept

/-- An answer of the source may be kept. -/
theorem Faithful.put {c : Cache} (h : Faithful b c) {membership : Option Membership}
    (hanswer : b.answer key = .ok membership) (since asked : Nat) :
    Faithful b { c with
      memberships := c.memberships.put key (membership, since), asked := asked } := by
  intro other found time hkept
  rcases Recency.get?_put_eq_some hkept with ⟨rfl, hfound⟩ | hkept
  · cases hfound
    exact hanswer
  · exact h other found time hkept

/-- What a faithful cache still holds is what the source answers. -/
theorem Faithful.of_kept? {c : Cache} (h : Faithful b c) {membership : Option Membership}
    (hkept : kept? b clock key c = some membership) : b.answer key = .ok membership := by
  rw [kept?] at hkept
  cases hitem : c.memberships.get? key with
  | none => rw [hitem] at hkept; cases hkept
  | some item =>
    obtain ⟨found, since⟩ := item
    rw [hitem] at hkept
    simp only [Option.ite_none_right_eq_some, Option.some.injEq] at hkept
    exact hkept.2 ▸ h key found since hitem

/-- Asking for a membership gives the source's answer, whatever was asked before. -/
theorem run_askMembership (hb : b.source.Steady) (clock : Clock) (key : String) {s : Session}
    (h : Faithful b s.cache) :
    ((askMembership b clock key).run s).1 = b.answer key ∧
      Faithful b ((askMembership b clock key).run s).2.cache := by
  have hanswer : b.source.membership s.cache.asked (contextHash key) = b.answer key :=
    hb _ _ _
  simp only [askMembership, StateT.run_bind, StateT.run_get, pure_bind, hanswer]
  cases hkey : b.answer key with
  | ok membership => exact ⟨rfl, h.put hkey clock.steady (s.cache.asked + 1)⟩
  | error failure => exact ⟨rfl, h⟩

/-- **Looking a membership up gives what the source answers**, and leaves a faithful cache. -/
theorem run_membershipOf (hb : b.source.Steady) (clock : Clock) (key : String) {s : Session}
    (h : Faithful b s.cache) :
    ((membershipOf b clock key).run s).1.1 = b.known key ∧
      Faithful b ((membershipOf b clock key).run s).2.cache := by
  have htouch := h.touch key
  simp only [membershipOf, StateT.run_bind, StateT.run_get, pure_bind]
  cases hkept : kept? b clock key s.cache with
  | some membership =>
    -- whatever is kept is what the source answers
    have hanswer : b.known key = membership := by rw [known, h.of_kept? hkept]
    refine ⟨hanswer.symm, ?_⟩
    exact Faithful.currentStatus htouch
  | none =>
    obtain ⟨hasked, hfaithful⟩ := run_askMembership hb clock key
      (s := ⟨⟨s.cache.memberships.touch key, s.cache.status, s.cache.asked⟩, s.calls⟩) htouch
    simp only [StateT.run_modify, pure_bind, StateT.run_bind]
    generalize (askMembership b clock key).run
      ⟨⟨s.cache.memberships.touch key, s.cache.status, s.cache.asked⟩, s.calls⟩ = asked
      at hasked hfaithful ⊢
    obtain ⟨answer, t⟩ := asked
    obtain rfl : answer = b.answer key := hasked
    cases hkey : b.answer key with
    | ok membership =>
      have hknown : b.known key = membership := by rw [known, hkey]
      exact ⟨hknown.symm, Faithful.currentStatus hfaithful⟩
    | error failure =>
      -- a failure is told as no membership, and nothing is kept of it
      have hknown : b.known key = none := by rw [known, hkey]
      exact ⟨hknown.symm, hfaithful⟩

theorem faithful_ofSettings : Faithful b (Cache.ofSettings b.settings) := by
  intro key membership since hkept
  rw [Cache.ofSettings, Recency.get?_ofCapacity] at hkept
  cases hkept

/-- With a steady source, no call can leave a cache that is not faithful. -/
theorem Reachable.faithful (hb : b.source.Steady) {c : Cache} (h : Reachable b c) :
    Faithful b c := by
  induction h with
  | start => exact faithful_ofSettings
  | membership clock key calls _ ih => exact (run_membershipOf hb clock key ih).2
  | status clock calls _ ih => exact Faithful.currentStatus ih

end FeatureFlags.BigSegments

/-
  AGREEMENT — evaluations that find the same of what the outside store knows.

  1. **Agreement** — `Agrees o s`: every membership at hand in `s` is what the outside store knows.
     With a steady source this holds in all states of all evaluations.
  2. **Following** — `Follows o x y`: from states that agree, `y` gives every result that `x` gives.
  3. **Caches** — evaluations leave no caches but those that calls leave behind, so an evaluator
     stays steady from one evaluation to the next (`Steady.evaluate`).
  4. **Evaluations of one flag** — following goes through the steps of evaluations, so it holds
     between two evaluations of one flag if the second has at least the depth of the first and no
     more keys on its way down (`follows_check`).  The tests on the way down can only end the first
     one with a fault.
-/
import FeatureFlags.Proofs.BigSegments.Steady
import FeatureFlags.Proofs.Evaluation.Stepwise

namespace FeatureFlags

namespace Evaluation

/-! ## Agreement -/

/-- What is at hand of memberships is what the outside store knows. -/
def State.Agrees (o : Option BigSegments) (s : State) : Prop :=
  ∀ b, o = some b → b.Faithful s.cache ∧
    ∀ key membership, Entries.get? key s.memberships = some membership → membership = b.known key

/-- Only memberships and cache matter. -/
theorem State.Agrees.of_eq {o : Option BigSegments} {s t : State} (h : s.Agrees o)
    (hmemberships : t.memberships = s.memberships) (hcache : t.cache = s.cache) : t.Agrees o := by
  intro b hb
  rw [hmemberships, hcache]
  exact h b hb

/-- In a state that agrees, a lookup gives what the outside store knows. -/
theorem runFrom_membership_of_agrees {e : Evaluator} {b : BigSegments} {s : State}
    (hsteady : b.source.Steady) (h : s.Agrees (some b)) (key : String) :
    ∃ t, (e.membership b key).runFrom s = (.ok (b.known key), t) ∧ t.Agrees (some b) := by
  obtain ⟨hfaithful, hknown⟩ := h b rfl
  cases hs : Entries.get? key s.memberships with
  | some membership =>
    obtain rfl := hknown key membership hs
    exact ⟨s, runFrom_membership_of_some hs, h⟩
  | none =>
    obtain ⟨hfound, hkept⟩ :=
      BigSegments.run_membershipOf hsteady e.clock key (s := ⟨s.cache, []⟩) hfaithful
    rw [runFrom_membership_of_none hs, hfound]
    refine ⟨_, rfl, ?_⟩
    intro _ hb
    cases hb
    refine ⟨hkept, fun other membership hother => ?_⟩
    have hget := Entries.get?_insert key other (b.known key) s.memberships
    rw [State.afterLookUp, hfound] at hother
    rw [hother] at hget
    -- of the memberships at hand now, this one was just found, and all others were there before
    by_cases hkey : key = other
    · rw [if_pos hkey] at hget
      rw [← hkey]
      exact Option.some.inj hget
    · rw [if_neg hkey] at hget
      exact hknown other membership hget.symm

/-! ## Following -/

/-- `Follows o x y` — from states that agree, `y` gives every result that `x` gives, and both leave
    states that agree. -/
def Follows (o : Option BigSegments) {α : Type} (x y : Evaluation α) : Prop :=
  ∀ ⦃s s' t : State⦄ ⦃a : α⦄, s.Agrees o → t.Agrees o → x.runFrom s = (.ok a, s') →
    s'.Agrees o ∧ ∃ t', y.runFrom t = (.ok a, t') ∧ t'.Agrees o

namespace Follows

variable {o : Option BigSegments} {α β : Type}

theorem bind {x y : Evaluation α} {f g : α → Evaluation β} (hxy : Follows o x y)
    (hfg : ∀ a, Follows o (f a) (g a)) : Follows o (x >>= f) (y >>= g) := by
  intro s s' t b hs ht h
  obtain ⟨a, u, hx, hf⟩ := runFrom_bind_eq_ok.1 h
  obtain ⟨hu, u', hy, hu'⟩ := hxy hs ht hx
  obtain ⟨hs', t', hg, ht'⟩ := hfg a hu hu' hf
  exact ⟨hs', t', runFrom_bind_eq_ok.2 ⟨a, u', hy, hg⟩, ht'⟩

/-- What gives no result is followed by everything. -/
theorem of_stop (entry : LogEntry) (y : Evaluation α) : Follows o (stop entry) y := by
  intro s s' t a _ _ h
  rw [runFrom_stop] at h
  cases h

/-- Steps that give the same result and leave memberships and cache alone. -/
theorem of_quiet {x y : Evaluation α} {a : α}
    (hx : ∀ s, ∃ s', x.runFrom s = (.ok a, s') ∧ s'.memberships = s.memberships ∧
      s'.cache = s.cache)
    (hy : ∀ s, ∃ s', y.runFrom s = (.ok a, s') ∧ s'.memberships = s.memberships ∧
      s'.cache = s.cache) : Follows o x y := by
  intro s s' t a' hs ht h
  obtain ⟨u, hrun, hmemberships, hcache⟩ := hx s
  obtain ⟨t', hrun', hmemberships', hcache'⟩ := hy t
  rw [hrun] at h
  cases h
  exact ⟨hs.of_eq hmemberships hcache, t', hrun', ht.of_eq hmemberships' hcache'⟩

end Follows

/-- Following goes through the steps of evaluations. -/
theorem stepwise_follows (o : Option BigSegments) : Stepwise fun _ x y => Follows o x y where
  pure a :=
    Follows.of_quiet (a := a) (fun _ => ⟨_, rfl, rfl, rfl⟩) (fun _ => ⟨_, rfl, rfl, rfl⟩)
  throw := by
    intro _ s s' t a _ _ h
    rw [runFrom_throw] at h
    cases h
  note _ :=
    Follows.of_quiet (a := ()) (fun _ => ⟨_, rfl, rfl, rfl⟩) (fun _ => ⟨_, rfl, rfl, rfl⟩)
  noteStatus _ :=
    Follows.of_quiet (a := ()) (fun _ => ⟨_, rfl, rfl, rfl⟩) (fun _ => ⟨_, rfl, rfl, rfl⟩)
  bind hxy hfg := Follows.bind hxy hfg

/-! ## Caches -/

/-- From a cache that calls have left behind, `x` leaves such a cache. -/
def KeepsReachable (o : Option BigSegments) {α : Type} (x : Evaluation α) : Prop :=
  ∀ s : State, (∀ b, o = some b → b.Reachable s.cache) →
    ∀ b, o = some b → b.Reachable (x.runFrom s).2.cache

namespace KeepsReachable

variable {o : Option BigSegments} {α β : Type}

/-- What leaves the cache alone. -/
theorem of_eq {x : Evaluation α} (h : ∀ s, (x.runFrom s).2.cache = s.cache) :
    KeepsReachable o x := by
  intro s hs b hb
  rw [h s]
  exact hs b hb

theorem bind {x : Evaluation α} {f : α → Evaluation β} (hx : KeepsReachable o x)
    (hf : ∀ a, KeepsReachable o (f a)) : KeepsReachable o (x >>= f) := by
  intro s hs
  have hkept := hx s hs
  rcases hrun : x.runFrom s with ⟨fault | a, t⟩
  · rw [hrun] at hkept
    rw [runFrom_bind_of_error hrun]
    exact hkept
  · rw [hrun] at hkept
    rw [runFrom_bind_of_ok hrun]
    exact hf a t hkept

end KeepsReachable

/-- The single steps leave the cache alone: a lookup is none of them. -/
theorem stepwise_keepsReachable (o : Option BigSegments) :
    Stepwise fun _ x _ => KeepsReachable o x where
  pure _ := .of_eq fun _ => rfl
  throw := .of_eq fun _ => rfl
  note _ := .of_eq fun _ => rfl
  noteStatus _ := .of_eq fun _ => rfl
  bind hx hf := hx.bind hf

/-- A key that was read before is not looked up again; any other goes through a call of the wrapper,
    which leaves such a cache. -/
theorem keepsReachable_membership (e : Evaluator) (b : BigSegments) (key : String) :
    KeepsReachable (some b) (e.membership b key) := by
  intro s hs b' hb
  cases hb
  cases hget : Entries.get? key s.memberships with
  | some membership =>
    rw [runFrom_membership_of_some hget]
    exact hs b rfl
  | none =>
    rw [runFrom_membership_of_none hget]
    exact .membership e.clock key [] (hs b rfl)

end Evaluation

namespace Evaluator

/-! ## Evaluations of one flag -/

/-- Two evaluators with the same data.  Their clocks may differ, and what they report. -/
def SameData (e e' : Evaluator) : Prop :=
  e'.store = e.store ∧ e'.bigSegments = e.bigSegments

/-- Without an outside store, or with one that is steady and a cache that calls have left behind. -/
def Steady (e : Evaluator) (cache : BigSegments.Cache) : Prop :=
  ∀ b, e.bigSegments = some b → b.source.Steady ∧ b.Reachable cache

variable {e e' : Evaluator} {cache : BigSegments.Cache} {context : Context}

/-- An evaluation starts with no membership read, and the cache agrees by assumption. -/
theorem Steady.agrees (h : e.Steady cache) :
    (Evaluation.State.start cache).Agrees e.bigSegments := by
  intro b hb
  obtain ⟨hsteady, hreachable⟩ := h b hb
  refine ⟨hreachable.faithful hsteady, fun key membership hget => ?_⟩
  cases hget

/-- Over the same data two evaluators answer alike at every level, whatever each has read before. -/
theorem alike_follows (hsame : SameData e e')
    (hsteady : ∀ b, e.bigSegments = some b → b.source.Steady) :
    Alike (fun _ x y => Evaluation.Follows e.bigSegments x y) .all e e' where
  store := by
    rw [hsame.1]
    exact .all e.store
  bigSegments := hsame.2
  membership b hb key := by
    intro s s' t found hs ht h
    rw [hb] at hs ht
    obtain ⟨u, hrun, hu⟩ := Evaluation.runFrom_membership_of_agrees (e := e) (hsteady b hb) hs key
    obtain ⟨t', hrun', ht'⟩ :=
      Evaluation.runFrom_membership_of_agrees (e := e') (hsteady b hb) ht key
    rw [hrun] at h
    cases h
    rw [hb]
    exact ⟨hu, t', hrun', ht'⟩

theorem runFrom_notePrerequisite (e : Evaluator) (context : Context) (f q : Flag) (d : Detail Json)
    (s : Evaluation.State) :
    ∃ s', (e.notePrerequisite context f q d).runFrom s = (.ok (), s') ∧
      s'.memberships = s.memberships ∧ s'.cache = s.cache := by
  rw [notePrerequisite]
  cases e.factory with
  | none => exact ⟨s, rfl, rfl, rfl⟩
  | some factory => exact ⟨_, rfl, rfl, rfl⟩

/-- The report on a prerequisite is no part of the answer. -/
theorem follows_notePrerequisite (e e' : Evaluator) (o : Option BigSegments) (f q : Flag)
    (d : Detail Json) :
    Evaluation.Follows o (e.notePrerequisite context f q d)
      (e'.notePrerequisite context f q d) :=
  Evaluation.Follows.of_quiet (runFrom_notePrerequisite e context f q d)
    (runFrom_notePrerequisite e' context f q d)

/-- **What a nested evaluation gives, an evaluation with more depth and fewer keys on the way down
    gives too.** -/
theorem follows_check (hsame : SameData e e')
    (hsteady : ∀ b, e.bigSegments = some b → b.source.Steady) {depth depth' : Nat}
    {met met' : List String} (hdepth : depth ≤ depth') (hmet : met' ⊆ met) (f : Flag) :
    Evaluation.Follows e.bigSegments (e.check context depth met f)
      (e'.check context depth' met' f) :=
  (Evaluation.stepwise_follows e.bigSegments).check
    (alike_follows hsame hsteady) (.refl _ _ context)
    (follows_notePrerequisite e e' e.bigSegments)
    (.freer Evaluation.Follows.of_stop hdepth hmet) (.refl f context) fun _ _ _ => trivial

/-- **Evaluations leave an evaluator steady**, so that one may follow another. -/
theorem Steady.evaluate (h : e.Steady cache) (f : Flag) (context : Context) :
    e.Steady (e.evaluate cache f context).cache := by
  have halike : Alike (fun _ x _ => Evaluation.KeepsReachable e.bigSegments x) .all e e :=
    { store := .all e.store
      bigSegments := rfl
      membership := fun b hb key => hb ▸ Evaluation.keepsReachable_membership e b key }
  have hnote : ∀ f q d, Evaluation.KeepsReachable e.bigSegments
      (e.notePrerequisite context f q d) := by
    intro f q d
    refine .of_eq fun s => ?_
    obtain ⟨s', hrun, -, hcache⟩ := runFrom_notePrerequisite e context f q d s
    rw [hrun]
    exact hcache
  have hkeeps : Evaluation.KeepsReachable e.bigSegments (e.check context maxDepth [] f) :=
    (Evaluation.stepwise_keepsReachable e.bigSegments).check halike (.refl _ _ context) hnote
      (.same maxDepth []) (.refl f context) fun _ _ _ => trivial
  intro b hb
  exact ⟨(h b hb).1, hkeeps (.start cache) (fun b hb => (h b hb).2) b hb⟩

end Evaluator

end FeatureFlags

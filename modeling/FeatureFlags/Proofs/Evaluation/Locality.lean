/-
  EVALUATIONS ARE LOCAL — they depend on nothing but what their flag reaches.

  1. **Two stores** (`lockstep_check`) — evaluators whose stores show the same where a flag reaches
     go in lockstep, by the relations that go through evaluations: what a flag reaches is a part
     that they share.
  2. **Updates elsewhere** (`shown?_run_of_elsewhere`) — updates of items that are not reached leave
     what is shown there as it is.
  3. **Main result** (`evaluate_local`) — the same detail and the same reports, but for their dates;
     and with updates elsewhere the same outcome altogether.
-/
import FeatureFlags.Proofs.Evaluation.Lockstep
import FeatureFlags.Proofs.Evaluation.WellFormed
import FeatureFlags.Proofs.Store.Convergence

namespace FeatureFlags

open Store (Item ItemKind Update)

/-! ## Two stores -/

namespace Evaluator

open Evaluation (Lockstep Matches)

variable {e e' : Evaluator} {cache cache' : BigSegments.Cache}

/-- **Where a flag reaches the same, and the same is seen of the context, its evaluations go in
    lockstep.** -/
theorem lockstep_check {P : Evaluation.State → Evaluation.State → Prop} (hP : Evaluation.Kept P)
    {f : Flag} {context context' : Context} (hseen : f.SeesAlike context context')
    (hreached : e.store.SeesAlike (e.store.Reaches (.flag f)) context context')
    (halike : Alike (fun _ x y => Lockstep P x y) (e.store.Reaches (.flag f)) e e')
    (hnote : ∀ g q d, Lockstep P (e.notePrerequisite context g q d)
      (e'.notePrerequisite context' g q d)) :
    Lockstep P (e.check context maxDepth [] f) (e'.check context' maxDepth [] f) :=
  (Evaluation.stepwise_lockstep hP).check halike hreached hnote (.same maxDepth []) hseen
    fun _ _ hmentions => .mentioned hmentions

/-- Evaluators of one outside store evaluate alike where a flag reaches the same, and stay in the
    moment. -/
theorem AnsweredAlike.evaluate_shown (h : e.AnsweredAlike cache e' cache')
    (hfactory : e'.factory.map (·.withReasons) = e.factory.map (·.withReasons)) {f : Flag}
    (hshown : ∀ kind key, e.store.Reaches (.flag f) kind key →
      e'.store.shown? kind key = e.store.shown? kind key) (context : Context) :
    (e'.evaluate cache' f context).detail = (e.evaluate cache f context).detail ∧
    (e'.evaluate cache' f context).prerequisiteEvents.map FeatureEvent.undated
      = (e.evaluate cache f context).prerequisiteEvents.map FeatureEvent.undated ∧
    ∀ b, e.bigSegments = some b →
      b.statusAt e.clock (e.evaluate cache f context).cache = b.statusAt e.clock cache :=
  h.evaluate fun found =>
    lockstep_check Evaluation.kept_matches (.refl f context) (.refl _ _ context)
    (h.alike found (.reach hshown)) (lockstep_notePrerequisite hfactory)

end Evaluator

/-! ## Updates elsewhere -/

/-- Updates of other items leave what is shown under a kind and a key. -/
theorem Store.shown?_run_of_elsewhere {s : Store} {updates : List Update} {kind : ItemKind}
    {key : String} (h : ∀ u ∈ updates, ¬(u.item.kind = kind ∧ u.item.key = key)) :
    (s.run updates).shown? kind key = s.shown? kind key := by
  have hnone : arrivals updates kind key = [] := by
    refine List.filter_eq_nil_iff.2 fun item hitem hat => ?_
    obtain ⟨u, hu, rfl⟩ := List.mem_map.1 hitem
    exact h u hu (of_decide_eq_true hat)
  rw [shown?_eq, shown?_eq, stored?_run, hnone]
  rfl

namespace Evaluator

open Evaluation (Lockstep)

/-- A store that shows the same where a flag reaches gives the same outcome in every respect,
    whatever the outside store answers: it is asked the same in the same order. -/
theorem evaluate_of_shown {e : Evaluator} {s : Store} (cache : BigSegments.Cache) {f : Flag}
    (context : Context)
    (h : ∀ kind key, e.store.Reaches (.flag f) kind key →
      s.shown? kind key = e.store.shown? kind key) :
    ({ e with store := s } : Evaluator).evaluate cache f context = e.evaluate cache f context := by
  have hkept : Evaluation.Kept Eq := ⟨fun hst _ => hst ▸ rfl, fun hst _ => hst ▸ rfl⟩
  have halike : Alike (fun _ x y => Lockstep Eq x y) (e.store.Reaches (.flag f)) e
      { e with store := s } :=
    { store := .reach h
      bigSegments := rfl
      membership := fun _ _ _ _ _ hst => hst ▸ ⟨rfl, rfl⟩ }
  have hrun := lockstep_check hkept (.refl f context) (.refl _ _ context) halike
    fun _ _ _ _ _ hst => hst ▸ ⟨rfl, rfl⟩
  obtain ⟨hresult, hstates⟩ := hrun (rfl : Evaluation.State.start cache = .start cache)
  exact congrArg Outcome.ofRun (Prod.ext hresult hstates.symm)

/-! ## Main result -/

/-- **Evaluations are local.**  Where two stores show the same under all kinds and keys that a flag
    reaches, which are then the same in both, evaluations of the flag have the same detail and
    report the same prerequisites, dates aside.  Their moments may differ, and what is kept of the
    answers of a constant outside store.  In particular, whatever updates of items that the flag
    does not reach are made, in any number, the outcome is the same. -/
theorem evaluate_local (e : Evaluator) (cache : BigSegments.Cache) (f : Flag) (context : Context) :
    (∀ e' cache', e.AnsweredAlike cache e' cache' →
      e'.factory.map (·.withReasons) = e.factory.map (·.withReasons) →
      (∀ kind key, e.store.Reaches (.flag f) kind key →
        e'.store.shown? kind key = e.store.shown? kind key) →
      (∀ kind key, e'.store.Reaches (.flag f) kind key ↔ e.store.Reaches (.flag f) kind key) ∧
      (e'.evaluate cache' f context).detail = (e.evaluate cache f context).detail ∧
      (e'.evaluate cache' f context).prerequisiteEvents.map FeatureEvent.undated
        = (e.evaluate cache f context).prerequisiteEvents.map FeatureEvent.undated) ∧
    (∀ updates : List Update,
      (∀ u ∈ updates, ¬ e.store.Reaches (.flag f) u.item.kind u.item.key) →
      ({ e with store := e.store.run updates } : Evaluator).evaluate cache f context
        = e.evaluate cache f context) := by
  refine ⟨fun e' cache' halike hfactory hshown => ?_, fun updates helsewhere => ?_⟩
  · obtain ⟨hdetail, hevents, -⟩ := halike.evaluate_shown hfactory hshown context
    exact ⟨Store.Reaches.of_shown hshown, hdetail, hevents⟩
  · refine evaluate_of_shown cache context fun kind key hreached => ?_
    refine Store.shown?_run_of_elsewhere fun u hu hat => helsewhere u hu ?_
    rw [hat.1, hat.2]
    exact hreached

/-! ## An instance: what happens beside a diamond -/

/-- Items of a diamond mention items of the diamond only. -/
theorem mem_diamondKeys_of_mentions {key key' : String} {kind' : ItemKind}
    (hkey : key ∈ diamondKeys)
    (h : (Item.flag (diamondFlag key)).Mentions kind' key' ∨
      (Item.segment (diamondSegment key)).Mentions kind' key') :
    key' ∈ diamondKeys := by
  rcases h with h | h
  · cases h with
    | prerequisite hp =>
      obtain ⟨name, hname, rfl⟩ := List.mem_map.1 hp
      exact mem_diamondKeys_of_mem_below key hkey name hname
    | flagRule hr hc hname =>
      cases List.mem_singleton.1 hr
      cases List.mem_singleton.1 hc
      cases List.mem_singleton.1 hname
      exact hkey
  · cases h with
    | segmentRule hr hc hname =>
      cases List.mem_singleton.1 hr
      cases List.mem_singleton.1 hc
      obtain ⟨value, hvalue, htext⟩ := List.mem_filterMap.1 hname
      obtain ⟨name, hname, rfl⟩ := List.mem_map.1 hvalue
      cases htext
      exact mem_diamondKeys_of_mem_below key hkey key' hname

theorem mem_diamondKeys_of_reaches {kind : ItemKind} {key : String}
    (h : diamondStore.Reaches (.flag (diamondFlag "top")) kind key) : key ∈ diamondKeys := by
  have hpart : diamondStore.Shares diamondStore fun _ key => key ∈ diamondKeys := by
    refine ⟨fun _ _ _ => rfl, fun kind key item _ hitem kind' key' hmentions => ?_⟩
    cases kind with
    | flags =>
      obtain ⟨f, hf, rfl⟩ := Option.map_eq_some_iff.1 hitem
      obtain ⟨hkey, rfl⟩ := eq_diamondFlag hf
      exact mem_diamondKeys_of_mentions hkey (.inl hmentions)
    | segments =>
      obtain ⟨x, hx, rfl⟩ := Option.map_eq_some_iff.1 hitem
      obtain ⟨hkey, rfl⟩ := eq_diamondSegment hx
      exact mem_diamondKeys_of_mentions hkey (.inr hmentions)
  exact h.mem hpart fun _ _ hmentions => mem_diamondKeys_of_mentions (by decide) (.inl hmentions)

/-- A flag and a segment arrive that refer to the diamond, and another flag is deleted. -/
def strayUpdates : List Update :=
  [.put (.flag { diamondFlag "top" with key := "stray" }), .delete .flags "lost" 3,
    .put (.segment { diamondSegment "top" with key := "stray" })]

def emptySource : BigSegments := ⟨.ofTable [] [] (.ok none), .standard⟩

/-- What asking for somebody leaves behind. -/
def usedCache : BigSegments.Cache :=
  ((emptySource.membershipOf ⟨0, 0⟩ "somebody").run ⟨.ofSettings .standard, []⟩).2.cache

def earlyEvaluator : Evaluator := ⟨diamondStore, some emptySource, ⟨0, 0⟩, some ⟨true, 0⟩⟩

def lateEvaluator : Evaluator :=
  ⟨diamondStore.run strayUpdates, some emptySource, ⟨9, 7⟩, some ⟨true, 7000⟩⟩

/-- The later evaluator asks the same outside store, which is found in the same status, at another
    time and with a cache that has been used. -/
theorem answeredAlike_lateEvaluator :
    earlyEvaluator.AnsweredAlike (.ofSettings .standard) lateEvaluator usedCache where
  bigSegments := rfl
  constant b hb := by
    cases hb
    exact BigSegments.Source.constant_ofTable _ _ _
  reachable b hb := by
    cases hb
    exact ⟨.start, .membership _ _ _ .start⟩
  status b hb := by
    cases hb
    rfl

theorem evaluate_local_diamond :
    earlyEvaluator.AnsweredAlike (.ofSettings .standard) lateEvaluator usedCache ∧
    (∀ u ∈ strayUpdates,
      ¬ diamondStore.Reaches (.flag (diamondFlag "top")) u.item.kind u.item.key) ∧
    (lateEvaluator.evaluate usedCache (diamondFlag "top")
        (.single ⟨Kind.user, "a", none, false, none, [], []⟩)).detail
      = (earlyEvaluator.evaluate (.ofSettings .standard) (diamondFlag "top")
        (.single ⟨Kind.user, "a", none, false, none, [], []⟩)).detail ∧
    ({ earlyEvaluator with store := diamondStore.run strayUpdates } : Evaluator).evaluate
        (.ofSettings .standard) (diamondFlag "top")
        (.single ⟨Kind.user, "a", none, false, none, [], []⟩)
      = earlyEvaluator.evaluate (.ofSettings .standard) (diamondFlag "top")
        (.single ⟨Kind.user, "a", none, false, none, [], []⟩) := by
  have helsewhere : ∀ u ∈ strayUpdates, u.item.key ∉ diamondKeys := by decide
  have hstray : ∀ u ∈ strayUpdates,
      ¬ diamondStore.Reaches (.flag (diamondFlag "top")) u.item.kind u.item.key :=
    fun u hu hreached => helsewhere u hu (mem_diamondKeys_of_reaches hreached)
  -- what the flag reaches is of the diamond, and the stray updates are not
  have hshown : ∀ kind key, diamondStore.Reaches (.flag (diamondFlag "top")) kind key →
      (diamondStore.run strayUpdates).shown? kind key = diamondStore.shown? kind key := by
    intro kind key hreached
    refine Store.shown?_run_of_elsewhere fun u hu hat => helsewhere u hu ?_
    rw [hat.2]
    exact mem_diamondKeys_of_reaches hreached
  have hlocal := evaluate_local earlyEvaluator (.ofSettings .standard) (diamondFlag "top")
    (.single ⟨Kind.user, "a", none, false, none, [], []⟩)
  exact ⟨answeredAlike_lateEvaluator, hstray,
    (hlocal.1 lateEvaluator usedCache answeredAlike_lateEvaluator rfl hshown).2.1,
    hlocal.2 strayUpdates hstray⟩

end Evaluator

end FeatureFlags

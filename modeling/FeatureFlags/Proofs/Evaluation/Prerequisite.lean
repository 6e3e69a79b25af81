/-
  PREREQUISITES — a flag serves only what its prerequisites allow.

  Prerequisites are evaluated below the flag: with the keys of the flags on the way down, with less
  depth to go, and in the state that the evaluation has reached.  None of this makes a difference to
  a prerequisite that gives a detail: ON ITS OWN it gives the same.

  1. **On its own** — `e.Yields context f d`: what a fresh evaluation of the flag gives.
  2. **The gate** (`evaluate_prerequisites`) — a flag that serves by its targets, rules or
     fallthrough has all of its prerequisites satisfied, and a prerequisite that is reported to have
     failed is the first one violated.
-/
import FeatureFlags.Proofs.Evaluation.Agreement
import FeatureFlags.Proofs.Evaluation.Reason

namespace FeatureFlags.Evaluator

variable {e : Evaluator} {cache : BigSegments.Cache} {context : Context}

/-! ## On its own -/

/-- **What a flag gives on its own**: whenever it is evaluated afresh, with any cache that calls may
    have left behind. -/
def Yields (e : Evaluator) (context : Context) (f : Flag) (d : Detail Json) : Prop :=
  ∀ e' cache, SameData e e' → e'.Steady cache →
    (e'.evaluate cache f context).detail.value = d.value ∧
    (e'.evaluate cache f context).detail.index = d.index ∧
    (e'.evaluate cache f context).detail.reason.cause = d.reason.cause

/-- The stored flag is on and gives the variation it should. -/
def Satisfied (e : Evaluator) (context : Context) (p : Prerequisite) : Prop :=
  ∃ q d, e.store.flag? p.key = some q ∧ e.Yields context q d ∧
    q.on = true ∧ d.index = some p.variation

/-- The stored flag is off or gives another variation, or none. -/
def Violated (e : Evaluator) (context : Context) (p : Prerequisite) : Prop :=
  ∃ q d, e.store.flag? p.key = some q ∧ e.Yields context q d ∧
    (q.on = false ∨ d.index ≠ some p.variation)

/-- **A nested evaluation that gives a detail gives what the flag gives on its own.** -/
theorem yields_of_check (hsteady : ∀ b, e.bigSegments = some b → b.source.Steady) {depth : Nat}
    (hdepth : depth ≤ maxDepth) {met : List String} {f : Flag} {s t : Evaluation.State}
    {d : Detail Json} (hs : s.Agrees e.bigSegments)
    (h : (e.check context depth met f).runFrom s = (.ok d, t)) :
    t.Agrees e.bigSegments ∧ e.Yields context f d := by
  have hfollows : ∀ {e'}, SameData e e' → Evaluation.Follows e.bigSegments
      (e.check context depth met f) (e'.check context maxDepth [] f) :=
    fun hsame => follows_check hsame hsteady hdepth (List.nil_subset met) f
  refine ⟨(hfollows ⟨rfl, rfl⟩ hs hs h).1, fun e' cache hsame hcache => ?_⟩
  have hstart : (Evaluation.State.start cache).Agrees e.bigSegments := hsame.2 ▸ hcache.agrees
  -- the fresh evaluation has all of the depth, no flags above it, and an empty state
  obtain ⟨-, t', hrun, -⟩ := hfollows hsame hs hstart h
  rw [detail_evaluate_of_ok hrun]
  exact ⟨rfl, rfl, rfl⟩

/-- A prerequisite is met by a flag that is on and serves the variation asked for. -/
theorem metBy_eq_true_iff {p : Prerequisite} {q : Flag} {d : Detail Json} :
    Prerequisite.metBy p q d = true ↔ q.on = true ∧ d.index = some p.variation := by
  rw [Prerequisite.metBy, Bool.and_eq_true, decide_eq_true_eq]

/-- An off flag does not meet a prerequisite, even if its off variation is the one asked for. -/
theorem metBy_eq_false_iff {p : Prerequisite} {q : Flag} {d : Detail Json} :
    Prerequisite.metBy p q d = false ↔ q.on = false ∨ d.index ≠ some p.variation := by
  rw [Prerequisite.metBy, Bool.and_eq_false_iff, decide_eq_false_iff_not]

/-- The search for a prerequisite that is not met: all are satisfied, or the first that is not is
    found. -/
theorem firstUnmet?_eq_ok (hsteady : ∀ b, e.bigSegments = some b → b.source.Steady) {depth : Nat}
    (hdepth : depth ≤ maxDepth) {nested met : List String} {f : Flag} {t : Evaluation.State}
    {unmet : Option String} :
    ∀ {ps : List Prerequisite} {s : Evaluation.State}, s.Agrees e.bigSegments →
      (e.firstUnmet? context (e.check context depth nested) met f ps).runFrom s = (.ok unmet, t) →
      match unmet with
      | none => ∀ p ∈ ps, e.Satisfied context p
      | some key => ∃ before p after, ps = before ++ p :: after ∧ p.key = key ∧
          (∀ q ∈ before, e.Satisfied context q) ∧ e.Violated context p
  | [], s, _, h => by
    cases h
    exact fun _ hp => absurd hp List.not_mem_nil
  | p :: rest, s, hs, h => by
    obtain ⟨q, d, u, v, hq, hcheck, hnote, hdecide⟩ := firstUnmet?_cons_eq_ok h
    obtain ⟨hu, hyields⟩ := yields_of_check hsteady hdepth hs hcheck
    have hv : v.Agrees e.bigSegments :=
      (follows_notePrerequisite e e e.bigSegments f q d hu hu hnote).1
    -- met: the search goes on with the rest; not met: the search ends here
    rcases hdecide with ⟨hmet, hrest⟩ | ⟨hmet, rfl⟩
    · have hp : e.Satisfied context p := ⟨q, d, hq, hyields, metBy_eq_true_iff.1 hmet⟩
      have hfound := firstUnmet?_eq_ok hsteady hdepth hv hrest
      cases unmet with
      | none => exact List.forall_mem_cons.2 ⟨hp, hfound⟩
      | some key =>
        obtain ⟨before, r, after, hsplit, hr, hbefore, hviolated⟩ := hfound
        exact ⟨p :: before, r, after, by rw [hsplit]; rfl, hr,
          List.forall_mem_cons.2 ⟨hp, hbefore⟩, hviolated⟩
    · have hp : e.Violated context p := ⟨q, d, hq, hyields, metBy_eq_false_iff.1 hmet⟩
      exact ⟨[], p, rest, rfl, rfl, fun _ hr => absurd hr List.not_mem_nil, hp⟩

/-- No prerequisite is both. -/
theorem Satisfied.not_violated (h : e.Steady cache) {p : Prerequisite}
    (hp : e.Satisfied context p) : ¬ e.Violated context p := by
  rintro ⟨q, d, hq, hyields, hviolated⟩
  obtain ⟨q', d', hq', hyields', hon, hindex⟩ := hp
  rw [hq] at hq'
  cases hq'
  have hd : d.index = d'.index :=
    (hyields e cache ⟨rfl, rfl⟩ h).2.1.symm.trans (hyields' e cache ⟨rfl, rfl⟩ h).2.1
  rcases hviolated with hoff | hne
  · rw [hoff] at hon
    cases hon
  · exact hne (hd.trans hindex)

/-! ## The gate -/

/-- What an evaluation can report about a flag, as far as prerequisites go. -/
inductive Gate (e : Evaluator) (context : Context) (f : Flag) : Reason.Cause → Prop
  | fault (fault : Fault) : Gate e context f (.error fault)
  | off : Gate e context f .off
  | passed {cause : Reason.Cause} : cause.MeansOn → (∀ p ∈ f.prerequisites, e.Satisfied context p) →
    Gate e context f cause
  | closed {before : List Prerequisite} {p : Prerequisite} {after : List Prerequisite} :
    f.prerequisites = before ++ p :: after → (∀ q ∈ before, e.Satisfied context q) →
    e.Violated context p → Gate e context f (.prerequisiteFailed p.key)

/-- The gate of the top level, where nothing was met before. -/
theorem gate_evaluate (h : e.Steady cache) (f : Flag) (context : Context) :
    e.Gate context f (e.evaluate cache f context).detail.reason.cause := by
  rcases hrun : (e.check context maxDepth [] f).runFrom (.start cache) with ⟨fault | d, t⟩
  · rw [detail_evaluate_of_error hrun]
    exact .fault fault
  · rw [detail_evaluate_of_ok hrun]
    -- off, or on with the outcome of the search through the prerequisites
    rcases check_eq_ok hrun with ⟨-, hserve⟩ | ⟨-, rest, unmet, u, hrest, hunmet, hserve⟩
    · obtain ⟨-, hreason, -⟩ := Flag.serveOff_eq_ok hserve
      rw [hreason]
      exact .off
    · have hdepth : rest ≤ maxDepth := by omega
      have hfound := firstUnmet?_eq_ok (fun b hb => (h b hb).1) hdepth h.agrees hunmet
      cases unmet with
      | none =>
        obtain ⟨index, cause, hreason, -, hwhy⟩ := justifies_of_serveOn hserve
        rw [hreason]
        exact .passed hwhy.meansOn hfound
      | some key =>
        obtain ⟨-, hreason, -⟩ := Flag.serveOff_eq_ok hserve
        obtain ⟨before, p, after, hsplit, rfl, hbefore, hviolated⟩ := hfound
        rw [hreason]
        exact .closed hsplit hbefore hviolated

/-- **The gate of prerequisites.**  A flag that serves by its targets, rules or fallthrough has all
    of its prerequisites satisfied: the store has a flag of that key which is on and on its own
    gives the variation wanted.  A prerequisite that is reported to have failed is the first one
    violated, all before it being satisfied.  And what any nested evaluation gives, below whatever
    flags, is what the flag gives on its own. -/
theorem evaluate_prerequisites (e : Evaluator) (cache : BigSegments.Cache) (h : e.Steady cache)
    (f : Flag) (context : Context) :
    let cause := (e.evaluate cache f context).detail.reason.cause
    (cause.MeansOn → ∀ p ∈ f.prerequisites, e.Satisfied context p) ∧
    (∀ key, cause = .prerequisiteFailed key →
      ∃ before p after, f.prerequisites = before ++ p :: after ∧ p.key = key ∧
        (∀ q ∈ before, e.Satisfied context q ∧ ¬ e.Violated context q) ∧
        e.Violated context p) ∧
    (Evaluation.State.start cache).Agrees e.bigSegments ∧
    (∀ depth met q s t d, depth ≤ maxDepth → s.Agrees e.bigSegments →
      (e.check context depth met q).runFrom s = (.ok d, t) →
      t.Agrees e.bigSegments ∧ e.Yields context q d) := by
  intro cause
  have hgate : e.Gate context f cause := gate_evaluate h f context
  clear_value cause
  refine ⟨fun hon => ?_, fun key hkey => ?_, h.agrees, fun depth met q s t d hdepth hs hrun =>
    yields_of_check (fun b hb => (h b hb).1) hdepth hs hrun⟩
  · cases hgate with
    | fault => exact hon.elim
    | off => exact hon.elim
    | passed _ hsatisfied => exact hsatisfied
    | closed => exact hon.elim
  · rw [hkey] at hgate
    cases hgate with
    | passed hon => exact hon.elim
    | closed hsplit hbefore hviolated =>
      exact ⟨_, _, _, hsplit, rfl, fun q hq => ⟨hbefore q hq, (hbefore q hq).not_violated h⟩,
        hviolated⟩

/-! ## An instance -/

/-- A flag with two variations that serves everybody the second one. -/
def plainFlag (key : String) (prerequisites : List Prerequisite) : Flag :=
  { Flag.ofKey key with
    on := true
    prerequisites
    fallthrough := ⟨some 1, none⟩
    variations := [.bool false, .bool true] }

/-- A flag that requires two others, of which one requires the other. -/
def stackedFlag : Flag := plainFlag "top" [⟨"base", 1⟩, ⟨"middle", 1⟩]

/-- The flags that `stackedFlag` requires, and an outside store that does not know anybody. -/
def stackedEvaluator : Evaluator where
  store := .ofData [("base", plainFlag "base" []), ("middle", plainFlag "middle" [⟨"base", 1⟩])] []
  bigSegments := some ⟨.ofTable [] [] (.ok none), .standard⟩
  clock := ⟨0, 0⟩
  factory := none

theorem steady_stackedEvaluator :
    stackedEvaluator.Steady (.ofSettings .standard) := by
  intro b hb
  cases hb
  exact ⟨BigSegments.Source.steady_ofTable _ _ _, .start⟩

theorem evaluate_prerequisites_stackedFlag :
    stackedEvaluator.Steady (.ofSettings .standard) ∧
    ∀ p ∈ stackedFlag.prerequisites,
      stackedEvaluator.Satisfied (.single ⟨Kind.user, "a", none, false, none, [], []⟩) p := by
  refine ⟨steady_stackedEvaluator, (evaluate_prerequisites stackedEvaluator (.ofSettings .standard)
    steady_stackedEvaluator stackedFlag _).1 ?_⟩
  exact trivial

end FeatureFlags.Evaluator

/-
  LEVELS OF THE EVALUATOR — its two recursions, one level at a time.

  1. **A level of segments** (`segmentLevel`) decides one membership and leaves the memberships that
     this one depends on to `nested`.  **A level of flags** (`flagLevel`) does the same with a flag
     and its prerequisites.  Neither has a budget or a measure: what stops them are the tests that
     the levels themselves make on the keys on the way down.
  2. **Equations** — `inSegment` and `check` satisfy the equation of their level (`inSegment_eq`,
     `check_eq`).
  3. **Induction** — what goes through one level of segments holds of every membership
     (`inSegment_induction`).
-/
import FeatureFlags.Proofs.Evaluation.Run

namespace FeatureFlags.Evaluator

variable (e : Evaluator) (context : Context)

/-! ## Segments -/

/-- One level of segments: a membership, given how the memberships it depends on are decided.
    `met` holds the keys of the segments on the way down. -/
def segmentLevel (nested : List String → String → Evaluation Bool) (met : List String)
    (name : String) : Evaluation Bool :=
  match e.store.segment? name with
  | none => pure false
  | some s =>
    if s.key ∈ met then Evaluation.stop .segmentCycle
    else do
      match ← e.memberBeforeRules? context s with
      | some member => pure member
      | none => s.rules.anyM (segmentRuleMatches context (nested (s.key :: met)) s)

/-- A segment is its level, with itself as the recursive call: the termination proof does not
    show. -/
theorem inSegment_eq (met : List String) (name : String) :
    e.inSegment context met name = e.segmentLevel context (e.inSegment context) met name := by
  rw [inSegment]
  split
  · next h => rw [segmentLevel, h]
  · next s h =>
    simp only [segmentLevel, h]
    by_cases hmet : s.key ∈ met
    · exact (dif_pos hmet).trans (if_pos hmet).symm
    · exact (dif_neg hmet).trans (if_neg hmet).symm

/-- **Induction over memberships**: a membership may rely on those below it.  There the segment's
    key is met, and so ever fewer keys are left. -/
theorem inSegment_induction {motive : List String → String → Prop}
    (level : ∀ met name,
      (∀ s, e.store.segment? name = some s → s.key ∉ met → ∀ name', motive (s.key :: met) name') →
      motive met name) (met : List String) (name : String) : motive met name := by
  generalize hn : (e.store.unmet met).length = n
  induction n using Nat.strongRecOn generalizing met name with
  | ind n ih =>
    subst hn
    refine level met name fun s hs hmet name' => ?_
    exact ih _ (Store.length_unmet_lt hs hmet) (s.key :: met) name' rfl

/-! ## Flags -/

/-- One level of flags: a flag, given how its prerequisites are evaluated and memberships decided.
    `met` holds the keys of the flags on the way down. -/
def flagLevel (nested : List String → Flag → Evaluation (Detail Json))
    (isMember : String → Evaluation Bool) (met : List String) (f : Flag) :
    Evaluation (Detail Json) :=
  if !f.on then f.serveOff .off
  else if maxDepth ≤ met.length then Evaluation.stop .prerequisiteDepth
  else do
    match ← e.firstUnmet? context (nested (f.key :: met)) (f.key :: met) f f.prerequisites with
    | some key => f.serveOff (.prerequisiteFailed key)
    | none => serveOn context isMember f

/-- The budget of `check` is what the flags on the way down leave of `maxDepth`. -/
theorem check_eq (met : List String) (f : Flag) :
    e.check context (maxDepth - met.length) met f
      = e.flagLevel context (fun met f => e.check context (maxDepth - met.length) met f)
          (e.inSegment context []) met f := by
  rw [flagLevel]
  cases hdepth : maxDepth - met.length with
  | zero =>
    have hle : maxDepth ≤ met.length := by omega
    rw [check, if_pos hle]
  | succ depth =>
    have hlt : ¬ maxDepth ≤ met.length := by omega
    have hrest : maxDepth - (f.key :: met).length = depth := by rw [List.length_cons]; omega
    simp only [hlt, hrest, ↓reduceIte]
    exact check.eq_def ..

/-- A flag that is off serves its off variation, wherever it stands. -/
theorem check_of_off (depth : Nat) (met : List String) {f : Flag} (hoff : f.on = false) :
    e.check context depth met f = f.serveOff .off := by
  rw [check.eq_def]
  simp only [hoff, Bool.not_false, ↓reduceIte]

/-! ## What a result has gone through -/

variable {e context}

/-- **A prerequisite that was gone through** is a flag of the store, and gave a detail by which it
    was met or not. -/
theorem firstUnmet?_cons_eq_ok {nested : Flag → Evaluation (Detail Json)} {met : List String}
    {f : Flag} {p : Prerequisite} {rest : List Prerequisite} {s t : Evaluation.State}
    {unmet : Option String}
    (h : (e.firstUnmet? context nested met f (p :: rest)).runFrom s = (.ok unmet, t)) :
    ∃ q d u v, e.store.flag? p.key = some q ∧ (nested q).runFrom s = (.ok d, u) ∧
      (e.notePrerequisite context f q d).runFrom u = (.ok (), v) ∧
      ((Prerequisite.metBy p q d = true ∧
          (e.firstUnmet? context nested met f rest).runFrom v = (.ok unmet, t)) ∨
        (Prerequisite.metBy p q d = false ∧ unmet = some p.key)) := by
  rw [firstUnmet?] at h
  -- a cycle or a missing flag would have ended the run with a fault
  by_cases hkey : p.key ∈ met
  · rw [if_pos hkey] at h
    cases h
  · rw [if_neg hkey] at h
    cases hq : e.store.flag? p.key with
    | none =>
      rw [hq] at h
      cases h
    | some q =>
      rw [hq] at h
      obtain ⟨d, u, hnested, h⟩ := Evaluation.runFrom_bind_eq_ok.1 h
      obtain ⟨_, v, hnote, h⟩ := Evaluation.runFrom_bind_eq_ok.1 h
      refine ⟨q, d, u, v, rfl, hnested, hnote, ?_⟩
      cases hmet : Prerequisite.metBy p q d with
      | true =>
        rw [hmet] at h
        exact .inl ⟨rfl, h⟩
      | false =>
        rw [hmet] at h
        cases h
        exact .inr ⟨rfl, rfl⟩

/-- **A flag that gave a detail** was off, or its prerequisites were gone through first. -/
theorem check_eq_ok {depth : Nat} {met : List String} {f : Flag} {s t : Evaluation.State}
    {d : Detail Json} (h : (e.check context depth met f).runFrom s = (.ok d, t)) :
    (f.on = false ∧ (f.serveOff .off).runFrom s = (.ok d, t)) ∨
    (f.on = true ∧ ∃ rest unmet u, depth = rest + 1 ∧
      (e.firstUnmet? context (e.check context rest (f.key :: met)) (f.key :: met) f
        f.prerequisites).runFrom s = (.ok unmet, u) ∧
      match unmet with
      | some key => (f.serveOff (.prerequisiteFailed key)).runFrom u = (.ok d, t)
      | none => (serveOn context (e.inSegment context []) f).runFrom u = (.ok d, t)) := by
  cases hon : f.on with
  | false =>
    rw [check.eq_def] at h
    simp only [hon, Bool.not_false, ↓reduceIte] at h
    exact .inl ⟨rfl, h⟩
  | true =>
    rw [check.eq_def] at h
    simp only [hon, Bool.not_true, Bool.false_eq_true, ↓reduceIte] at h
    cases depth with
    -- a flag that is on needs a level more
    | zero => cases h
    | succ rest =>
      obtain ⟨unmet, u, hunmet, hserve⟩ := Evaluation.runFrom_bind_eq_ok.1 h
      refine .inr ⟨rfl, rest, unmet, u, rfl, hunmet, ?_⟩
      cases unmet with
      | some key => exact hserve
      | none => exact hserve

variable {cache : BigSegments.Cache} {f : Flag} {t : Evaluation.State}

/-- The outcome of an evaluation that ended without fault. -/
theorem detail_evaluate_of_ok {d : Detail Json}
    (h : (e.check context maxDepth [] f).runFrom (.start cache) = (.ok d, t)) :
    (e.evaluate cache f context).detail = ⟨d.value, d.index, ⟨d.reason.cause, t.status⟩⟩ := by
  rw [evaluate, h]
  rfl

/-- The outcome of an evaluation that ended with a fault. -/
theorem detail_evaluate_of_error {fault : Fault}
    (h : (e.check context maxDepth [] f).runFrom (.start cache) = (.error fault, t)) :
    (e.evaluate cache f context).detail = ⟨none, none, ⟨.error fault, t.status⟩⟩ := by
  rw [evaluate, h]
  rfl

end FeatureFlags.Evaluator

/-
  EXPERIMENTS — when the reason of an evaluation says that it belongs to one.

  1. **Choice (`Rollout.Chooses`)** — at a position, a rollout chooses the first variation whose
     share, added to the shares before it, reaches beyond; what the shares leave over goes to the
     last one.
  2. **Enrolment (`Serving.Enrolls`)** — a serving without a fixed variation spreads contexts for an
     experiment, has their kind, and chooses a variation that is not left out of the experiment.
  3. **Decision** — only one serving decides (`Decides.unique`), so the reason of an evaluation is
     in an experiment if and only if the serving that decided enrolls the context with the index
     that was given (`explains_of_check`).
  4. **Evaluations** — so it is for evaluations of flags (`explains_evaluate`), and for those of the
     prerequisites that they go through (`explains_of_mem_completionsOf`).
-/
import FeatureFlags.Proofs.Evaluation.Visits

namespace FeatureFlags

open Evaluation (State)

/-! ## Choice -/

namespace Rollout

/-- Shares, added one after the other. -/
def sumFrom (sum : Float) (variations : List WeightedVariation) : Float :=
  variations.foldl (fun sum w => sum + share w.weight) sum

/-- No variation of the list reaches beyond the position. -/
def Short (position sum : Float) (variations : List WeightedVariation) : Prop :=
  ∀ part, part <+: variations → part ≠ [] → ¬ position < sumFrom sum part

/-- **`r.Chooses position w`** — the shares before the variation do not reach beyond the position;
    with its own they do, or else it is the last one. -/
def Chooses (r : Rollout) (position : Float) (w : WeightedVariation) : Prop :=
  ∃ before after, r.variations = before ++ w :: after ∧ Short position 0.0 before ∧
    (position < sumFrom 0.0 (before ++ [w]) ∨ after = [])

variable {position sum : Float} {w : WeightedVariation} {rest : List WeightedVariation}

/-- The weights fall short of the place one by one. -/
theorem short_cons_iff : Short position sum (w :: rest) ↔
    ¬ position < sum + share w.weight ∧ Short position (sum + share w.weight) rest := by
  refine ⟨fun h => ⟨h [w] (List.prefix_append [w] rest) (List.cons_ne_nil _ _),
    fun part hpart hne => ?_⟩,
    fun ⟨hfirst, hrest⟩ part hpart hne => ?_⟩
  · exact h (w :: part) ((List.prefix_cons_inj w).2 hpart) (List.cons_ne_nil _ _)
  · obtain rfl | ⟨others, rfl, hothers⟩ := List.prefix_cons_iff.1 hpart
    · exact absurd rfl hne
    · cases others with
      | nil => exact hfirst
      | cons v vs => exact hrest (v :: vs) hothers (List.cons_ne_nil _ _)

theorem short_nil : Short position sum [] :=
  fun _ hpart hne => absurd (List.prefix_nil.1 hpart) hne

/-- The search for a variation that reaches beyond a position. -/
theorem reached?_eq_none_iff {variations : List WeightedVariation} :
    reached? position sum variations = none ↔ Short position sum variations := by
  induction variations generalizing sum with
  | nil => exact ⟨fun _ => short_nil, fun _ => rfl⟩
  | cons w rest ih =>
    rw [reached?, short_cons_iff, ← ih]
    split
    · next hreached => exact ⟨fun h => absurd h (Option.some_ne_none w),
        fun h => absurd hreached h.1⟩
    · next hreached => exact ⟨fun h => ⟨hreached, h⟩, fun h => h.2⟩

/-- A variation is reached where the weights before it fall short of the place and its own does not,
    by induction on the list. -/
theorem reached?_eq_some_iff : ∀ {variations : List WeightedVariation} {sum : Float},
    reached? position sum variations = some w ↔ ∃ before after, variations = before ++ w :: after ∧
      Short position sum before ∧ position < sumFrom sum (before ++ [w])
  | [], _ => by simp [reached?]
  | v :: rest, sum => by
    rw [reached?]
    split
    · next hreached =>
      refine ⟨fun h => ?_, ?_⟩
      · cases h
        exact ⟨[], rest, rfl, short_nil, hreached⟩
      · rintro ⟨before, after, hsplit, hshort, -⟩
        cases before with
        | nil =>
          cases hsplit
          rfl
        | cons u us =>
          cases hsplit
          exact absurd hreached (short_cons_iff.1 hshort).1
    · next hreached =>
      rw [reached?_eq_some_iff]
      constructor
      · rintro ⟨before, after, rfl, hshort, hlt⟩
        exact ⟨v :: before, after, rfl, short_cons_iff.2 ⟨hreached, hshort⟩, hlt⟩
      · rintro ⟨before, after, hsplit, hshort, hlt⟩
        cases before with
        | nil =>
          cases hsplit
          exact absurd hlt hreached
        | cons u us =>
          cases hsplit
          exact ⟨us, after, rfl, (short_cons_iff.1 hshort).2, hlt⟩

/-- **The variation at a position is the one that the rollout chooses.** -/
theorem variationAt?_eq_some_iff {r : Rollout} :
    r.variationAt? position = some w ↔ r.Chooses position w := by
  rw [variationAt?, Option.or_eq_some_iff, reached?_eq_some_iff]
  constructor
  · rintro (⟨before, after, hsplit, hshort, hlt⟩ | ⟨hnone, hlast⟩)
    · exact ⟨before, after, hsplit, hshort, .inl hlt⟩
    · obtain ⟨before, hsplit⟩ := List.getLast?_eq_some_iff.1 hlast
      have hshort := reached?_eq_none_iff.1 hnone
      rw [hsplit] at hshort
      -- what no part of the whole list does, no part of a prefix does
      exact ⟨before, [], hsplit,
        fun part hpart => hshort part (hpart.trans (List.prefix_append _ _)), .inr rfl⟩
  · rintro ⟨before, after, hsplit, hshort, hlt | rfl⟩
    · exact .inl ⟨before, after, hsplit, hshort, hlt⟩
    · by_cases hlt : position < sumFrom 0.0 (before ++ [w])
      · exact .inl ⟨before, [], hsplit, hshort, hlt⟩
      · refine .inr ⟨reached?_eq_none_iff.2 ?_, List.getLast?_eq_some_iff.2 ⟨before, hsplit⟩⟩
        rw [hsplit]
        intro part hpart hne
        rcases List.prefix_concat_iff.1 hpart with rfl | hpart
        · exact hlt
        · exact hshort part hpart hne

/-! ## Enrolment -/

/-- **`r.Enrolls f context index`** — the rollout gives the context this index as part of an
    experiment: it is one, the context has the kind that it spreads (the user, if it names none),
    and the variation that it chooses at the place of the context is tracked. -/
structure Enrolls (r : Rollout) (f : Flag) (context : Context) (index : VariationIndex) : Prop where
  experiment : r.isExperiment = true
  kind : (context.ofKind? (r.contextKind.getD Kind.user)).isSome = true
  chosen : ∃ bucket w, (r.bucketing f).bucket context = .ok bucket ∧ r.Chooses bucket.position w ∧
    w.untracked = false ∧ w.variation = index

end Rollout

theorem Bucketing.hasKind_of_bucket {b : Bucketing} {context : Context} {bucket : Bucket}
    (h : b.bucket context = .ok bucket) : bucket.hasKind = (context.ofKind? b.kind).isSome := by
  rw [(Bucketing.bucket_eq_ok_iff.1 h).2]

namespace Serving

/-- A serving enrolls a context with an index: its rollout does, and it has no fixed variation. -/
def Enrolls (s : Serving) (f : Flag) (context : Context) (index : VariationIndex) : Prop :=
  s.variation = none ∧ ∃ r, s.rollout = some r ∧ r.Enrolls f context index

/-- **What is selected is in an experiment if and only if the serving enrolls the context with
    it.** -/
theorem inExperiment_iff_enrolls {s : Serving} {f : Flag} {context : Context}
    {selection : Selection} (h : s.select f context = .ok selection) :
    selection.inExperiment = true ↔ s.Enrolls f context selection.index := by
  -- a variation of its own is no experiment; in a rollout, both sides speak of the same place and
  -- the same variation
  rcases select_eq_ok_iff.1 h with ⟨index, hv, rfl⟩ | ⟨hv, r, bucket, w, hr, hbucket, hw, rfl⟩
  · exact ⟨nofun, fun henrolls => nomatch hv.symm.trans henrolls.1⟩
  · have hkind : bucket.hasKind = (context.ofKind? (r.contextKind.getD Kind.user)).isSome :=
      Bucketing.hasKind_of_bucket hbucket
    simp only [Bool.and_eq_true, Bool.not_eq_true', hkind]
    constructor
    · rintro ⟨⟨hexperiment, hhas⟩, htracked⟩
      exact ⟨hv, r, hr, hexperiment, hhas, bucket, w, hbucket,
        Rollout.variationAt?_eq_some_iff.1 hw, htracked, rfl⟩
    · rintro ⟨-, r', hr', hexperiment, hhas, bucket', w', hbucket', hw', htracked, -⟩
      cases hr.symm.trans hr'
      cases hbucket.symm.trans hbucket'
      cases hw.symm.trans (Rollout.variationAt?_eq_some_iff.2 hw')
      exact ⟨⟨hexperiment, hhas⟩, htracked⟩

end Serving

/-! ## Decision -/

/-- The causes that name what decided: a rule or the fallthrough. -/
def Reason.Cause.NamesServing : Reason.Cause → Prop
  | .ruleMatch .. | .fallthrough _ => True
  | .off | .targetMatch | .prerequisiteFailed _ | .error _ => False

theorem Reason.inExperiment_of_not_namesServing {r : Reason} (h : ¬ r.cause.NamesServing) :
    r.inExperiment = false := by
  obtain ⟨cause, status⟩ := r
  cases cause with
  | ruleMatch => exact absurd trivial h
  | fallthrough => exact absurd trivial h
  | _ => rfl

namespace Evaluator

variable {e : Evaluator} {context : Context} {f : Flag} {s t : State} {d : Detail Json}

/-- A rule answers in one way. -/
theorem RuleAnswers.unique {r : FlagRule} {a b : Bool} (ha : e.RuleAnswers context s r a)
    (hb : e.RuleAnswers context s r b) : a = b :=
  Except.ok.inj ((ha s (.refl s)).symm.trans (hb s (.refl s)))

/-- Of the rules there is one that matches first: of two splits, the shorter one would have a rule
    that matches among those that do not match of the longer one. -/
theorem eq_of_first_match {r r' : FlagRule} {after after' : List FlagRule} :
    ∀ {before before' : List FlagRule}, before ++ r :: after = before' ++ r' :: after' →
      (∀ q ∈ before, e.RuleAnswers context s q false) → e.RuleAnswers context s r true →
      (∀ q ∈ before', e.RuleAnswers context s q false) → e.RuleAnswers context s r' true →
      before = before' ∧ r = r'
  | [], [], h, _, _, _, _ => by
    cases h
    exact ⟨rfl, rfl⟩
  | [], q :: before', h, _, hr, hbefore', _ => by
    cases h
    exact nomatch hr.unique (hbefore' r (List.mem_cons_self ..))
  | q :: before, [], h, hbefore, _, _, hr' => by
    cases h
    exact nomatch hr'.unique (hbefore r' (List.mem_cons_self ..))
  | q :: before, q' :: before', h, hbefore, hr, hbefore', hr' => by
    obtain ⟨rfl, hrest⟩ := List.cons.inj h
    obtain ⟨rfl, rfl⟩ :=
      eq_of_first_match hrest (fun p hp => hbefore p (List.mem_cons_of_mem _ hp)) hr
      (fun p hp => hbefore' p (List.mem_cons_of_mem _ hp)) hr'
    exact ⟨rfl, rfl⟩

/-- **Only one serving decides.** -/
theorem Decides.unique {serving serving' : Serving} {cause cause' : Bool → Reason.Cause}
    (h : e.Decides context f s serving cause) (h' : e.Decides context f s serving' cause') :
    serving = serving' ∧ cause = cause' := by
  cases h with
  | @rule before r after _ hrules hbefore hr =>
    -- two rules that match first are the same, and a rule that matches keeps the fallthrough out
    cases h' with
    | @rule before' r' after' _ hrules' hbefore' hr' =>
      obtain ⟨rfl, rfl⟩ := eq_of_first_match (hrules.symm.trans hrules') hbefore hr hbefore' hr'
      exact ⟨rfl, rfl⟩
    | fallthrough _ hnone =>
      have hmem : r ∈ f.rules := by
        rw [hrules]; exact List.mem_append_right _ (List.mem_cons_self ..)
      exact nomatch hr.unique (hnone r hmem)
  | fallthrough _ hnone =>
    cases h' with
    | @rule before' r' after' _ hrules' _ hr' =>
      have hmem : r' ∈ f.rules := by
        rw [hrules']; exact List.mem_append_right _ (List.mem_cons_self ..)
      exact nomatch hr'.unique (hnone r' hmem)
    | fallthrough => exact ⟨rfl, rfl⟩

/-- **The evaluation belongs to an experiment**, as far as state `s` remembers: the serving that
    decided is the one that the reason names, and it enrolls the context with the index of the
    detail. -/
def FromExperiment (e : Evaluator) (context : Context) (f : Flag) (s : State)
    (d : Detail Json) : Prop :=
  ∃ serving cause inExperiment index, e.Decides context f s serving cause ∧
    d.reason.cause = cause inExperiment ∧ d.index = some index ∧ serving.Enrolls f context index

/-- **What the reason of an evaluation says about experiments and rules.** -/
structure Explains (e : Evaluator) (context : Context) (f : Flag) (s : State)
    (d : Detail Json) : Prop where
  inExperiment : d.reason.inExperiment = true ↔ e.FromExperiment context f s d
  /-- The rule at the index that is named is the first one that matches.  (A number of 64 bits names
      it.) -/
  matched : ∀ i id inExperiment, d.reason.cause = .ruleMatch i id inExperiment →
    f.rules.length ≤ UInt64.size →
    ∃ before r after, f.rules = before ++ r :: after ∧ i.toNat = before.length ∧ r.id = id ∧
      (∀ q ∈ before, e.RuleAnswers context s q false) ∧ e.RuleAnswers context s r true

/-- What decides is a rule or the fallthrough. -/
theorem Decides.namesServing {serving : Serving} {cause : Bool → Reason.Cause}
    (h : e.Decides context f s serving cause) (inExperiment : Bool) :
    (cause inExperiment).NamesServing := by
  cases h <;> exact trivial

/-- Whether a cause is in an experiment is said by the serving that decided. -/
theorem Decides.inExperiment_cause {serving : Serving} {cause : Bool → Reason.Cause}
    (h : e.Decides context f s serving cause) (inExperiment : Bool)
    (status : Option BigSegmentsStatus) :
    (⟨cause inExperiment, status⟩ : Reason).inExperiment = inExperiment := by
  cases h <;> rfl

namespace Explains

/-- Only the cause and the index matter. -/
theorem congr {d' : Detail Json} (h : e.Explains context f s d)
    (hcause : d'.reason.cause = d.reason.cause) (hindex : d'.index = d.index) :
    e.Explains context f s d' := by
  obtain ⟨hin, hmatched⟩ := h
  refine ⟨?_, by rwa [hcause]⟩
  simp only [Reason.inExperiment, FromExperiment, hcause, hindex] at hin ⊢
  exact hin

/-- Other causes are in no experiment. -/
theorem of_not_namesServing (h : ¬ d.reason.cause.NamesServing) : e.Explains context f s d where
  inExperiment := by
    rw [Reason.inExperiment_of_not_namesServing h]
    refine ⟨nofun, fun ⟨serving, cause, inExperiment, index, hdecides, hcause, _⟩ => ?_⟩
    exact absurd (hcause ▸ hdecides.namesServing inExperiment) h
  matched i id inExperiment hcause := by
    rw [hcause] at h
    exact absurd trivial h

/-- A reason that names no serving is no part of an experiment. -/
theorem of_eq_ofCause {cause : Reason.Cause} (hreason : d.reason = .ofCause cause)
    (h : ¬ cause.NamesServing) : e.Explains context f s d :=
  of_not_namesServing (by rw [hreason]; exact h)

/-- The serving that decides explains what it selects. -/
theorem of_decides {serving : Serving} {cause : Bool → Reason.Cause} {selection : Selection}
    (h : e.Decides context f s serving cause) (hselect : serving.select f context = .ok selection)
    (hcause : d.reason.cause = cause selection.inExperiment)
    (hindex : d.index = some selection.index) :
    e.Explains context f s d where
  inExperiment := by
    have hin : d.reason.inExperiment = selection.inExperiment := by
      rw [← h.inExperiment_cause selection.inExperiment d.reason.bigSegments, ← hcause]
    rw [hin, Serving.inExperiment_iff_enrolls hselect]
    constructor
    · intro henrolls
      exact ⟨serving, cause, selection.inExperiment, selection.index, h, hcause, hindex, henrolls⟩
    · rintro ⟨serving', cause', -, index, hdecides, -, hindex', henrolls⟩
      -- whichever serving is said to decide, it is the one that was asked to select
      obtain ⟨rfl, rfl⟩ := h.unique hdecides
      obtain rfl := Option.some.inj (hindex.symm.trans hindex')
      exact henrolls
  matched i id inExperiment hi hshort := by
    rw [hcause] at hi
    cases h with
    | @rule before r after _ hrules hbefore hr =>
      cases hi
      refine ⟨before, r, after, hrules, ?_, rfl, hbefore, hr⟩
      have hlength : f.rules.length = before.length + (after.length + 1) := by
        rw [hrules, List.length_append, List.length_cons]
      have hlt : before.length < UInt64.size := by omega
      exact UInt64.toNat_ofNat_of_lt' hlt
    | fallthrough => cases hi

end Explains

/-! ## Evaluations -/

/-- **What a check gives is explained** by the state in which it ends. -/
theorem explains_of_check {depth : Nat} {met : List String}
    (h : (e.check context depth met f).runFrom s = (.ok d, t)) : e.Explains context f t d := by
  rcases check_eq_ok h with ⟨-, hserve⟩ | ⟨-, rest, unmet, u, -, -, hserve⟩
  · obtain ⟨-, hreason, -⟩ := Flag.serveOff_eq_ok hserve
    exact .of_eq_ofCause hreason id
  · cases unmet with
    | some key =>
      obtain ⟨-, hreason, -⟩ := Flag.serveOff_eq_ok hserve
      exact .of_eq_ofCause hreason id
    | none =>
      rcases decides_of_serveOn hserve with ⟨index, -, hreason, -⟩ |
        ⟨serving, cause, selection, hdecides, hselect, hreason, hserves⟩
      · exact .of_eq_ofCause hreason id
      · exact .of_decides hdecides hselect (by rw [hreason]; rfl) hserves.1

/-- **What an evaluation gives is explained** by its final state. -/
theorem explains_evaluate (e : Evaluator) (cache : BigSegments.Cache) (f : Flag)
    (context : Context) :
    e.Explains context f (e.finalState cache f context) (e.evaluate cache f context).detail := by
  rcases hrun : (e.check context maxDepth [] f).runFrom (.start cache) with ⟨fault | d, t⟩
  · rw [detail_evaluate_of_error hrun]
    exact .of_not_namesServing id
  · have hstate : e.finalState cache f context = t := congrArg Prod.snd hrun
    rw [detail_evaluate_of_ok hrun, hstate]
    exact (explains_of_check hrun).congr rfl rfl

/-- **What is reported of the prerequisites is explained**, each by the state in which its
    evaluation ended. -/
theorem explains_of_mem_completionsOf {c : Completion} {depth : Nat} {met : List String}
    (h : c ∈ completionsOf (e.visits context depth met f s)) : ∃ depth' met' t u,
      ((e.telling none).check context depth' met' c.flag).runFrom t = (.ok c.detail, u) ∧
      (e.telling none).Explains context c.flag u c.detail := by
  obtain ⟨v, hwithin, -, hflag, hresult⟩ := exists_within_of_mem_completionsOf h
  obtain ⟨depth', met', t, hgives, -⟩ := goesThrough_of_within hwithin rfl
  rw [hresult, hflag] at hgives
  rcases hrun : ((e.telling none).check context depth' met' c.flag).runFrom t with ⟨result, u⟩
  rw [hrun] at hgives
  subst hgives
  exact ⟨depth', met', t, u, hrun, explains_of_check hrun⟩

end Evaluator

end FeatureFlags

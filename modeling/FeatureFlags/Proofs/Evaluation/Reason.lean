/-
  REASONS ARE TRUE — what a reported reason says about the evaluation that reports it.

  1. **Serving** — `d.Serves f index`: the detail carries an index of the flag and the value there.
  2. **Rules** — `e.RuleAnswers context s r answer`: in every state that remembers what `s` does,
     the rule gives that answer.  Rules recall (`Recalls`), so the answers that an evaluation got on
     its way are the answers that its last state gives.
  3. **Justification** — `e.Decides context f s serving cause`: the rule or the fallthrough that
     decides; `e.Justifies context f s index cause`: why a flag that is on serves an index, with one
     constructor for each cause.
  4. **Reports** — `e.Reports context f s d`: what evaluations of a flag end with, faults aside.
  5. **Main result** (`evaluate_reason`) — a detail is a fault, or serves a variation, or is empty
     for want of an off variation; and what it gives as its reason is so.
-/
import FeatureFlags.Proofs.Evaluation.Recall
import FeatureFlags.Proofs.Evaluation.Selection

namespace FeatureFlags

open Evaluation (State)

/-! ## Serving -/

/-- A detail that serves a variation of a flag. -/
def Detail.Serves (d : Detail Json) (f : Flag) (index : VariationIndex) : Prop :=
  d.index = some index ∧
    ∃ h : index.toNat < f.variations.length, d.value = some (f.variations[index.toNat])

/-- A detail without value. -/
def Detail.IsEmpty (d : Detail Json) : Prop := d.value = none ∧ d.index = none

/-- The causes of flags that are on and have what they require. -/
def Reason.Cause.MeansOn : Reason.Cause → Prop
  | .targetMatch | .ruleMatch .. | .fallthrough _ => True
  | .off | .prerequisiteFailed _ | .error _ => False

theorem Reason.isError_eq_true_iff {r : Reason} :
    r.isError = true ↔ ∃ fault, r.cause = .error fault := by
  obtain ⟨cause, status⟩ := r
  cases cause <;> simp [isError, fault?]

namespace Flag

variable {f : Flag} {cause : Reason.Cause} {s t : State} {d : Detail Json}

/-- A variation is served with the cause it is served for, and nothing else changes. -/
theorem serve_eq_ok {index : VariationIndex}
    (h : (f.serve index cause).runFrom s = (.ok d, t)) :
    t = s ∧ d.reason = .ofCause cause ∧ d.Serves f index := by
  rw [serve] at h
  cases hvalue : f.variation? index with
  | none => rw [hvalue] at h; cases h
  | some value =>
    rw [hvalue] at h
    cases h
    obtain ⟨hlt, hget⟩ := List.getElem?_eq_some_iff.1 hvalue
    exact ⟨rfl, rfl, rfl, hlt, congrArg some hget.symm⟩

/-- The off variation is served: it is in range, or there is none. -/
def ServesOff (f : Flag) (d : Detail Json) : Prop :=
  (∃ index, f.offVariation = some index ∧ d.Serves f index) ∨ (f.offVariation = none ∧ d.IsEmpty)

/-- The off variation is served with the cause it is served for, or nothing where the flag has
    none. -/
theorem serveOff_eq_ok (h : (f.serveOff cause).runFrom s = (.ok d, t)) :
    t = s ∧ d.reason = .ofCause cause ∧ f.ServesOff d := by
  rw [serveOff] at h
  cases hoff : f.offVariation with
  | none =>
    rw [hoff] at h
    cases h
    exact ⟨rfl, rfl, .inr ⟨hoff, rfl, rfl⟩⟩
  | some index =>
    rw [hoff] at h
    obtain ⟨hstate, hreason, hserves⟩ := serve_eq_ok h
    exact ⟨hstate, hreason, .inl ⟨index, hoff, hserves⟩⟩

/-- An off variation that is in range can be served. -/
theorem exists_serveOff (cause : Reason.Cause) (s : State)
    (h : ∀ index, f.offVariation = some index → index.toNat < f.variations.length) :
    ∃ d, (f.serveOff cause).runFrom s = (.ok d, s) ∧ d.reason = .ofCause cause := by
  rw [serveOff]
  cases hoff : f.offVariation with
  | none => exact ⟨_, rfl, rfl⟩
  | some index =>
    have hlt : index.toNat < f.variations.length := h index hoff
    have hvalue : f.variation? index = some f.variations[index.toNat] :=
      List.getElem?_eq_getElem hlt
    simp only [serve, hvalue]
    exact ⟨_, rfl, rfl⟩

end Flag

/-! ## Rules -/

namespace Evaluator

/-- In every state that remembers what `s` does, the rule gives the answer. -/
def RuleAnswers (e : Evaluator) (context : Context) (s : State) (r : FlagRule) (answer : Bool) :
    Prop :=
  ∀ t : State, t.Remembers s →
    ((ruleMatches context (e.inSegment context []) r).runFrom t).1 = .ok answer

variable {e : Evaluator} {context : Context} {s t : State}

/-- What a rule answered from a state, it answers from every state that remembers as much. -/
theorem RuleAnswers.mono {r : FlagRule} {answer : Bool} (h : e.RuleAnswers context s r answer)
    (hst : t.Remembers s) : e.RuleAnswers context t r answer :=
  fun u hut => h u (hut.trans hst)

/-- What a rule answered on the way is what it answers from there on. -/
theorem ruleAnswers_of_run {r : FlagRule} {answer : Bool}
    (h : (ruleMatches context (e.inSegment context []) r).runFrom s = (.ok answer, t)) :
    t.Remembers s ∧ e.RuleAnswers context t r answer := by
  obtain ⟨hkeep, hagain⟩ := Evaluation.recalls_ruleMatches e context r s
  rw [h] at hkeep hagain
  exact ⟨hkeep, fun u hu => (hagain u hu).1⟩

/-- The search for a rule: the rules before the one that is found do not match, and without one none
    does. -/
theorem firstRule?_eq_ok {found : Option (FlagRule × Nat)} :
    ∀ {rules : List (FlagRule × Nat)} {s : State},
      (firstRule? context (e.inSegment context []) rules).runFrom s = (.ok found, t) →
      t.Remembers s ∧
      match found with
      | none => ∀ r ∈ rules, e.RuleAnswers context t r.1 false
      | some r => ∃ before after, rules = before ++ r :: after ∧
          (∀ q ∈ before, e.RuleAnswers context t q.1 false) ∧ e.RuleAnswers context t r.1 true
  | [], s, h => by
    cases h
    exact ⟨State.Remembers.refl _, fun _ hr => absurd hr List.not_mem_nil⟩
  | (r, i) :: rest, s, h => by
    obtain ⟨holds, u, hrule, hrest⟩ := Evaluation.runFrom_bind_eq_ok.1 h
    obtain ⟨hkeep, hanswer⟩ := ruleAnswers_of_run hrule
    cases holds with
    | true =>
      cases hrest
      exact ⟨hkeep, [], rest, rfl, fun _ hq => absurd hq List.not_mem_nil, hanswer⟩
    | false =>
      -- the answer rests on memberships that the rest of the run still remembers
      obtain ⟨hkeep', hfound⟩ := firstRule?_eq_ok hrest
      refine ⟨hkeep'.trans hkeep, ?_⟩
      cases found with
      | none =>
        rintro q (_ | ⟨_, hq⟩)
        · exact hanswer.mono hkeep'
        · exact hfound q hq
      | some q =>
        obtain ⟨before, after, hsplit, hbefore, hq⟩ := hfound
        refine ⟨(r, i) :: before, after, by rw [hsplit]; rfl, ?_, hq⟩
        rintro p (_ | ⟨_, hp⟩)
        · exact hanswer.mono hkeep'
        · exact hbefore p hp

/-- A rule that stands in a numbered list stands at its number. -/
theorem split_of_zipIdx {rules : List FlagRule} {before after : List (FlagRule × Nat)}
    {r : FlagRule} {i : Nat} (h : rules.zipIdx = before ++ (r, i) :: after) :
    rules = before.map (·.1) ++ r :: after.map (·.1) ∧ i = (before.map (·.1)).length := by
  have hrules := congrArg (List.map (·.1)) h
  rw [List.zipIdx_map_fst] at hrules
  have hnumber := congrArg (·[before.length]?) h
  simp only [List.getElem?_zipIdx, List.getElem?_append_right (Nat.le_refl _), Nat.sub_self,
    List.getElem?_cons_zero, Option.map_eq_some_iff, Prod.mk.injEq] at hnumber
  obtain ⟨_, -, -, hi⟩ := hnumber
  refine ⟨by simpa using hrules, ?_⟩
  rw [List.length_map]
  omega

/-! ## Justification -/

/-- **Why a flag that is on serves an index**, as far as state `s` remembers. -/
inductive Justifies (e : Evaluator) (context : Context) (f : Flag) (s : State) :
    VariationIndex → Reason.Cause → Prop
  /-- The first entry that names the context gives the index. -/
  | target {before : List Target} {t : Target} {after : List Target} :
    f.entries = before ++ t :: after → (∀ u ∈ before, ¬ f.Names context u) → f.Names context t →
    Justifies e context f s t.variation .targetMatch
  /-- No entry names the context, and the first rule that matches offers the index. -/
  | rule {before : List FlagRule} {r : FlagRule} {after : List FlagRule} {index : VariationIndex}
    (inExperiment : Bool) :
    (∀ t ∈ f.entries, ¬ f.Names context t) → f.rules = before ++ r :: after →
    (∀ q ∈ before, e.RuleAnswers context s q false) → e.RuleAnswers context s r true →
    r.serving.Offers index →
    Justifies e context f s index
      (.ruleMatch (UInt64.ofNat before.length) r.id inExperiment)
  /-- No entry names the context, no rule matches, and the fallthrough offers the index. -/
  | fallthrough {index : VariationIndex} (inExperiment : Bool) :
    (∀ t ∈ f.entries, ¬ f.Names context t) →
    (∀ r ∈ f.rules, e.RuleAnswers context s r false) → f.fallthrough.Offers index →
    Justifies e context f s index (.fallthrough inExperiment)

/-- **Which serving decides**, as far as state `s` remembers, and the cause that names it, up to
    whether the index is part of an experiment. -/
inductive Decides (e : Evaluator) (context : Context) (f : Flag) (s : State) :
    Serving → (Bool → Reason.Cause) → Prop
  /-- No entry names the context, and the rule is the first one that matches. -/
  | rule {before : List FlagRule} {r : FlagRule} {after : List FlagRule} :
    (∀ t ∈ f.entries, ¬ f.Names context t) → f.rules = before ++ r :: after →
    (∀ q ∈ before, e.RuleAnswers context s q false) → e.RuleAnswers context s r true →
    Decides e context f s r.serving (.ruleMatch (UInt64.ofNat before.length) r.id)
  /-- No entry names the context, and no rule matches. -/
  | fallthrough : (∀ t ∈ f.entries, ¬ f.Names context t) →
    (∀ r ∈ f.rules, e.RuleAnswers context s r false) →
    Decides e context f s f.fallthrough .fallthrough

/-- What the serving that decides has to offer is justified. -/
theorem Decides.justifies {f : Flag} {serving : Serving} {cause : Bool → Reason.Cause}
    (h : e.Decides context f s serving cause) {index : VariationIndex}
    (hoffers : serving.Offers index) (inExperiment : Bool) :
    e.Justifies context f s index (cause inExperiment) := by
  cases h with
  | rule hnames hrules hbefore hr => exact .rule inExperiment hnames hrules hbefore hr hoffers
  | fallthrough hnames hrules => exact .fallthrough inExperiment hnames hrules hoffers

/-- **What a flag serves once its prerequisites are met**: the index of a target, or what the
    serving that decides selects. -/
theorem decides_of_serveOn {f : Flag} {d : Detail Json}
    (h : (serveOn context (e.inSegment context []) f).runFrom s = (.ok d, t)) :
    (∃ index, f.targeted? context = some index ∧
      d.reason = .ofCause .targetMatch ∧ d.Serves f index) ∨
    ∃ serving cause selection, e.Decides context f t serving cause ∧
      serving.select f context = .ok selection ∧
      d.reason = .ofCause (cause selection.inExperiment) ∧
      d.Serves f selection.index := by
  rw [serveOn] at h
  cases htarget : f.targeted? context with
  | some index =>
    rw [htarget] at h
    obtain ⟨-, hreason, hserves⟩ := Flag.serve_eq_ok h
    exact .inl ⟨index, rfl, hreason, hserves⟩
  | none =>
    -- no rule matches, each by the memberships at the end
    rw [htarget] at h
    have hnames := Flag.targeted?_eq_none_iff.1 htarget
    obtain ⟨found, u, hfirst, hrest⟩ := Evaluation.runFrom_bind_eq_ok.1 h
    obtain ⟨-, hfound⟩ := firstRule?_eq_ok hfirst
    cases found with
    | none =>
      obtain ⟨selection, v, hselect, hserve⟩ := Evaluation.runFrom_bind_eq_ok.1 hrest
      rw [Evaluation.runFrom_ofExcept] at hselect
      obtain ⟨hselected, rfl⟩ := Prod.mk.inj hselect
      obtain ⟨rfl, hreason, hserves⟩ := Flag.serve_eq_ok hserve
      refine .inr ⟨_, _, selection, .fallthrough hnames fun r hr => ?_, hselected, hreason, hserves⟩
      -- the search goes through the rules with their numbers
      obtain ⟨i, hi⟩ := List.getElem?_of_mem hr
      exact hfound (r, i) (List.mem_of_getElem? (i := i) (by simp [hi]))
    | some rule =>
      -- the number of the rule is its place in the list
      obtain ⟨r, i⟩ := rule
      obtain ⟨before, after, hsplit, hbefore, hr⟩ := hfound
      obtain ⟨hrules, rfl⟩ := split_of_zipIdx hsplit
      obtain ⟨selection, v, hselect, hserve⟩ := Evaluation.runFrom_bind_eq_ok.1 hrest
      rw [Evaluation.runFrom_ofExcept] at hselect
      obtain ⟨hselected, rfl⟩ := Prod.mk.inj hselect
      obtain ⟨rfl, hreason, hserves⟩ := Flag.serve_eq_ok hserve
      refine .inr ⟨_, _, selection, .rule hnames hrules (fun q hq => ?_) hr,
        hselected, hreason, hserves⟩
      obtain ⟨p, hp, rfl⟩ := List.mem_map.1 hq
      exact hbefore p hp

/-- What a flag serves once its prerequisites are met is justified. -/
theorem justifies_of_serveOn {f : Flag} {d : Detail Json}
    (h : (serveOn context (e.inSegment context []) f).runFrom s = (.ok d, t)) :
    ∃ index cause, d.reason = .ofCause cause ∧ d.Serves f index ∧
      e.Justifies context f t index cause := by
  rcases decides_of_serveOn h with ⟨index, htarget, hreason, hserves⟩ |
    ⟨serving, cause, selection, hdecides, hselected, hreason, hserves⟩
  · obtain ⟨before, u, after, hsplit, hnamed, hbefore, rfl⟩ := Flag.targeted?_eq_some_iff.1 htarget
    exact ⟨_, _, hreason, hserves, .target hsplit hbefore hnamed⟩
  · exact ⟨_, _, hreason, hserves, hdecides.justifies (Serving.offers_of_select hselected) _⟩

/-- Only a flag that is on has a cause to justify. -/
theorem Justifies.meansOn {f : Flag} {index : VariationIndex} {cause : Reason.Cause}
    (h : e.Justifies context f s index cause) : cause.MeansOn := by
  cases h <;> exact trivial

/-! ## Reports -/

/-- **What a flag gives**: a flag that is off or lacks a prerequisite serves its off variation, or
    nothing if there is none, and any other serves an index for a reason. -/
inductive Reports (e : Evaluator) (context : Context) (f : Flag) (s : State) (d : Detail Json) :
    Prop
  | off : f.on = false → d.reason.cause = .off → f.ServesOff d → Reports e context f s d
  | lacks (key : String) : f.on = true → d.reason.cause = .prerequisiteFailed key → f.ServesOff d →
    Reports e context f s d
  | on {index : VariationIndex} : f.on = true → d.Serves f index →
    e.Justifies context f s index d.reason.cause → Reports e context f s d

/-- What a check tells, it has the right to tell: by the ways in which it can end. -/
theorem reports_of_check {f : Flag} {depth : Nat} {met : List String} {d : Detail Json}
    (h : (e.check context depth met f).runFrom s = (.ok d, t)) : e.Reports context f t d := by
  rcases check_eq_ok h with ⟨hoff, hserve⟩ | ⟨hon, rest, unmet, u, -, -, hserve⟩
  · obtain ⟨-, hreason, hserves⟩ := Flag.serveOff_eq_ok hserve
    exact .off hoff (congrArg Reason.cause hreason) hserves
  · cases unmet with
    | some key =>
      obtain ⟨-, hreason, hserves⟩ := Flag.serveOff_eq_ok hserve
      exact .lacks key hon (congrArg Reason.cause hreason) hserves
    | none =>
      obtain ⟨index, cause, hreason, hserves, hwhy⟩ := justifies_of_serveOn hserve
      obtain rfl : d.reason.cause = cause := congrArg Reason.cause hreason
      exact .on hon hserves hwhy

namespace Reports

variable {f : Flag} {d : Detail Json}

/-- The status of the big segments does not matter. -/
theorem withStatus (h : e.Reports context f s d) (status : Option BigSegmentsStatus) :
    e.Reports context f s ⟨d.value, d.index, ⟨d.reason.cause, status⟩⟩ := by
  cases h with
  | off hoff hcause hserves => exact .off hoff hcause hserves
  | lacks key hon hcause hserves => exact .lacks key hon hcause hserves
  | on hon hserves hwhy => exact .on hon hserves hwhy

theorem cause_ne_error (h : e.Reports context f s d) (fault : Fault) :
    d.reason.cause ≠ .error fault := by
  intro hfault
  cases h with
  | off _ hcause => rw [hfault] at hcause; cases hcause
  | lacks _ _ hcause => rw [hfault] at hcause; cases hcause
  | on _ _ hwhy =>
    have hmeans := hwhy.meansOn
    rw [hfault] at hmeans
    exact hmeans

/-- A variation is served, or a flag without off variation is off or lacks a prerequisite. -/
theorem serves_or_isEmpty (h : e.Reports context f s d) :
    (∃ index, d.Serves f index) ∨
      ((d.reason.cause = .off ∨ ∃ key, d.reason.cause = .prerequisiteFailed key) ∧
        d.IsEmpty ∧ f.offVariation = none) := by
  cases h with
  | off _ hcause hserves =>
    rcases hserves with ⟨index, -, hserves⟩ | ⟨hnone, hempty⟩
    · exact .inl ⟨index, hserves⟩
    · exact .inr ⟨.inl hcause, hempty, hnone⟩
  | lacks key _ hcause hserves =>
    rcases hserves with ⟨index, -, hserves⟩ | ⟨hnone, hempty⟩
    · exact .inl ⟨index, hserves⟩
    · exact .inr ⟨.inr ⟨key, hcause⟩, hempty, hnone⟩
  | on _ hserves _ => exact .inl ⟨_, hserves⟩

/-- What is reported to be off is off, and its off variation was in range to be served. -/
theorem of_off (h : e.Reports context f s d) (hoff : d.reason.cause = .off) :
    f.on = false ∧ ∀ index, f.offVariation = some index → index.toNat < f.variations.length := by
  cases h with
  | off hflag _ hserves =>
    refine ⟨hflag, fun index hindex => ?_⟩
    -- an off variation out of range would have been a fault
    rcases hserves with ⟨index', hindex', -, hlt, -⟩ | ⟨hnone, -⟩
    · rw [hindex] at hindex'
      cases hindex'
      exact hlt
    · rw [hindex] at hnone
      cases hnone
  | lacks key _ hcause => rw [hcause] at hoff; cases hoff
  | on _ _ hwhy =>
    have hmeans := hwhy.meansOn
    rw [hoff] at hmeans
    exact hmeans.elim

/-- A cause that means on was served by a flag that is on, and is justified. -/
theorem of_meansOn (h : e.Reports context f s d) (hmeans : d.reason.cause.MeansOn) :
    f.on = true ∧ ∃ index, d.Serves f index ∧ e.Justifies context f s index d.reason.cause := by
  cases h with
  | off _ hcause => rw [hcause] at hmeans; exact hmeans.elim
  | lacks key _ hcause => rw [hcause] at hmeans; exact hmeans.elim
  | on hon hserves hwhy => exact ⟨hon, _, hserves, hwhy⟩

end Reports

/-! ## The reported reason -/

/-- The state in which the evaluation of a flag ends. -/
def finalState (e : Evaluator) (cache : BigSegments.Cache) (f : Flag) (context : Context) : State :=
  ((e.check context maxDepth [] f).runFrom (.start cache)).2

/-- An evaluation tells of a fault and nothing else, or gives a reason that holds. -/
theorem reports_evaluate (e : Evaluator) (cache : BigSegments.Cache) (f : Flag)
    (context : Context) :
    (∃ fault, (e.evaluate cache f context).detail.reason.cause = .error fault ∧
      (e.evaluate cache f context).detail.IsEmpty) ∨
    e.Reports context f (e.finalState cache f context) (e.evaluate cache f context).detail := by
  rcases hrun : (e.check context maxDepth [] f).runFrom (.start cache) with ⟨fault | d, t⟩
  · rw [detail_evaluate_of_error hrun]
    exact .inl ⟨fault, rfl, rfl, rfl⟩
  · have hstate : e.finalState cache f context = t := congrArg Prod.snd hrun
    rw [detail_evaluate_of_ok hrun, hstate]
    exact .inr ((reports_of_check hrun).withStatus t.status)

/-- A flag that is off, with an off variation in range if any, is reported to be off. -/
theorem evaluate_of_off (e : Evaluator) (cache : BigSegments.Cache) {f : Flag} (context : Context)
    (hoff : f.on = false)
    (hrange : ∀ index, f.offVariation = some index → index.toNat < f.variations.length) :
    (e.evaluate cache f context).detail.reason.cause = .off := by
  obtain ⟨d, hserve, hreason⟩ := Flag.exists_serveOff .off (.start cache) hrange
  rw [← check_of_off e context maxDepth [] hoff] at hserve
  rw [detail_evaluate_of_ok hserve, hreason]
  rfl

/-- **Reported reasons are true.**  A detail reports a fault and is empty, or serves a variation, or
    is empty because the flag is off or lacks a prerequisite and has no off variation.  The reason
    is `off` exactly if the flag is off and its off variation, if any, is in range; and what a
    reason says of targets, rules and fallthrough of a flag that is on is so. -/
theorem evaluate_reason (e : Evaluator) (cache : BigSegments.Cache) (f : Flag)
    (context : Context) :
    let d := (e.evaluate cache f context).detail
    let s := e.finalState cache f context
    ((∃ fault, d.reason.cause = .error fault ∧ d.IsEmpty) ∨
      (∃ index, (∀ fault, d.reason.cause ≠ .error fault) ∧ d.Serves f index) ∨
      ((d.reason.cause = .off ∨ ∃ key, d.reason.cause = .prerequisiteFailed key) ∧
        d.IsEmpty ∧ f.offVariation = none)) ∧
    (d.reason.cause = .off ↔
      f.on = false ∧ ∀ index, f.offVariation = some index → index.toNat < f.variations.length) ∧
    (d.reason.cause.MeansOn →
      f.on = true ∧ ∃ index, d.Serves f index ∧
        e.Justifies context f s index d.reason.cause) := by
  intro d s
  -- an off flag says so; the other direction is told by the reason
  have hoffIf : (f.on = false ∧ ∀ index, f.offVariation = some index →
      index.toNat < f.variations.length) → d.reason.cause = .off :=
    fun h => evaluate_of_off e cache context h.1 h.2
  rcases reports_evaluate e cache f context with ⟨fault, hcause, hempty⟩ | hreports
  · have hcause : d.reason.cause = .error fault := hcause
    refine ⟨.inl ⟨fault, hcause, hempty⟩, ⟨fun hoff => ?_, hoffIf⟩, fun hmeans => ?_⟩
    · rw [hcause] at hoff
      cases hoff
    · rw [hcause] at hmeans
      exact hmeans.elim
  · refine ⟨.inr ?_, ⟨hreports.of_off, hoffIf⟩, hreports.of_meansOn⟩
    exact hreports.serves_or_isEmpty.imp
      (fun ⟨index, hserves⟩ => ⟨index, hreports.cause_ne_error, hserves⟩) id

end Evaluator

end FeatureFlags

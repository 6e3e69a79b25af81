/-
  RELATIONS THAT GO THROUGH EVALUATIONS.

  Evaluations are put together from a few steps.  A relation between evaluations that holds of these
  and goes through sequences (`Stepwise`) holds of everything that two evaluators do, as soon as it
  holds of the one step in which they consult the outside store (`Alike`).  Their stores need to
  share no more than the part that is asked for, and their contexts need to be seen alike there
  only (`SeesAlike`).

  1. **Checks** — clauses, shares and selections fail with one fault only, that of malformed data.
     So this is the one fault that a relation has to hold of.
  2. **Steps and lists** — what ends with that fault, and walks over lists.
  3. **Segments** — from the outside store up to `inSegment`, by the induction over memberships.
  4. **Rules and serving** — up to `serveOn`.
  5. **Flags** — up to `check`, by induction on the depth.  Both evaluations stand at the same
     place, or the second one has more depth and fewer keys on its way down (`Standing`): where the
     first one is stopped by that, the relation must not ask anything of the second.
-/
import FeatureFlags.Proofs.Evaluation.Level
import FeatureFlags.Proofs.Evaluation.Selection
import FeatureFlags.Proofs.Evaluation.Sight

namespace FeatureFlags

/-! ## Checks -/

/-- A result whose fault, if it is one, is that of malformed data. -/
def FailsMalformed {α : Type} (r : Except Fault α) : Prop :=
  ∀ fault, r = .error fault → fault = .malformedFlag

theorem failsMalformed_ok {α : Type} (a : α) : FailsMalformed (.ok a) := fun _ h => nomatch h

theorem failsMalformed_error {α : Type} : FailsMalformed (.error .malformedFlag : Except Fault α) :=
  fun _ h => (Except.error.inj h).symm

theorem FailsMalformed.bind {α β : Type} {r : Except Fault α} {f : α → Except Fault β}
    (hr : FailsMalformed r) (hf : ∀ a, FailsMalformed (f a)) : FailsMalformed (r >>= f) := by
  cases r with
  | ok a => exact hf a
  | error fault =>
    obtain rfl := hr fault rfl
    exact failsMalformed_error

/-- A clause fails on its attribute reference, which is malformed data. -/
theorem Clause.failsMalformed_holds (c : Clause) (context : Context) :
    FailsMalformed (c.holds context) := by
  unfold holds
  split
  · exact failsMalformed_error
  · split
    · exact failsMalformed_ok _
    · split <;> exact failsMalformed_ok _

/-- A context has no place only where the attribute to place it by is an invalid reference. -/
theorem Bucketing.failsMalformed_bucket (b : Bucketing) (context : Context) :
    FailsMalformed (b.bucket context) := by
  rw [bucket_eq]
  split
  · exact failsMalformed_ok _
  · exact failsMalformed_error

theorem Evaluator.failsMalformed_inShare (context : Context) (s : Segment) (r : SegmentRule) :
    FailsMalformed (inShare context s r) := by
  unfold inShare
  split
  · exact failsMalformed_ok _
  · exact (Bucketing.failsMalformed_bucket _ _).bind fun _ => failsMalformed_ok _

/-- Nothing is served where the rollout is empty or has no place for the context. -/
theorem Serving.failsMalformed_select (s : Serving) (f : Flag) (context : Context) :
    FailsMalformed (s.select f context) := by
  unfold select
  split
  · exact failsMalformed_ok _
  · exact failsMalformed_error
  · split
    · exact failsMalformed_error
    · refine (Bucketing.failsMalformed_bucket _ _).bind fun bucket => ?_
      split
      · exact failsMalformed_error
      · exact failsMalformed_ok _

/-- A relation between evaluations that goes through their steps. -/
structure Evaluation.Stepwise (R : ∀ α : Type, Evaluation α → Evaluation α → Prop) : Prop where
  pure : ∀ {α : Type} (a : α), R α (Pure.pure a) (Pure.pure a)
  throw : ∀ {α : Type}, R α (MonadExcept.throw .malformedFlag) (MonadExcept.throw .malformedFlag)
  note : ∀ entry, R Unit (Evaluation.note entry) (Evaluation.note entry)
  noteStatus : ∀ status, R Unit (Evaluation.noteStatus status) (Evaluation.noteStatus status)
  bind : ∀ {α β : Type} {x y : Evaluation α} {f g : α → Evaluation β},
    R α x y → (∀ a, R β (f a) (g a)) → R β (x >>= f) (y >>= g)

/-- Two evaluators that share a part of their stores and are related where they consult the outside
    store. -/
structure Evaluator.Alike (R : ∀ α : Type, Evaluation α → Evaluation α → Prop) (part : Store.Part)
    (e e' : Evaluator) : Prop where
  store : e.store.Shares e'.store part
  bigSegments : e'.bigSegments = e.bigSegments
  membership : ∀ b, e.bigSegments = some b → ∀ key,
    R _ (e.membership b key) (e'.membership b key)

/-- Where two evaluations of a flag stand, each by its depth and the keys on its way down. -/
inductive Evaluation.Standing (R : ∀ α : Type, Evaluation α → Evaluation α → Prop) :
    Nat → List String → Nat → List String → Prop
  | same (depth : Nat) (met : List String) : Standing R depth met depth met
  /-- The second one may go on where the first one is stopped. -/
  | freer {depth depth' : Nat} {met met' : List String} :
    (∀ {α : Type} entry (y : Evaluation α), R α (Evaluation.stop entry) y) → depth ≤ depth' →
    met' ⊆ met → Standing R depth met depth' met'

namespace Evaluation.Standing

variable {R : ∀ α : Type, Evaluation α → Evaluation α → Prop} {depth depth' : Nat}
  {met met' : List String}

/-- A step down leaves the standing as it is. -/
theorem down (h : Standing R (depth + 1) met depth' met') (key : String) :
    ∃ rest, depth' = rest + 1 ∧ Standing R depth (key :: met) rest (key :: met') := by
  cases h with
  | same => exact ⟨depth, rfl, .same depth (key :: met)⟩
  | freer hstop hdepth hmet =>
    refine ⟨depth' - 1, by omega, .freer hstop (by omega) (List.cons_subset_cons key hmet)⟩

end Evaluation.Standing

namespace Evaluation.Stepwise

variable {R : ∀ α : Type, Evaluation α → Evaluation α → Prop} {α ι : Type} (hR : Stepwise R)
include hR

/-! ## Steps and lists -/

theorem stop (entry : LogEntry) : R α (Evaluation.stop entry) (Evaluation.stop entry) :=
  hR.bind (hR.note entry) fun _ => hR.throw

/-- One outcome on both sides, which is a value or the fault of malformed data. -/
theorem ofExcept {r : Except Fault α} (h : FailsMalformed r) :
    R α (Evaluation.ofExcept r) (Evaluation.ofExcept r) := by
  cases r with
  | ok a => exact hR.pure a
  | error fault =>
    obtain rfl := h fault rfl
    exact hR.throw

/-- Induction on the list: the search goes on on both sides alike, or ends on both. -/
theorem anyM {p q : ι → Evaluation Bool} :
    ∀ {l : List ι}, (∀ i ∈ l, R Bool (p i) (q i)) → R Bool (l.anyM p) (l.anyM q)
  | [], _ => hR.pure false
  | i :: l, h => by
    rw [List.anyM_cons, List.anyM_cons]
    refine hR.bind (h i (List.mem_cons_self ..)) fun found => ?_
    cases found with
    | true => exact hR.pure true
    | false => exact anyM fun j hj => h j (List.mem_cons_of_mem _ hj)

theorem allM {p q : ι → Evaluation Bool} :
    ∀ {l : List ι}, (∀ i ∈ l, R Bool (p i) (q i)) → R Bool (l.allM p) (l.allM q)
  | [], _ => hR.pure true
  | i :: l, h => by
    rw [List.allM_cons, List.allM_cons]
    refine hR.bind (h i (List.mem_cons_self ..)) fun holds => ?_
    cases holds with
    | true => exact allM fun j hj => h j (List.mem_cons_of_mem _ hj)
    | false => exact hR.pure false

/-! ## Segments -/

section Segments

variable {part : Store.Part} {e e' : Evaluator} (he : Evaluator.Alike R part e e')
  {context context' : Context} {s : Segment} (hs : s.SeesAlike context context')
include he hs

/-- The outside store is asked on both sides for the key of the same individual. -/
theorem unboundedMember? : R _ (e.unboundedMember? context s) (e'.unboundedMember? context' s) := by
  have hnothing : R (Option Bool) (do Evaluation.noteStatus .notConfigured; Pure.pure (some false))
      (do Evaluation.noteStatus .notConfigured; Pure.pure (some false)) :=
    hR.bind (hR.noteStatus _) fun _ => hR.pure _
  rw [Evaluator.unboundedMember?, Evaluator.unboundedMember?, he.bigSegments, hs.unbounded]
  cases context.ofKind? (s.unboundedContextKind.getD Kind.user) with
  | none => exact hR.pure _
  | some i =>
    cases s.generation with
    | none => exact hnothing
    | some generation =>
      cases hb : e.bigSegments with
      | none => exact hnothing
      | some b => exact hR.bind (he.membership b hb i.key) fun _ => hR.pure _

/-- Before its rules a segment is decided by its lists or by the outside store. -/
theorem memberBeforeRules? :
    R _ (e.memberBeforeRules? context s) (e'.memberBeforeRules? context' s) := by
  rw [Evaluator.memberBeforeRules?, Evaluator.memberBeforeRules?, hs.listed]
  cases s.listed? context with
  | some member => exact hR.pure _
  | none =>
    cases s.unbounded with
    | true => exact hR.unboundedMember? he hs
    | false => exact hR.pure _

end Segments

section Rules

variable {context context' : Context} {isMember isMember' : String → Evaluation Bool}

/-- A clause: its segments by `hmember`, or its own match, which sees both contexts alike. -/
theorem clauseHolds {c : Clause} (hc : c.SeesAlike context context')
    (hmember : ∀ name ∈ c.segmentNames, R Bool (isMember name) (isMember' name)) :
    R Bool (Evaluator.clauseHolds context isMember c)
      (Evaluator.clauseHolds context' isMember' c) := by
  rw [Evaluator.clauseHolds, Evaluator.clauseHolds]
  by_cases hop : c.op = .segmentMatch
  · rw [Clause.segmentNames, if_pos hop] at hmember
    rw [if_pos hop, if_pos hop]
    exact hR.bind (hR.anyM hmember) fun _ => hR.pure _
  · rw [if_neg hop, if_neg hop, hc hop]
    exact hR.ofExcept (c.failsMalformed_holds context)

/-- A rule of a segment: its clauses, and then the share of the contexts it lets in. -/
theorem segmentRuleMatches {s : Segment} (hs : s.SeesAlike context context') {r : SegmentRule}
    (hr : r ∈ s.rules)
    (hmember : ∀ c ∈ r.clauses, ∀ name ∈ c.segmentNames, R Bool (isMember name) (isMember' name)) :
    R Bool (Evaluator.segmentRuleMatches context isMember s r)
      (Evaluator.segmentRuleMatches context' isMember' s r) := by
  have hclauses := hR.allM fun c hc => hR.clauseHolds (hs.clauses r hr c hc) (hmember c hc)
  refine hR.bind hclauses fun holds => ?_
  cases holds with
  | true =>
    simp only [hs.share r hr]
    exact hR.ofExcept (Evaluator.failsMalformed_inShare context s r)
  | false => exact hR.pure false

/-! ## Rules and serving -/

theorem ruleMatches {r : FlagRule} (hr : ∀ c ∈ r.clauses, c.SeesAlike context context')
    (hmember : ∀ c ∈ r.clauses, ∀ name ∈ c.segmentNames, R Bool (isMember name) (isMember' name)) :
    R Bool (Evaluator.ruleMatches context isMember r)
      (Evaluator.ruleMatches context' isMember' r) :=
  hR.allM fun c hc => hR.clauseHolds (hr c hc) (hmember c hc)

/-- Going on with the first rule that matches, which is one of those in the list. -/
theorem firstRule?_bind {β : Type} {next next' : Option (FlagRule × Nat) → Evaluation β}
    (hnone : R β (next none) (next' none)) : ∀ {rules : List (FlagRule × Nat)},
      (∀ r ∈ rules, ∀ c ∈ r.1.clauses, c.SeesAlike context context') →
      (∀ r ∈ rules, ∀ c ∈ r.1.clauses, ∀ name ∈ c.segmentNames,
        R Bool (isMember name) (isMember' name)) →
      (∀ r ∈ rules, R β (next (some r)) (next' (some r))) →
      R β (Evaluator.firstRule? context isMember rules >>= next)
        (Evaluator.firstRule? context' isMember' rules >>= next')
  | [], _, _, _ => by
    rw [Evaluator.firstRule?, Evaluator.firstRule?, pure_bind, pure_bind]
    exact hnone
  | (r, i) :: rest, hsees, hmember, hsome => by
    have hhead : (r, i) ∈ (r, i) :: rest := List.mem_cons_self ..
    rw [Evaluator.firstRule?, Evaluator.firstRule?, bind_assoc, bind_assoc]
    refine hR.bind (hR.ruleMatches (hsees _ hhead) (hmember _ hhead)) fun found => ?_
    cases found with
    | true =>
      simp only [↓reduceIte, pure_bind]
      exact hsome _ hhead
    | false =>
      exact firstRule?_bind hnone (fun q hq => hsees q (List.mem_cons_of_mem _ hq))
        (fun q hq => hmember q (List.mem_cons_of_mem _ hq)) fun q hq =>
          hsome q (List.mem_cons_of_mem _ hq)

end Rules

theorem serve (f : Flag) (index : VariationIndex) (cause : Reason.Cause) :
    R _ (f.serve index cause) (f.serve index cause) := by
  rw [Flag.serve]
  cases f.variation? index with
  | some value => exact hR.pure _
  | none => exact hR.stop _

theorem serveOff (f : Flag) (cause : Reason.Cause) : R _ (f.serveOff cause) (f.serveOff cause) := by
  rw [Flag.serveOff]
  cases f.offVariation with
  | some index => exact hR.serve f index cause
  | none => exact hR.pure _

section Shared

variable {context context' : Context}

/-- A flag that is on: its targets, then its rules, then the fallthrough. -/
theorem serveOn {f : Flag} (hf : f.SeesAlike context context')
    {isMember isMember' : String → Evaluation Bool}
    (hmember : ∀ r ∈ f.rules, ∀ c ∈ r.clauses, ∀ name ∈ c.segmentNames,
      R Bool (isMember name) (isMember' name)) :
    R _ (Evaluator.serveOn context isMember f) (Evaluator.serveOn context' isMember' f) := by
  rw [Evaluator.serveOn, Evaluator.serveOn, hf.targeted]
  cases f.targeted? context with
  | some index => exact hR.serve f index _
  | none =>
    -- the rules come with their numbers; what is known of the rules is known of these
    have hin : ∀ r ∈ f.rules.zipIdx, r.1 ∈ f.rules := fun r hr => List.fst_mem_of_mem_zipIdx hr
    refine hR.firstRule?_bind ?_ (fun r hr => hf.clauses r.1 (hin r hr)) (fun r hr =>
      hmember r.1 (hin r hr))
      fun r hr => ?_
    · simp only [hf.fallthrough]
      exact hR.bind (hR.ofExcept (f.fallthrough.failsMalformed_select f context)) fun _ =>
        hR.serve f _ _
    · simp only [hf.rules r.1 (hin r hr)]
      exact hR.bind (hR.ofExcept (r.1.serving.failsMalformed_select f context)) fun _ =>
        hR.serve f _ _

variable {part : Store.Part} {e e' : Evaluator} (he : Evaluator.Alike R part e e')
  (hsees : e.store.SeesAlike part context context')
include he

include hsees in
/-- **Memberships in segments** are related as soon as consultations of the outside store are. -/
theorem inSegment (met : List String) (name : String) (hname : part .segments name) :
    R Bool (e.inSegment context met name) (e'.inSegment context' met name) := by
  induction met, name using e.inSegment_induction with
  | level met name ih =>
    rw [Evaluator.inSegment_eq, Evaluator.inSegment_eq, Evaluator.segmentLevel,
      Evaluator.segmentLevel, he.store.segment? hname]
    cases hs : e.store.segment? name with
    | none => exact hR.pure false
    | some s =>
      by_cases hmet : s.key ∈ met
      · simp only [hmet, ↓reduceIte]
        exact hR.stop _
      · simp only [hmet, ↓reduceIte]
        have hseen := hsees.segment? hname hs
        refine hR.bind (hR.memberBeforeRules? he hseen) fun decided => ?_
        cases decided with
        | some member => exact hR.pure member
        | none =>
          -- a segment named by a rule is in sight as well, so the induction hypothesis serves
          refine hR.anyM fun r hr => hR.segmentRuleMatches hseen hr fun c hc name' hname' => ?_
          exact ih s hs hmet name' (he.store.of_segment? hname hs _ _ (.segmentRule hr hc hname'))

/-! ## Flags -/

variable (hnote : ∀ f q d, R Unit (e.notePrerequisite context f q d)
  (e'.notePrerequisite context' f q d))
include hnote

/-- Fewer keys on the way down only leave more prerequisites to be evaluated. -/
theorem firstUnmet? {depth depth' : Nat} {met met' : List String}
    (hstanding : Standing R depth met depth' met') {check check' : Flag → Evaluation (Detail Json)}
    (f : Flag) : ∀ {ps : List Prerequisite}, (∀ p ∈ ps, part .flags p.key) →
      (∀ p ∈ ps, ∀ q, e.store.flag? p.key = some q → R _ (check q) (check' q)) →
      R _ (e.firstUnmet? context check met f ps) (e'.firstUnmet? context' check' met' f ps)
  | [], _, _ => hR.pure none
  | p :: rest, hpart, hcheck => by
    have hp : p ∈ p :: rest := List.mem_cons_self ..
    rw [Evaluator.firstUnmet?, Evaluator.firstUnmet?, he.store.flag? (hpart p hp)]
    by_cases hkey : p.key ∈ met
    · rw [if_pos hkey]
      cases hstanding with
      | same =>
        rw [if_pos hkey]
        exact hR.stop _
      -- the first run ends with a fault here, and nothing is asked of the second
      | freer hstop => exact hstop _ _
    · -- what is not on the way down of the first run is not on that of the second
      have hkey' : p.key ∉ met' := by
        cases hstanding with
        | same => exact hkey
        | freer _ _ hmet => exact fun h => hkey (hmet h)
      rw [if_neg hkey, if_neg hkey']
      cases hq : e.store.flag? p.key with
      | none => exact hR.stop _
      | some q =>
        refine hR.bind (hcheck p hp q hq) fun d => hR.bind (hnote f q d) fun _ => ?_
        cases Evaluator.Prerequisite.metBy p q d with
        | true =>
          exact firstUnmet? hstanding f (fun p' hp' => hpart p' (List.mem_cons_of_mem _ hp'))
            (fun p' hp' => hcheck p' (List.mem_cons_of_mem _ hp'))
        | false => exact hR.pure _

include hsees in
/-- **Flags** are related, below whatever other flags. -/
theorem check {depth depth' : Nat} {met met' : List String}
    (hstanding : Standing R depth met depth' met') {f : Flag} (hseen : f.SeesAlike context context')
    (hf : ∀ kind key, (Store.Item.flag f).Mentions kind key → part kind key) :
    R _ (e.check context depth met f) (e'.check context' depth' met' f) := by
  induction depth generalizing depth' met met' f with
  | zero =>
    -- without depth left, a flag that is on stops the first evaluation
    cases hon : f.on with
    | false =>
      rw [Evaluator.check_of_off _ _ _ _ hon, Evaluator.check_of_off _ _ _ _ hon]
      exact hR.serveOff f .off
    | true =>
      cases hstanding with
      | same =>
        rw [Evaluator.check, Evaluator.check, hon]
        exact hR.stop _
      | freer hstop =>
        rw [Evaluator.check, hon]
        exact hstop _ _
  | succ depth ih =>
    obtain ⟨rest, rfl, hbelow⟩ := hstanding.down f.key
    cases hon : f.on with
    | false =>
      rw [Evaluator.check_of_off _ _ _ _ hon, Evaluator.check_of_off _ _ _ _ hon]
      exact hR.serveOff f .off
    | true =>
      have hpart : ∀ p ∈ f.prerequisites, part .flags p.key := fun p hp => hf _ _ (.prerequisite hp)
      have hcheck : ∀ p ∈ f.prerequisites, ∀ q, e.store.flag? p.key = some q →
          R _ (e.check context depth (f.key :: met) q) (e'.check context' rest (f.key :: met') q) :=
        fun p hp q hq =>
          ih hbelow (hsees.flag? (hpart p hp) hq) (he.store.of_flag? (hpart p hp) hq)
      rw [Evaluator.check, Evaluator.check, hon]
      refine hR.bind (hR.firstUnmet? he hnote hbelow f hpart hcheck) fun unmet => ?_
      cases unmet with
      | some key => exact hR.serveOff f _
      | none =>
        refine hR.serveOn hseen fun r hr c hc name hname => ?_
        exact hR.inSegment he hsees [] name (hf _ _ (.flagRule hr hc hname))

end Shared

end Evaluation.Stepwise

end FeatureFlags

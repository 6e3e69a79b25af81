/-
  WELL-FORMED DATA NEVER LEAD TO A FAULT.

  1. **Ways** — following a relation without circles never comes back to an item of the way.  An
     item that stands under its own key is told by that key, so the key is not on the way either: it
     may well have been met on OTHER ways, where it was left again.
  2. **Well-formed** — what flags, segments and their store must satisfy.
  3. **Steps** — each step of an evaluation of well-formed data gives a result (`Gives`).
  4. **Recursions** — memberships, by the induction over memberships; flags, by induction on the
     depth that is left: the way down and the depth left together make up `maxDepth`, and a longer
     way there is none.
  5. **Main result** (`evaluate_of_wellFormed`).
-/
import Mathlib.Data.List.Chain
import Mathlib.Logic.Relation
import FeatureFlags.Proofs.Evaluation.Reason

namespace FeatureFlags

/-! ## Ways -/

section Ways

variable {α : Type} {R : α → α → Prop}

/-- `IsWay R x above` — a way through the items of `above`, the last one first, has led to `x`. -/
def IsWay (R : α → α → Prop) (x : α) (above : List α) : Prop :=
  List.IsChain (fun a b => R b a) (x :: above)

theorem IsWay.start (x : α) : IsWay R x [] := List.isChain_singleton x

theorem IsWay.next {x y : α} {above : List α} (h : IsWay R x above) (hxy : R x y) :
    IsWay R y (x :: above) :=
  List.isChain_cons_cons.2 ⟨hxy, h⟩

/-- Every item of a way leads to its end. -/
theorem IsWay.leads {x a : α} {above : List α} (h : IsWay R x above) (ha : a ∈ above) :
    Relation.TransGen R a x := by
  have hchain : List.IsChain (Relation.TransGen (fun a b => R b a)) (x :: above) :=
    h.imp fun _ _ hab => Relation.TransGen.single hab
  exact Relation.transGen_swap.1 (hchain.rel_cons ha)

/-- **A key does not come again** where items stand under their keys and there are no circles. -/
theorem IsWay.key_notMem {x : α} {above : List α} (h : IsWay R x above) {get : String → Option α}
    {key : α → String} (hget : ∀ a b, R a b → get (key a) = some a)
    (hcircle : ∀ a, ¬ Relation.TransGen R a a) (hx : get (key x) = some x) :
    key x ∉ above.map key := by
  intro hmem
  obtain ⟨a, ha, hkey⟩ := List.mem_map.1 hmem
  have hleads := h.leads ha
  obtain ⟨b, hab, -⟩ := Relation.TransGen.head'_iff.1 hleads
  have hsame : some a = some x := by rw [← hget a b hab, hkey, hx]
  cases hsame
  exact hcircle x hleads

/-- A rank that goes down rules circles out. -/
theorem not_transGen_of_rank {rank : α → Nat} (h : ∀ a b, R a b → rank b < rank a) (a : α) :
    ¬ Relation.TransGen R a a := by
  have hdown : ∀ {b}, Relation.TransGen R a b → rank b < rank a := by
    intro b hab
    induction hab with
    | single hab => exact h _ _ hab
    | tail _ hbc ih => exact Nat.lt_trans (h _ _ hbc) ih
  exact fun haa => Nat.lt_irrefl _ (hdown haa)

/-- A rank that goes down bounds the rows. -/
theorem length_le_of_rank {rank : α → Nat} (h : ∀ a b, R a b → rank b < rank a) :
    ∀ {a : α} {row : List α}, List.IsChain R (a :: row) → row.length ≤ rank a
  | _, [], _ => Nat.zero_le _
  | a, b :: row, hrow => by
    obtain ⟨hab, hrest⟩ := List.isChain_cons_cons.1 hrow
    have hlt := h a b hab
    have hle := length_le_of_rank h hrest
    rw [List.length_cons]
    omega

end Ways

/-! ## Well-formed -/

/-- A clause on an attribute refers to it properly. -/
def Clause.WellFormed (c : Clause) : Prop := c.op ≠ .segmentMatch → c.reference.isValid = true

/-- A flag has a variation of an index. -/
def Flag.HasVariation (f : Flag) (index : VariationIndex) : Prop :=
  index.toNat < f.variations.length

/-- A serving that always selects a variation of its flag. -/
structure Serving.WellFormed (s : Serving) (f : Flag) : Prop where
  hasVariation : ∀ index, s.Offers index → f.HasVariation index
  rollout : s.variation = none → ∃ r, s.rollout = some r ∧ r.variations ≠ []
  bucketBy : s.variation = none → ∀ r, s.rollout = some r →
    (r.bucketing f).reference.isValid = true

/-- A variation of the flag is all that a serving needs. -/
theorem Serving.wellFormed_of_variation {s : Serving} {f : Flag} {index : VariationIndex}
    (hs : s.variation = some index) (h : f.HasVariation index) : s.WellFormed f where
  hasVariation index' hoffers := by
    rcases hoffers with hindex | ⟨hnone, -⟩
    · rw [hs] at hindex
      cases hindex
      exact h
    · rw [hs] at hnone
      cases hnone
  rollout hnone := by
    rw [hs] at hnone
    cases hnone
  bucketBy hnone := by
    rw [hs] at hnone
    cases hnone

structure Flag.WellFormed (f : Flag) : Prop where
  offVariation : ∀ index, f.offVariation = some index → f.HasVariation index
  targets : ∀ t ∈ f.targets, f.HasVariation t.variation
  contextTargets : ∀ t ∈ f.contextTargets, f.HasVariation t.variation
  clauses : ∀ r ∈ f.rules, ∀ c ∈ r.clauses, c.WellFormed
  rules : ∀ r ∈ f.rules, r.serving.WellFormed f
  fallthrough : f.fallthrough.WellFormed f

structure Segment.WellFormed (s : Segment) : Prop where
  clauses : ∀ r ∈ s.rules, ∀ c ∈ r.clauses, c.WellFormed
  bucketBy : ∀ r ∈ s.rules, r.weight ≠ none →
    (Evaluator.segmentBucketing s r).reference.isValid = true

namespace Store

/-- A stored flag requires another one. -/
def Requires (s : Store) (f g : Flag) : Prop :=
  s.flag? f.key = some f ∧ ∃ p ∈ f.prerequisites, s.flag? p.key = some g

/-- A rule of a stored segment asks for another one. -/
def Refers (s : Store) (x y : Segment) : Prop :=
  s.segment? x.key = some x ∧
    ∃ r ∈ x.rules, ∃ c ∈ r.clauses, ∃ name ∈ c.segmentNames, s.segment? name = some y

/-- **A well-formed store.** -/
structure WellFormed (s : Store) : Prop where
  flagKey : ∀ key f, s.flag? key = some f → f.key = key
  segmentKey : ∀ name x, s.segment? name = some x → x.key = name
  flags : ∀ key f, s.flag? key = some f → f.WellFormed
  segments : ∀ name x, s.segment? name = some x → x.WellFormed
  prerequisites : ∀ key f, s.flag? key = some f → ∀ p ∈ f.prerequisites,
    ∃ g, s.flag? p.key = some g
  flagCircle : ∀ f, ¬ Relation.TransGen s.Requires f f
  segmentCircle : ∀ x, ¬ Relation.TransGen s.Refers x x
  /-- At most `maxDepth` flags require one another in a row. -/
  depth : ∀ row : List Flag, row.IsChain s.Requires → row.length ≤ maxDepth

namespace WellFormed

variable {s : Store} (h : s.WellFormed)
include h

/-- In a well-formed store a flag is filed under its own key. -/
theorem flag?_key {key : String} {f : Flag} (hf : s.flag? key = some f) :
    s.flag? f.key = some f := by
  rw [h.flagKey key f hf]
  exact hf

theorem segment?_key {name : String} {x : Segment} (hx : s.segment? name = some x) :
    s.segment? x.key = some x := by
  rw [h.segmentKey name x hx]
  exact hx

/-- Going down, no flag is met again: that would be a way from the flag back to itself. -/
theorem flagKey_notMem {f : Flag} {above : List Flag} (hf : s.flag? f.key = some f)
    (hway : IsWay s.Requires f above) : f.key ∉ above.map Flag.key :=
  hway.key_notMem (fun _ _ hab => hab.1) h.flagCircle hf

theorem segmentKey_notMem {x : Segment} {above : List Segment} (hx : s.segment? x.key = some x)
    (hway : IsWay s.Refers x above) : x.key ∉ above.map Segment.key :=
  hway.key_notMem (fun _ _ hab => hab.1) h.segmentCircle hx

/-- The way down stays within the permitted depth. -/
theorem length_lt {f : Flag} {above : List Flag} (hway : IsWay s.Requires f above) :
    above.length < maxDepth := by
  have hrow : ((f :: above).reverse).IsChain s.Requires := List.isChain_reverse.2 hway
  have hle := h.depth _ hrow
  rw [List.length_reverse, List.length_cons] at hle
  omega

end WellFormed

end Store

/-! ## Steps -/

open Evaluation (Gives)

namespace Bucketing

/-- A context has a place wherever there is a proper reference to go by. -/
theorem exists_bucket {b : Bucketing} (h : b.reference.isValid = true) (context : Context) :
    ∃ bucket, b.bucket context = .ok bucket := ⟨_, bucket_eq_ok_iff.2 ⟨h, rfl⟩⟩

end Bucketing

namespace Serving.WellFormed

variable {s : Serving} {f : Flag} (h : s.WellFormed f) (context : Context)
include h

/-- What a well-formed flag serves can be selected for any context. -/
theorem exists_select : ∃ selection, s.select f context = .ok selection := by
  rw [select]
  cases hv : s.variation with
  | some index => exact ⟨_, rfl⟩
  | none =>
    obtain ⟨r, hr, hne⟩ := h.rollout hv
    obtain ⟨bucket, hbucket⟩ := Bucketing.exists_bucket (h.bucketBy hv r hr) context
    obtain ⟨w, hw⟩ : ∃ w, r.variationAt? bucket.position = some w := by
      rw [← Option.isSome_iff_exists, Rollout.variationAt?, Option.isSome_or,
        List.getLast?_isSome.2 hne, Bool.or_true]
    rw [hr]
    simp only [hne, ↓reduceIte, hbucket, bind, Except.bind, hw]
    exact ⟨_, rfl⟩

theorem gives_select :
    Gives (Evaluation.ofExcept (s.select f context)) fun d => f.HasVariation d.index := by
  obtain ⟨selection, hselect⟩ := h.exists_select context
  exact Gives.ofExcept ⟨selection, hselect, h.hasVariation _ (offers_of_select hselect)⟩

end Serving.WellFormed

namespace Flag

theorem gives_serve {f : Flag} {index : VariationIndex} (h : f.HasVariation index)
    (cause : Reason.Cause) : Gives (f.serve index cause) fun _ => True := by
  have hlt : index.toNat < f.variations.length := h
  have hvalue : f.variation? index = some f.variations[index.toNat] := List.getElem?_eq_getElem hlt
  rw [serve, hvalue]
  exact Gives.pure trivial

theorem WellFormed.gives_serveOff {f : Flag} (h : f.WellFormed) (cause : Reason.Cause) :
    Gives (f.serveOff cause) fun _ => True := by
  rw [serveOff]
  cases hoff : f.offVariation with
  | none => exact Gives.pure trivial
  | some index => exact gives_serve (h.offVariation index hoff) cause

/-- A target of a well-formed flag names a variation that the flag has. -/
theorem WellFormed.hasVariation_of_targeted? {f : Flag} (h : f.WellFormed) {context : Context}
    {index : VariationIndex} (htarget : f.targeted? context = some index) :
    f.HasVariation index := by
  obtain ⟨before, t, after, hsplit, -, -, rfl⟩ := targeted?_eq_some_iff.1 htarget
  have ht : t ∈ f.entries := by
    rw [hsplit]
    exact List.mem_append_right before (List.mem_cons_self ..)
  rw [entries] at ht
  split at ht
  · exact h.targets t ht
  · exact h.contextTargets t ht

end Flag

namespace Evaluator

variable {e : Evaluator} {context : Context} {isMember : String → Evaluation Bool}

/-- The outside store may fail, but the evaluation goes on with no membership and a status. -/
theorem gives_membership (e : Evaluator) (b : BigSegments) (key : String) :
    Gives (e.membership b key) fun _ => True := by
  intro s
  cases hs : Entries.get? key s.memberships with
  | some membership => exact ⟨_, _, Evaluation.runFrom_membership_of_some hs, trivial⟩
  | none => exact ⟨_, _, Evaluation.runFrom_membership_of_none hs, trivial⟩

/-- Whatever the outside store does, it leads to no fault. -/
theorem gives_memberBeforeRules? (e : Evaluator) (context : Context) (s : Segment) :
    Gives (e.memberBeforeRules? context s) fun _ => True := by
  rw [memberBeforeRules?]
  cases s.listed? context with
  | some member => exact Gives.pure trivial
  | none =>
    cases s.unbounded with
    | false => exact Gives.pure trivial
    | true =>
      -- without generation or store there is a status, and the answer no
      have hnothing : Gives (do Evaluation.noteStatus .notConfigured; pure (some false))
          fun _ : Option Bool => True := fun _ => ⟨_, _, rfl, trivial⟩
      simp only [↓reduceIte, unboundedMember?]
      cases context.ofKind? (s.unboundedContextKind.getD Kind.user) with
      | none => exact Gives.pure trivial
      | some i =>
        cases s.generation with
        | none => exact hnothing
        | some generation =>
          cases e.bigSegments with
          | none => exact hnothing
          | some b => exact (gives_membership e b i.key).bind fun _ _ => Gives.pure trivial

/-- A well-formed clause has a valid reference, so it gives an answer if its segments do. -/
theorem gives_clauseHolds {c : Clause} (h : c.WellFormed)
    (hmember : ∀ name ∈ c.segmentNames, Gives (isMember name) fun _ => True) :
    Gives (clauseHolds context isMember c) fun _ => True := by
  rw [clauseHolds]
  by_cases hop : c.op = .segmentMatch
  · rw [Clause.segmentNames, if_pos hop] at hmember
    rw [if_pos hop]
    exact (Gives.anyM hmember).bind fun _ _ => Gives.pure trivial
  · rw [if_neg hop]
    refine Gives.ofExcept ?_
    simp only [Clause.holds, h hop, Bool.not_true, Bool.false_eq_true, ↓reduceIte]
    split
    · exact ⟨_, rfl, trivial⟩
    · cases c.subject? context with
      | none => exact ⟨_, rfl, trivial⟩
      | some value => exact ⟨_, rfl, trivial⟩

/-- A rule of a well-formed segment gives an answer if its segments do. -/
theorem gives_segmentRuleMatches {s : Segment} (h : s.WellFormed) {r : SegmentRule}
    (hr : r ∈ s.rules)
    (hmember : ∀ c ∈ r.clauses, ∀ name ∈ c.segmentNames, Gives (isMember name) fun _ => True) :
    Gives (segmentRuleMatches context isMember s r) fun _ => True := by
  have hclauses : Gives (r.clauses.allM (clauseHolds context isMember)) fun _ => True :=
    Gives.allM fun c hc => gives_clauseHolds (h.clauses r hr c hc) (hmember c hc)
  refine hclauses.bind fun holds _ => ?_
  cases holds with
  | false => exact Gives.pure trivial
  | true =>
    refine Gives.ofExcept ?_
    rw [inShare]
    cases hweight : r.weight with
    | none => exact ⟨_, rfl, trivial⟩
    | some weight =>
      -- a rule with a weight has a valid attribute to place contexts by
      have hvalid : (segmentBucketing s r).reference.isValid = true :=
        h.bucketBy r hr (by rw [hweight]; exact Option.some_ne_none weight)
      obtain ⟨bucket, hbucket⟩ := Bucketing.exists_bucket hvalid context
      simp only [hbucket, bind, Except.bind]
      exact ⟨_, rfl, trivial⟩

/-! ## Memberships -/

/-- A name may be looked up where it is asked for: whatever segment it leads to, the way goes on. -/
theorem gives_inSegment (h : e.store.WellFormed) (met : List String) (name : String) :
    ∀ above : List Segment, met = above.map Segment.key →
      (∀ x, e.store.segment? name = some x → IsWay e.store.Refers x above) →
      Gives (e.inSegment context met name) fun _ => True := by
  induction met, name using e.inSegment_induction with
  | level met name ih =>
    intro above habove hway
    rw [inSegment_eq, segmentLevel]
    cases hx : e.store.segment? name with
    | none => exact Gives.pure trivial
    | some x =>
      have hkey : e.store.segment? x.key = some x := h.segment?_key hx
      have hmet : x.key ∉ met := by
        rw [habove]
        exact h.segmentKey_notMem hkey (hway x hx)
      simp only [hmet, ↓reduceIte]
      refine (gives_memberBeforeRules? e context x).bind fun decided _ => ?_
      cases decided with
      | some member => exact Gives.pure trivial
      | none =>
        refine Gives.anyM fun r hr => gives_segmentRuleMatches (h.segments name x hx) hr ?_
        intro c hc name' hname'
        -- whatever segment has this name, the one at hand refers to it: the way goes on
        refine ih x hx hmet name' (x :: above) (by rw [habove]; rfl) fun y hy => ?_
        exact (hway x hx).next ⟨hkey, r, hr, c, hc, name', hname', hy⟩

/-! ## Flags -/

/-- The search for a rule ends, and what it finds is a rule of the list. -/
theorem gives_firstRule? {rules : List (FlagRule × Nat)}
    (h : ∀ r ∈ rules, ∀ c ∈ r.1.clauses, Gives (clauseHolds context isMember c) fun _ => True) :
    Gives (firstRule? context isMember rules) fun found => ∀ r, found = some r → r ∈ rules := by
  induction rules with
  | nil => exact Gives.pure fun r hr => by cases hr
  | cons r rest ih =>
    obtain ⟨r, i⟩ := r
    have hrule : Gives (ruleMatches context isMember r) fun _ => True :=
      Gives.allM (h (r, i) (List.mem_cons_self ..))
    refine hrule.bind fun holds _ => ?_
    cases holds with
    | true => exact Gives.pure fun q hq => by cases hq; exact List.mem_cons_self ..
    | false =>
      refine (ih fun q hq => h q (List.mem_cons_of_mem _ hq)).mono fun found hfound q hq => ?_
      exact List.mem_cons_of_mem _ (hfound q hq)

/-- A flag that is on gives a detail: its target, its rule or its fallthrough has a variation. -/
theorem gives_serveOn (h : e.store.WellFormed) {f : Flag} (hf : f.WellFormed) :
    Gives (serveOn context (e.inSegment context []) f) fun _ => True := by
  have hmember : ∀ name, Gives (e.inSegment context [] name) fun _ => True :=
    fun name => gives_inSegment h [] name [] rfl fun x _ => .start x
  rw [serveOn]
  cases htarget : f.targeted? context with
  | some index => exact Flag.gives_serve (hf.hasVariation_of_targeted? htarget) _
  | none =>
    have hmem : ∀ r ∈ f.rules.zipIdx, r.1 ∈ f.rules := fun r hr => List.fst_mem_of_mem_zipIdx hr
    refine (gives_firstRule? fun r hr c hc =>
      gives_clauseHolds (hf.clauses r.1 (hmem r hr) c hc) fun name _ => hmember name).bind
      fun found hfound => ?_
    cases found with
    | none =>
      exact (hf.fallthrough.gives_select context).bind fun _ hindex => Flag.gives_serve hindex _
    | some r =>
      -- the rule that was found is one of the flag's
      have hserving := hf.rules r.1 (hmem r (hfound r rfl))
      exact (hserving.gives_select context).bind fun _ hindex => Flag.gives_serve hindex _

theorem gives_notePrerequisite (e : Evaluator) (context : Context) (f q : Flag) (d : Detail Json) :
    Gives (e.notePrerequisite context f q d) fun _ => True := by
  rw [notePrerequisite]
  cases e.factory with
  | none => exact Gives.pure trivial
  | some factory => exact fun _ => ⟨_, _, rfl, trivial⟩

/-- The prerequisites of a flag can be gone through if each flag that it requires gives a detail and
    is not on the way down. -/
theorem gives_firstUnmet? (h : e.store.WellFormed) {f : Flag} (hf : e.store.flag? f.key = some f)
    {check : Flag → Evaluation (Detail Json)} {met : List String}
    (hcheck : ∀ q, e.store.Requires f q → Gives (check q) fun _ => True)
    (hmet : ∀ q, e.store.Requires f q → q.key ∉ met) :
    ∀ ps : List Prerequisite, ps ⊆ f.prerequisites →
      Gives (e.firstUnmet? context check met f ps) fun _ => True
  | [], _ => Gives.pure trivial
  | p :: rest, hps => by
    have hp : p ∈ f.prerequisites := hps (List.mem_cons_self ..)
    obtain ⟨q, hq⟩ := h.prerequisites f.key f hf p hp
    have hrequires : e.store.Requires f q := ⟨hf, p, hp, hq⟩
    have hkey : p.key ∉ met := by
      rw [← h.flagKey p.key q hq]
      exact hmet q hrequires
    rw [firstUnmet?, if_neg hkey, hq]
    refine (hcheck q hrequires).bind fun d _ =>
      (gives_notePrerequisite e context f q d).bind fun _ _ => ?_
    cases Prerequisite.metBy p q d with
    | true =>
      exact gives_firstUnmet? h hf hcheck hmet rest fun r hr => hps (List.mem_cons_of_mem p hr)
    | false => exact Gives.pure trivial

/-- A flag gives a detail wherever a way has led to it, with the rest of `maxDepth` left. -/
theorem gives_check (h : e.store.WellFormed) (depth : Nat) {f : Flag} {above : List Flag}
    (hf : e.store.flag? f.key = some f) (hway : IsWay e.store.Requires f above)
    (hdepth : depth + above.length = maxDepth) :
    Gives (e.check context depth (above.map Flag.key) f) fun _ => True := by
  have hflag : f.WellFormed := h.flags f.key f hf
  induction depth generalizing f above with
  | zero =>
    -- the depth is used up only below `maxDepth` flags, and no way is that long
    have hlt : above.length < maxDepth := h.length_lt hway
    omega
  | succ depth ih =>
    cases hon : f.on with
    | false =>
      rw [check_of_off _ _ _ _ hon]
      exact hflag.gives_serveOff .off
    | true =>
      have hnext : ∀ q, e.store.Requires f q → e.store.flag? q.key = some q := by
        rintro q ⟨-, p, -, hq⟩
        exact h.flag?_key hq
      have hcheck : ∀ q, e.store.Requires f q →
          Gives (e.check context depth ((f :: above).map Flag.key) q) fun _ => True := by
        intro q hq
        have hdepth' : depth + (f :: above).length = maxDepth := by
          rw [List.length_cons]
          omega
        exact ih (hnext q hq) (hway.next hq) hdepth' (h.flags q.key q (hnext q hq))
      have hmet : ∀ q, e.store.Requires f q → q.key ∉ (f :: above).map Flag.key :=
        fun q hq => h.flagKey_notMem (hnext q hq) (hway.next hq)
      rw [check, hon]
      refine (gives_firstUnmet? h hf hcheck hmet f.prerequisites (List.Subset.refl _)).bind
        fun unmet _ => ?_
      cases unmet with
      | some key => exact hflag.gives_serveOff _
      | none => exact gives_serveOn h hflag

/-- **Well-formed data never lead to a fault**, whatever the context is and whatever the store of
    big segments does. -/
theorem evaluate_of_wellFormed (e : Evaluator) (h : e.store.WellFormed) (key : String) (f : Flag)
    (hf : e.store.flag? key = some f) (cache : BigSegments.Cache) (context : Context) :
    (e.evaluate cache f context).detail.reason.isError = false := by
  have hgives : Gives (e.check context maxDepth ([].map Flag.key) f) fun _ => True :=
    gives_check h maxDepth (h.flag?_key hf) (IsWay.start f) (Nat.add_zero maxDepth)
  obtain ⟨d, t, hrun, -⟩ := hgives (.start cache)
  rw [detail_evaluate_of_ok hrun, Bool.eq_false_iff]
  intro herror
  obtain ⟨fault, hfault⟩ := Reason.isError_eq_true_iff.1 herror
  exact (reports_of_check hrun).cause_ne_error fault hfault

/-! ## An instance: diamonds -/

def diamondKeys : List String := ["base", "left", "right", "top"]

/-- The keys below a key: both sides of the diamond lead to its base. -/
def diamondBelow (key : String) : List String :=
  if key = "top" then ["left", "right"] else if key = "base" then [] else ["base"]

def diamondRank (key : String) : Nat :=
  if key = "top" then 2 else if key = "base" then 0 else 1

/-- A flag that requires the flags below it and asks for the segment of its key. -/
def diamondFlag (key : String) : Flag :=
  { Flag.ofKey key with
    on := true
    prerequisites := (diamondBelow key).map (⟨·, 0⟩)
    rules := [⟨none, [⟨none, "", .segmentMatch, [.text key], false⟩], ⟨some 1, none⟩, false⟩]
    fallthrough := ⟨some 0, none⟩
    variations := [.bool false, .bool true] }

/-- A segment that asks for the segments below it. -/
def diamondSegment (key : String) : Segment :=
  { Segment.ofKey key with
    rules := [⟨none, [⟨none, "", .segmentMatch, (diamondBelow key).map .text, false⟩], none, none,
      none⟩] }

def diamondStore : Store :=
  .ofData (diamondKeys.map fun key => (key, diamondFlag key))
    (diamondKeys.map fun key => (key, diamondSegment key))

theorem mem_diamondKeys_of_mem_below :
    ∀ key ∈ diamondKeys, ∀ name ∈ diamondBelow key, name ∈ diamondKeys := by decide

/-- Ranks fall along the sides of the diamond, so it has no cycle. -/
theorem diamondRank_lt :
    ∀ key ∈ diamondKeys, ∀ name ∈ diamondBelow key, diamondRank name < diamondRank key := by decide

theorem diamondRank_le (key : String) : diamondRank key ≤ 2 := by
  unfold diamondRank
  split
  · exact Nat.le_refl 2
  · split <;> decide

theorem flag?_diamondStore : ∀ key ∈ diamondKeys,
    diamondStore.flag? key = some (diamondFlag key) := by
  intro key hkey
  simp only [diamondKeys, List.mem_cons, List.not_mem_nil, or_false] at hkey
  rcases hkey with rfl | rfl | rfl | rfl <;> rfl

/-- The store has the flags of the diamond and no others. -/
theorem eq_diamondFlag {key : String} {f : Flag} (h : diamondStore.flag? key = some f) :
    key ∈ diamondKeys ∧ f = diamondFlag key := by
  have hmem := Entries.mem_of_get? (Option.filter_eq_some_iff.1 h).1
  obtain ⟨k, hk, hpair⟩ := List.mem_map.1 hmem
  cases hpair
  exact ⟨hk, rfl⟩

theorem eq_diamondSegment {name : String} {x : Segment} (h : diamondStore.segment? name = some x) :
    name ∈ diamondKeys ∧ x = diamondSegment name := by
  obtain ⟨k, hk, hpair⟩ := List.mem_map.1 (Store.mem_of_segment? h)
  cases hpair
  exact ⟨hk, rfl⟩

theorem diamondRank_lt_of_requires (f g : Flag) (h : diamondStore.Requires f g) :
    diamondRank g.key < diamondRank f.key := by
  obtain ⟨hf, p, hp, hg⟩ := h
  obtain ⟨hkey, hf⟩ := eq_diamondFlag hf
  obtain ⟨-, rfl⟩ := eq_diamondFlag hg
  rw [hf] at hp
  obtain ⟨name, hname, rfl⟩ := List.mem_map.1 hp
  exact diamondRank_lt f.key hkey name hname

theorem diamondRank_lt_of_refers (x y : Segment) (h : diamondStore.Refers x y) :
    diamondRank y.key < diamondRank x.key := by
  obtain ⟨hx, r, hr, c, hc, name, hname, hy⟩ := h
  obtain ⟨hkey, hx⟩ := eq_diamondSegment hx
  obtain ⟨-, rfl⟩ := eq_diamondSegment hy
  rw [hx] at hr
  cases List.mem_singleton.1 hr
  cases List.mem_singleton.1 hc
  have hbelow : name ∈ diamondBelow x.key := by
    obtain ⟨value, hvalue, htext⟩ := List.mem_filterMap.1 hname
    obtain ⟨name', hname', rfl⟩ := List.mem_map.1 hvalue
    cases htext
    exact hname'
  exact diamondRank_lt x.key hkey name hbelow

theorem wellFormed_diamondFlag (key : String) : (diamondFlag key).WellFormed where
  offVariation _ h := by cases h
  targets _ h := by cases h
  contextTargets _ h := by cases h
  clauses r hr c hc := by
    cases List.mem_singleton.1 hr
    cases List.mem_singleton.1 hc
    exact fun hop => absurd rfl hop
  rules r hr := by
    cases List.mem_singleton.1 hr
    exact Serving.wellFormed_of_variation rfl (show 1 < 2 by decide)
  fallthrough := Serving.wellFormed_of_variation rfl (show 0 < 2 by decide)

theorem wellFormed_diamondSegment (key : String) : (diamondSegment key).WellFormed where
  clauses r hr c hc := by
    cases List.mem_singleton.1 hr
    cases List.mem_singleton.1 hc
    exact fun hop => absurd rfl hop
  bucketBy r hr hweight := by
    cases List.mem_singleton.1 hr
    exact absurd rfl hweight

/-- Two ways lead from the top to the bottom, and the store is well-formed none the less. -/
theorem wellFormed_diamondStore : diamondStore.WellFormed where
  flagKey key f hf := by
    obtain ⟨-, rfl⟩ := eq_diamondFlag hf
    rfl
  segmentKey name x hx := by
    obtain ⟨-, rfl⟩ := eq_diamondSegment hx
    rfl
  flags key f hf := by
    obtain ⟨-, rfl⟩ := eq_diamondFlag hf
    exact wellFormed_diamondFlag key
  segments name x hx := by
    obtain ⟨-, rfl⟩ := eq_diamondSegment hx
    exact wellFormed_diamondSegment name
  prerequisites key f hf p hp := by
    obtain ⟨hkey, rfl⟩ := eq_diamondFlag hf
    obtain ⟨name, hname, rfl⟩ := List.mem_map.1 hp
    exact ⟨_, flag?_diamondStore name (mem_diamondKeys_of_mem_below key hkey name hname)⟩
  flagCircle := not_transGen_of_rank diamondRank_lt_of_requires
  segmentCircle := not_transGen_of_rank diamondRank_lt_of_refers
  depth row hrow := by
    cases row with
    | nil => exact Nat.zero_le _
    | cons f row =>
      have hle := length_le_of_rank diamondRank_lt_of_requires hrow
      have hrank := diamondRank_le f.key
      have htop : maxDepth = 100 := rfl
      rw [List.length_cons]
      omega

def diamondEvaluator : Evaluator := ⟨diamondStore, none, ⟨0, 0⟩, none⟩

theorem evaluate_of_wellFormed_diamond :
    diamondStore.WellFormed ∧ diamondStore.flag? "top" = some (diamondFlag "top") ∧
      (diamondEvaluator.evaluate (.ofSettings .standard) (diamondFlag "top")
        (.single ⟨Kind.user, "a", none, false, none, [], []⟩)).detail.reason.isError = false :=
  have hflag := flag?_diamondStore "top" (by decide)
  ⟨wellFormed_diamondStore, hflag,
    evaluate_of_wellFormed diamondEvaluator wellFormed_diamondStore "top" _ hflag _ _⟩

end Evaluator

end FeatureFlags

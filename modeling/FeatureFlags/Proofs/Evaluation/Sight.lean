/-
  WHAT FLAGS AND SEGMENTS SEE OF A CONTEXT.

  Targets, clauses, buckets, the lists of segments and the outside store each pick one individual
  out of a context: the one of the kind that the data name in that place, or else the user.  Only a
  clause on the attribute `kind` looks at all individuals.

  1. **Seeing alike** — `item.SeesAlike context context'`: in each of these places the item finds
     the same in both contexts.
  2. **Kinds named (`Item.NamesKind`)** — in which places a flag or a segment names a kind.
  3. **Agreement (`Item.CoveredBy.seesAlike`)** — an item that names only kinds of a set, and has no
     clause on the attribute `kind`, sees contexts alike that have the same individuals of those
     kinds, and the same user.
-/
import FeatureFlags.Evaluation.Flag
import FeatureFlags.Proofs.Evaluation.Reach
import Mathlib.Data.List.Find

namespace FeatureFlags

/-! ## Seeing alike -/

/-- A clause that asks for no segment holds of both contexts, or of none. -/
def Clause.SeesAlike (c : Clause) (context context' : Context) : Prop :=
  c.op ≠ .segmentMatch → c.holds context' = c.holds context

/-- The lists of a segment, the outside store and the rules find the same in both contexts. -/
structure Segment.SeesAlike (s : Segment) (context context' : Context) : Prop where
  listed : s.listed? context' = s.listed? context
  unbounded : context'.ofKind? (s.unboundedContextKind.getD Kind.user) =
    context.ofKind? (s.unboundedContextKind.getD Kind.user)
  clauses : ∀ r ∈ s.rules, ∀ c ∈ r.clauses, c.SeesAlike context context'
  share : ∀ r ∈ s.rules, Evaluator.inShare context' s r = Evaluator.inShare context s r

/-- The targets of a flag, its rules and its fallthrough find the same in both contexts. -/
structure Flag.SeesAlike (f : Flag) (context context' : Context) : Prop where
  targeted : f.targeted? context' = f.targeted? context
  clauses : ∀ r ∈ f.rules, ∀ c ∈ r.clauses, c.SeesAlike context context'
  rules : ∀ r ∈ f.rules, r.serving.select f context' = r.serving.select f context
  fallthrough : f.fallthrough.select f context' = f.fallthrough.select f context

namespace Store

/-- A flag or a segment sees both contexts alike. -/
def Item.SeesAlike : Item → Context → Context → Prop
  | .flag f => f.SeesAlike
  | .segment x => x.SeesAlike

/-- So do all flags and segments that readers find in a part of a store. -/
def SeesAlike (s : Store) (part : Part) (context context' : Context) : Prop :=
  ∀ kind key item, part kind key → s.shown? kind key = some item → item.SeesAlike context context'

end Store

/-- A context is seen as itself: the comparison serves two stores with one context as well. -/
theorem Clause.SeesAlike.refl (c : Clause) (context : Context) : c.SeesAlike context context :=
  fun _ => rfl

theorem Segment.SeesAlike.refl (s : Segment) (context : Context) : s.SeesAlike context context :=
  ⟨rfl, rfl, fun _ _ c _ => .refl c context, fun _ _ => rfl⟩

theorem Flag.SeesAlike.refl (f : Flag) (context : Context) : f.SeesAlike context context :=
  ⟨rfl, fun _ _ c _ => .refl c context, fun _ _ => rfl, rfl⟩

namespace Store

variable {s : Store} {part : Part} {context context' : Context} {key : String}

theorem SeesAlike.refl (s : Store) (part : Part) (context : Context) :
    s.SeesAlike part context context := by
  intro kind key item _ _
  cases item with
  | flag f => exact .refl f context
  | segment x => exact .refl x context

/-- Of a flag that is in sight, both contexts are seen alike. -/
theorem SeesAlike.flag? (h : s.SeesAlike part context context') (hkey : part .flags key) {f : Flag}
    (hf : s.flag? key = some f) : f.SeesAlike context context' :=
  h .flags key (.flag f) hkey (congrArg (Option.map Item.flag) hf)

theorem SeesAlike.segment? (h : s.SeesAlike part context context') (hkey : part .segments key)
    {x : Segment} (hx : s.segment? key = some x) : x.SeesAlike context context' :=
  h .segments key (.segment x) hkey (congrArg (Option.map Item.segment) hx)

/-! ## Kinds named -/

/-- The clauses of the rules of an item. -/
def Item.clauses : Item → List Clause
  | .flag f => f.rules.flatMap FlagRule.clauses
  | .segment x => x.rules.flatMap SegmentRule.clauses

/-- **What kinds an item names.** -/
inductive Item.NamesKind : Item → Kind → Prop
  | clause {item : Item} {c : Clause} {k : Kind} : c ∈ item.clauses → c.contextKind = some k →
    NamesKind item k
  | target {f : Flag} {t : Target} {k : Kind} : t ∈ f.contextTargets → t.contextKind = some k →
    NamesKind (.flag f) k
  | rule {f : Flag} {r : FlagRule} {rollout : Rollout} {k : Kind} : r ∈ f.rules →
    r.serving.rollout = some rollout → rollout.contextKind = some k → NamesKind (.flag f) k
  | fallthrough {f : Flag} {rollout : Rollout} {k : Kind} : f.fallthrough.rollout = some rollout →
    rollout.contextKind = some k → NamesKind (.flag f) k
  | included {x : Segment} {t : SegmentTarget} : t ∈ x.includedContexts →
    NamesKind (.segment x) t.contextKind
  | excluded {x : Segment} {t : SegmentTarget} : t ∈ x.excludedContexts →
    NamesKind (.segment x) t.contextKind
  | share {x : Segment} {r : SegmentRule} {k : Kind} : r ∈ x.rules → r.rolloutContextKind = some k →
    NamesKind (.segment x) k
  | unbounded {x : Segment} {k : Kind} : x.unboundedContextKind = some k → NamesKind (.segment x) k

end Store

/-- A clause on the attribute `kind`, which asks for the kinds of the whole context. -/
def Clause.OnKind (c : Clause) : Prop := c.op ≠ .segmentMatch ∧ c.reference.names = ["kind"]

/-- `item.CoveredBy kinds` — the item names kinds of this set only, and has no clause on the
    attribute `kind`. -/
structure Store.Item.CoveredBy (item : Store.Item) (kinds : Kind → Prop) : Prop where
  named : ∀ k, item.NamesKind k → kinds k
  clauses : ∀ c ∈ item.clauses, ¬ c.OnKind

/-- The contexts have the same individuals of these kinds. -/
def Context.AgreeOn (kinds : Kind → Prop) (context context' : Context) : Prop :=
  ∀ k, kinds k → context'.ofKind? k = context.ofKind? k

/-! ## Agreement -/

section Agreement

variable {kinds : Kind → Prop} {context context' : Context}

/-- A kind that is named or left to be the user. -/
theorem Context.AgreeOn.getD (h : Context.AgreeOn kinds context context') (user : kinds .user)
    {kind? : Option Kind} (hnamed : ∀ k, kind? = some k → kinds k) :
    context'.ofKind? (kind?.getD Kind.user) = context.ofKind? (kind?.getD Kind.user) := by
  cases kind? with
  | none => exact h _ user
  | some k => exact h k (hnamed k rfl)

/-- A clause that does not ask for the kind reads the individual of its own kind and nothing
    else. -/
theorem Clause.seesAlike {c : Clause} (h : context'.ofKind? c.kind = context.ofKind? c.kind)
    (hkind : ¬ c.OnKind) : c.SeesAlike context context' := by
  intro hop
  have hnames : c.reference.names ≠ ["kind"] := fun hnames => hkind ⟨hop, hnames⟩
  rw [Clause.holds, Clause.holds, if_neg hnames, if_neg hnames, Clause.subject?, Clause.subject?, h]

/-- The place of a context is taken from the individual of the rollout's kind alone. -/
theorem Bucketing.bucket_congr {b : Bucketing}
    (h : context'.ofKind? b.kind = context.ofKind? b.kind) :
    b.bucket context' = b.bucket context := by
  rw [Bucketing.bucket, Bucketing.bucket, h]

/-- The share of a segment rule is drawn from the individual of the rule's kind alone. -/
theorem Evaluator.inShare_congr {s : Segment} {r : SegmentRule}
    (h : context'.ofKind? (r.rolloutContextKind.getD Kind.user) =
      context.ofKind? (r.rolloutContextKind.getD Kind.user)) :
    inShare context' s r = inShare context s r := by
  rw [inShare, inShare, Bucketing.bucket_congr (b := segmentBucketing s r) h]

/-- What is served depends on the context through the rollout's individual, if there is a
    rollout. -/
theorem Serving.select_congr {s : Serving} {f : Flag}
    (h : ∀ rollout, s.rollout = some rollout →
      context'.ofKind? (rollout.contextKind.getD Kind.user) =
        context.ofKind? (rollout.contextKind.getD Kind.user)) :
    s.select f context' = s.select f context := by
  rw [select, select]
  cases s.variation with
  | some index => rfl
  | none =>
    cases hrollout : s.rollout with
    | none => rfl
    | some rollout =>
      simp only
      rw [Bucketing.bucket_congr (b := rollout.bucketing f) (h rollout hrollout)]

theorem Segment.lists_congr {targets : List SegmentTarget}
    (h : ∀ t ∈ targets, context'.ofKind? t.contextKind = context.ofKind? t.contextKind) :
    lists targets context' = lists targets context := by
  unfold lists
  induction targets with
  | nil => rfl
  | cons t rest ih =>
    rw [List.any_cons, List.any_cons, h t (List.mem_cons_self ..),
      ih fun u hu => h u (List.mem_cons_of_mem t hu)]

/-- A segment that is covered by `kinds` sees two contexts that agree on them alike: its targets,
    its outside members and its rules each name their kind. -/
theorem Segment.seesAlike {s : Segment} (h : Context.AgreeOn kinds context context')
    (user : kinds .user) (hs : (Store.Item.segment s).CoveredBy kinds) :
    s.SeesAlike context context' where
  listed := by
    have husers : ∀ keys : KeySet, listsUser keys context' = listsUser keys context :=
      fun keys => by
      rw [listsUser, listsUser, h _ user]
    rw [listed?, listed?, husers, husers, lists_congr fun t ht => h _ (hs.named _ (.excluded ht)),
      lists_congr fun t ht => h _ (hs.named _ (.included ht))]
  unbounded := h.getD user fun k hk => hs.named k (.unbounded hk)
  clauses r hr c hc := by
    have hmem : c ∈ (Store.Item.segment s).clauses := List.mem_flatMap.2 ⟨r, hr, hc⟩
    exact Clause.seesAlike (h.getD user fun k hk =>
      hs.named k (.clause hmem hk)) (hs.clauses c hmem)
  share r hr := Evaluator.inShare_congr (h.getD user fun k hk => hs.named k (.share hr hk))

/-- A flag that is covered by `kinds` sees two contexts that agree on them alike. -/
theorem Flag.seesAlike {f : Flag} (h : Context.AgreeOn kinds context context') (user : kinds .user)
    (hf : (Store.Item.flag f).CoveredBy kinds) : f.SeesAlike context context' where
  targeted := by
    -- a target reads the individual of its own kind, which is among `kinds`
    have htargets : ∀ t ∈ f.contextTargets, f.targets? context' t = f.targets? context t := by
      intro t ht
      rw [targets?, targets?, h.getD user fun k hk => hf.named k (.target ht hk)]
    have hfirst : f.contextTargets.find? (f.targets? context') =
        f.contextTargets.find? (f.targets? context) := List.find?_congr htargets
    rw [targeted?, targeted?, hfirst, h _ user]
  clauses r hr c hc := by
    have hmem : c ∈ (Store.Item.flag f).clauses := List.mem_flatMap.2 ⟨r, hr, hc⟩
    exact Clause.seesAlike (h.getD user fun k hk =>
      hf.named k (.clause hmem hk)) (hf.clauses c hmem)
  rules r hr := Serving.select_congr fun rollout hrollout =>
    h.getD user fun k hk => hf.named k (.rule hr hrollout hk)
  fallthrough := Serving.select_congr fun rollout hrollout =>
    h.getD user fun k hk => hf.named k (.fallthrough hrollout hk)

/-- **An item sees contexts alike that agree on the kinds it names**, and on the user. -/
theorem Store.Item.CoveredBy.seesAlike {item : Store.Item} (hitem : item.CoveredBy kinds)
    (h : Context.AgreeOn kinds context context') (user : kinds .user) :
    item.SeesAlike context context' := by
  cases item with
  | flag f => exact Flag.seesAlike h user hitem
  | segment x => exact Segment.seesAlike h user hitem

end Agreement

end FeatureFlags

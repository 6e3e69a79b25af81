/-
  EVALUATIONS LOOK AT THE KINDS THAT THE DATA NAME, and at no others.

  1. **Cover (`Store.Covers`)** — a set of kinds that has the user, and all kinds that a flag names
     and that the items it reaches name, where none of them has a clause on the attribute `kind`.
  2. **Two contexts** — each item reached sees contexts alike that agree on such a set, so
     evaluations go in lockstep, and end with the same detail.  Reports are left aside: they show
     the whole context.
  3. **More individuals (`agreeOn_of_combine`)** — contexts agree on all kinds but those that are
     added.
  4. **Main result** — the same detail for contexts that agree on the kinds named, whoever else they
     have.
-/
import FeatureFlags.Proofs.Context.Arising
import FeatureFlags.Proofs.Evaluation.Locality
import FeatureFlags.Proofs.Evaluation.Visits

namespace FeatureFlags

open Store (Item)

/-! ## Cover -/

/-- `s.Covers kinds f` — the set has the user and every kind that the flag names, or anything that
    it reaches in the store; and none of these has a clause on the attribute `kind`. -/
structure Store.Covers (s : Store) (kinds : Kind → Prop) (f : Flag) : Prop where
  user : kinds .user
  root : (Item.flag f).CoveredBy kinds
  reached : ∀ kind key item, s.Reaches (.flag f) kind key → s.shown? kind key = some item →
    item.CoveredBy kinds

/-! ## Two contexts -/

namespace Evaluator

variable {e e' : Evaluator} {cache cache' : BigSegments.Cache} {f : Flag} {kinds : Kind → Prop}
  {context context' : Context}

/-- Evaluators go on to be answered alike if they report nothing. -/
theorem AnsweredAlike.telling (h : e.AnsweredAlike cache e' cache')
    (factory factory' : Option EventFactory) :
    (e.telling factory).AnsweredAlike cache (e'.telling factory') cache' :=
  ⟨h.bigSegments, h.constant, h.reachable, h.status⟩

/-- The way to report does not show in the detail. -/
theorem detail_telling_none (e : Evaluator) (cache : BigSegments.Cache) (f : Flag)
    (context : Context) :
    ((e.telling none).evaluate cache f context).detail = (e.evaluate cache f context).detail :=
  (congrArg Outcome.detail (evaluate_telling e e.factory cache f context)).symm

/-- **Contexts that agree on the kinds named get the same detail.** -/
theorem AnsweredAlike.detail_of_agreeOn (h : e.AnsweredAlike cache e' cache')
    (hstore : e'.store = e.store) (hkinds : e.store.Covers kinds f)
    (hagree : Context.AgreeOn kinds context context') :
    (e'.evaluate cache' f context').detail = (e.evaluate cache f context).detail := by
  have hsilent := h.telling none none
  have hroot : f.SeesAlike context context' := hkinds.root.seesAlike hagree hkinds.user
  have hreached : e.store.SeesAlike (e.store.Reaches (.flag f)) context context' :=
    fun kind key item hkey hitem =>
      (hkinds.reached kind key item hkey hitem).seesAlike hagree hkinds.user
  have hshared :
      (e.telling none).store.Shares (e'.telling none).store (e.store.Reaches (.flag f)) :=
    .reach fun kind key _ => congrArg (Store.shown? · kind key) hstore
  have hend := hsilent.evaluate fun found =>
    lockstep_check Evaluation.kept_matches hroot hreached (hsilent.alike found hshared)
      fun _ _ _ _ _ hst => ⟨rfl, hst⟩
  rw [← detail_telling_none e, ← detail_telling_none e']
  exact hend.1

end Evaluator

/-! ## More individuals -/

/-- **A context that is put together with others** agrees with the result on all kinds that the
    others do not have. -/
theorem Context.agreeOn_of_combine {before after : List Context} {context context' : Context}
    {kinds : Kind → Prop} (hcombine : combine (before ++ context :: after) = .ok context')
    (hothers : ∀ d ∈ before ++ after, ∀ k ∈ d.kinds, ¬ kinds k) :
    AgreeOn kinds context context' := by
  have hperm := individuals_combine hcombine
  have hsub : context.individuals.Sublist ((before ++ context :: after).flatMap individuals) := by
    rw [List.flatMap_append, List.flatMap_cons]
    exact (List.sublist_append_left _ _).trans (List.sublist_append_right _ _)
  have hnodup' : context'.kinds.Nodup := nodup_kinds_of_combine hcombine
  have hnodup : context.kinds.Nodup :=
    ((hperm.map Individual.kind).nodup_iff.1 hnodup').sublist (hsub.map _)
  intro k hk
  refine Option.ext fun i => ?_
  rw [ofKind?_eq_some_iff hnodup', ofKind?_eq_some_iff hnodup, hperm.mem_iff]
  -- whoever is of a kind among `kinds` is from the context itself, since the others have none of
  -- these
  refine and_congr_left fun hkind => ⟨fun hi => ?_, fun hi => hsub.subset hi⟩
  obtain ⟨d, hd, hid⟩ := List.mem_flatMap.1 hi
  obtain rfl | hd : d = context ∨ d ∈ before ++ after := by
    simp only [List.mem_append, List.mem_cons] at hd ⊢
    tauto
  · exact hid
  · exact absurd hk (hothers d hd k (List.mem_map.2 ⟨i, hid, hkind⟩))

/-! ## Main result -/

namespace Evaluator

/-- **Evaluations look at the kinds that the data name.**  Let a set of kinds have the user and all
    kinds that a flag names, or anything that the flag reaches in the store, and let none of these
    have a clause on the attribute `kind`.  Two contexts that have the same individuals of these
    kinds get the same detail, from evaluators of the same store whose outside store, if any,
    answers alike.  In particular, whoever of other kinds is put together with a context, and in
    whatever order, the detail stays the same. -/
theorem evaluate_kinds {e : Evaluator} {f : Flag} {kinds : Kind → Prop}
    (hkinds : e.store.Covers kinds f) {e' : Evaluator} (hstore : e'.store = e.store)
    {cache cache' : BigSegments.Cache} (halike : e.AnsweredAlike cache e' cache') :
    (∀ context context' : Context, (∀ k, kinds k → context'.ofKind? k = context.ofKind? k) →
      (e'.evaluate cache' f context').detail = (e.evaluate cache f context).detail) ∧
    (∀ (before after : List Context) (context context' : Context),
      (∀ d ∈ before ++ after, ∀ k ∈ d.kinds, ¬ kinds k) →
      Context.combine (before ++ context :: after) = .ok context' →
      (e'.evaluate cache' f context').detail = (e.evaluate cache f context).detail) := by
  refine ⟨fun context context' hagree => halike.detail_of_agreeOn hstore hkinds hagree, ?_⟩
  intro before after context context' hothers hcombine
  exact halike.detail_of_agreeOn hstore hkinds (Context.agreeOn_of_combine hcombine hothers)

/-! ## An instance: the tenants of a team -/

/-- A segment of one tenant. -/
def teamSegment : Segment :=
  { Segment.ofKey "team" with includedContexts := [⟨Context.tenant, KeySet.ofList ["t1"]⟩] }

/-- A flag for the team. -/
def teamFlag : Flag :=
  { Flag.ofKey "feature" with
    on := true
    rules := [⟨none, [⟨none, "", .segmentMatch, [.text "team"], false⟩], ⟨some 1, none⟩, false⟩]
    fallthrough := ⟨some 0, none⟩
    variations := [.bool false, .bool true] }

def teamStore : Store := .ofData [("feature", teamFlag)] [("team", teamSegment)]

/-- Users and tenants. -/
def teamKinds (k : Kind) : Prop := k = .user ∨ k = Context.tenant

theorem coveredBy_teamFlag : (Item.flag teamFlag).CoveredBy teamKinds where
  named k h := by
    cases h with
    | clause hc hk =>
      cases List.mem_singleton.1 hc
      cases hk
    | target ht => cases ht
    | rule hr hrollout =>
      cases List.mem_singleton.1 hr
      cases hrollout
    | fallthrough hrollout => cases hrollout
  clauses c hc := by
    cases List.mem_singleton.1 hc
    exact fun honKind => honKind.1 rfl

theorem coveredBy_teamSegment : (Item.segment teamSegment).CoveredBy teamKinds where
  named k h := by
    cases h with
    | clause hc => cases hc
    | included ht =>
      cases List.mem_singleton.1 ht
      exact .inr rfl
    | excluded ht => cases ht
    | share hr => cases hr
    | unbounded hk => cases hk
  clauses c hc := absurd hc List.not_mem_nil

/-- The team flag and the team segment name no kinds but the user and the tenant. -/
theorem covers_teamStore : teamStore.Covers teamKinds teamFlag where
  user := .inl rfl
  root := coveredBy_teamFlag
  reached kind key item _ hitem := by
    cases kind with
    | flags =>
      obtain ⟨f, hf, rfl⟩ := Option.map_eq_some_iff.1 hitem
      cases List.mem_singleton.1 (Entries.mem_of_get? (Option.filter_eq_some_iff.1 hf).1)
      exact coveredBy_teamFlag
    | segments =>
      obtain ⟨x, hx, rfl⟩ := Option.map_eq_some_iff.1 hitem
      cases List.mem_singleton.1 (Store.mem_of_segment? hx)
      exact coveredBy_teamSegment

/-- A tenant gets the same variation on a device, at another moment. -/
theorem evaluate_kinds_device :
    let early : Evaluator := { earlyEvaluator with store := teamStore }
    let late : Evaluator := { lateEvaluator with store := teamStore }
    let alone : Context := .single (Context.bare Context.tenant "t1")
    let onDevice : Context :=
      .multi [Context.bare Context.device "d1", Context.bare Context.tenant "t1"]
    teamStore.Covers teamKinds teamFlag ∧
    early.AnsweredAlike (.ofSettings .standard) late usedCache ∧
    Context.combine [.single (Context.bare Context.device "d1"), alone] = .ok onDevice ∧
    (early.evaluate (.ofSettings .standard) teamFlag alone).detail.index = some 1 ∧
    (late.evaluate usedCache teamFlag onDevice).detail =
      (early.evaluate (.ofSettings .standard) teamFlag alone).detail := by
  intro early late alone onDevice
  have halike : early.AnsweredAlike (.ofSettings .standard) late usedCache :=
    ⟨answeredAlike_lateEvaluator.bigSegments, answeredAlike_lateEvaluator.constant,
      answeredAlike_lateEvaluator.reachable, answeredAlike_lateEvaluator.status⟩
  have hcombine :
      Context.combine [.single (Context.bare Context.device "d1"), alone] = .ok onDevice := by
    have hlength : 2 ≤
        [Context.bare Context.device "d1", Context.bare Context.tenant "t1"].length :=
      Nat.le_refl 2
    exact Context.combine_singles hlength (List.pairwise_pair.2 (by decide +kernel))
  -- the device is the one individual that is added, and nothing names devices
  have hdevice : ∀ d ∈ [Context.single (Context.bare Context.device "d1")] ++ [], ∀ k ∈ d.kinds,
      ¬ teamKinds k := by
    intro d hd k hk
    cases List.mem_singleton.1 hd
    cases List.mem_singleton.1 hk
    exact fun h => h.elim (by decide +kernel) (by decide +kernel)
  have hkinds := evaluate_kinds covers_teamStore (by rfl) halike
  exact ⟨covers_teamStore, halike, hcombine, by decide +kernel,
    hkinds.2 [.single (Context.bare Context.device "d1")] [] alone onDevice hdevice hcombine⟩

/-- A clause on the attribute `kind` does tell who is there. -/
example :
    let onKind : FlagRule :=
      ⟨none, [⟨none, "kind", .isIn, [.text "device"], false⟩], ⟨some 1, none⟩, false⟩
    let index := fun context : Context =>
      (earlyEvaluator.evaluate (.ofSettings .standard) { teamFlag with rules := [onKind] }
        context).detail.index
    index (.single (Context.bare Context.tenant "t1")) = some 0 ∧
      index (.multi [Context.bare Context.device "d1", Context.bare Context.tenant "t1"]) =
        some 1 := by
  decide +kernel

end Evaluator

end FeatureFlags

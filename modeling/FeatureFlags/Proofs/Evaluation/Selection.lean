/-
  WHAT IS SELECTED — targets and servings, said without the searches that find them.

  1. **Targets** — `f.entries` are the entries that count, `f.Names context t` says that an entry
     names a context.  `targeted?` gives the variation of the FIRST entry that does.
  2. **Places** — a context stands where the first bits of a digest put it (`bucket_eq`).
  3. **Servings** — `s.Offers index`: the index is the fixed variation of a serving, or one of the
     variations of its rollout.  `select` gives nothing else.
-/
import FeatureFlags.Evaluation.Selection

namespace FeatureFlags

/-! ## Targets -/

namespace Flag

/-- The entries that decide which contexts a flag targets. -/
def entries (f : Flag) : List Target :=
  if f.contextTargets = [] then f.targets else f.contextTargets

/-- Whether an entry names a context.  Where there are context targets, an entry of users without
    keys stands for the entries of `targets` with its variation. -/
def Names (f : Flag) (context : Context) (t : Target) : Prop :=
  if f.contextTargets = [] then
    ∃ i, context.ofKind? Kind.user = some i ∧ i.key ∈ t.values.toList
  else
    ∃ i, context.ofKind? (t.contextKind.getD Kind.user) = some i ∧
      if t.contextKind.getD Kind.user = Kind.user ∧ t.values.toList = [] then
        ∃ u ∈ f.targets, u.variation = t.variation ∧ i.key ∈ u.values.toList
      else i.key ∈ t.values.toList

theorem isUser_iff (k : Kind) : k.isUser = true ↔ k = Kind.user := by
  constructor
  · intro h
    exact Kind.ext (of_decide_eq_true h)
  · rintro rfl
    rfl

/-- The program's own test of an entry, where there are context targets. -/
theorem targets?_eq_true_iff {f : Flag} {context : Context} {t : Target}
    (h : f.contextTargets ≠ []) : f.targets? context t = true ↔ f.Names context t := by
  rw [targets?, Names, if_neg h]
  cases context.ofKind? (t.contextKind.getD Kind.user) with
  | none => simp
  | some i =>
    simp only [Option.some.injEq, exists_eq_left', Bool.and_eq_true, decide_eq_true_eq, isUser_iff]
    split
    · simp [KeySet.contains]
    · simp [KeySet.contains]

/-- The search for the first entry that names a context. -/
theorem targeted?_eq (f : Flag) (context : Context) :
    ∃ names : Target → Bool, (∀ t, names t = true ↔ f.Names context t) ∧
      f.targeted? context = (f.entries.find? names).map (·.variation) := by
  by_cases h : f.contextTargets = []
  · -- only the older list: it names users, and nobody where the context has no user
    cases hi : context.ofKind? Kind.user with
    | none =>
      refine ⟨fun _ => false, fun t => by simp [Names, h, hi], ?_⟩
      have hnone : f.entries.find? (fun _ => false) = none :=
        List.find?_eq_none.2 fun _ _ => by simp
      rw [targeted?, if_pos h, hi, hnone]
      rfl
    | some i =>
      refine ⟨fun t => t.values.contains i.key, fun t => ?_, ?_⟩
      · simp [Names, h, hi, KeySet.contains]
      · simp [targeted?, entries, h, hi]
  · -- context targets name each kind by itself
    refine ⟨f.targets? context, fun t => targets?_eq_true_iff h, ?_⟩
    rw [targeted?, if_neg h, entries, if_neg h]

/-- **A target decides** exactly where an entry names the context, and then the first one does. -/
theorem targeted?_eq_some_iff {f : Flag} {context : Context} {index : VariationIndex} :
    f.targeted? context = some index ↔
      ∃ before t after, f.entries = before ++ t :: after ∧ f.Names context t ∧
        (∀ u ∈ before, ¬ f.Names context u) ∧ t.variation = index := by
  obtain ⟨names, hnames, htargeted⟩ := f.targeted?_eq context
  rw [htargeted, Option.map_eq_some_iff]
  constructor
  · rintro ⟨t, hfind, rfl⟩
    obtain ⟨ht, before, after, hsplit, hbefore⟩ := List.find?_eq_some_iff_append.1 hfind
    refine ⟨before, t, after, hsplit, (hnames t).1 ht, fun u hu hnamed => ?_, rfl⟩
    have hnot := hbefore u hu
    rw [(hnames u).2 hnamed] at hnot
    cases hnot
  · rintro ⟨before, t, after, hsplit, ht, hbefore, rfl⟩
    refine ⟨t, List.find?_eq_some_iff_append.2
      ⟨(hnames t).2 ht, before, after, hsplit, fun u hu => ?_⟩, rfl⟩
    rw [Bool.eq_false_iff.2 fun hu' => hbefore u hu ((hnames u).1 hu')]
    rfl

/-- No target decides where none names the context. -/
theorem targeted?_eq_none_iff {f : Flag} {context : Context} :
    f.targeted? context = none ↔ ∀ t ∈ f.entries, ¬ f.Names context t := by
  obtain ⟨names, hnames, htargeted⟩ := f.targeted?_eq context
  rw [htargeted, Option.map_eq_none_iff, List.find?_eq_none]
  simp only [hnames]

end Flag

/-! ## Places -/

namespace Bucketing

/-- The first 64 bits of the digest that places a context, if there is a value to digest. -/
def digested? (b : Bucketing) (context : Context) : Option UInt64 := do
  let i ← context.ofKind? b.kind
  let value ← (i.value? b.reference).bind Attribute.bucketText?
  let digest := Digest.Sha1.digest (Digest.bytesOf (b.text value i.secondary))
  pure (UInt64.ofNat (Digest.ofBigEndian (digest.take 8)))

/-- Where a context stands: at 0 if nothing is digested. -/
def position (b : Bucketing) (context : Context) : Float :=
  match b.digested? context with
  | some first => positionOf first
  | none => 0.0

/-- **Contexts have a place** if the reference that they are spread by is valid, and else there is a
    fault. -/
theorem bucket_eq (b : Bucketing) (context : Context) :
    b.bucket context =
      if b.reference.isValid then .ok ⟨b.position context, (context.ofKind? b.kind).isSome⟩
      else .error .malformedFlag := by
  rw [bucket, position, digested?]
  cases b.reference.isValid with
  | false => rfl
  | true =>
    cases context.ofKind? b.kind with
    | none => rfl
    | some i =>
      dsimp only [Option.bind_eq_bind, Option.bind_some]
      cases (i.value? b.reference).bind Attribute.bucketText? with
      | none => rfl
      | some value => rfl

/-- A context has a place exactly where the attribute reference is valid. -/
theorem bucket_eq_ok_iff {b : Bucketing} {context : Context} {place : Bucket} :
    b.bucket context = .ok place ↔
      b.reference.isValid = true ∧
        place = ⟨b.position context, (context.ofKind? b.kind).isSome⟩ := by
  rw [bucket_eq]
  split
  next hvalid => rw [Except.ok.injEq, eq_comm, and_iff_right hvalid]
  next hinvalid => exact iff_of_false nofun fun h => hinvalid h.1

end Bucketing

/-! ## Servings -/

namespace Serving

/-- The indexes that a serving has to offer. -/
def Offers (s : Serving) (index : VariationIndex) : Prop :=
  s.variation = some index ∨
    s.variation = none ∧
      ∃ r w, s.rollout = some r ∧ w ∈ r.variations ∧ w.variation = index

/-- The variation that is reached is one of the list, by the recursion of the search. -/
theorem reached?_mem {position : Float} {w : WeightedVariation} :
    ∀ {sum : Float} {variations : List WeightedVariation},
      Rollout.reached? position sum variations = some w → w ∈ variations
  | _, [], h => by cases h
  | sum, v :: rest, h => by
    rw [Rollout.reached?] at h
    split at h
    · cases h
      exact List.mem_cons_self ..
    · exact List.mem_cons_of_mem v (reached?_mem h)

/-- So is the last one, which takes what rounding leaves over. -/
theorem variationAt?_mem {r : Rollout} {position : Float} {w : WeightedVariation}
    (h : r.variationAt? position = some w) : w ∈ r.variations := by
  rcases Option.or_eq_some_iff.1 h with h | ⟨-, h⟩
  · exact reached?_mem h
  · exact List.mem_of_getLast? h

/-- **What is selected**: a fixed variation, outside of experiments; or else the variation of the
    rollout at the place of the context, in an experiment if the rollout is one, the context has its
    kind, and the variation is not left out. -/
theorem select_eq_ok_iff {s : Serving} {f : Flag} {context : Context} {selection : Selection} :
    s.select f context = .ok selection ↔
      (∃ index, s.variation = some index ∧ selection = ⟨index, false⟩) ∨
      (s.variation = none ∧ ∃ r bucket w, s.rollout = some r ∧
        (r.bucketing f).bucket context = .ok bucket ∧ r.variationAt? bucket.position = some w ∧
        selection = ⟨w.variation, r.isExperiment && bucket.hasKind && !w.untracked⟩) := by
  rw [select]
  cases hv : s.variation with
  | some index => simp [eq_comm]
  | none =>
    cases hr : s.rollout with
    | none => simp
    | some r =>
      -- a rollout without variations is malformed, and no variation is reached in it
      by_cases hempty : r.variations = []
      · have hnone : ∀ position, r.variationAt? position = none := fun position => by
          rw [Rollout.variationAt?, hempty]
          rfl
        simp [hempty, hnone]
      · cases hbucket : (r.bucketing f).bucket context with
        | error fault => simp [hempty, hbucket, bind, Except.bind]
        | ok bucket =>
          cases hw : r.variationAt? bucket.position with
          | none => simp [hempty, hbucket, hw, bind, Except.bind]
          | some w => simp [hempty, hbucket, hw, bind, Except.bind, eq_comm]

/-- **What is selected is on offer.** -/
theorem offers_of_select {s : Serving} {f : Flag} {context : Context} {selection : Selection}
    (h : s.select f context = .ok selection) : s.Offers selection.index := by
  rcases select_eq_ok_iff.1 h with ⟨index, hv, rfl⟩ | ⟨hv, r, bucket, w, hr, -, hw, rfl⟩
  · exact .inl hv
  · exact .inr ⟨hv, r, w, hr, variationAt?_mem hw, rfl⟩

end Serving

end FeatureFlags

/-
  EXPERIMENTS ARE STICKY — whoever takes part in an experiment stays with one variation.

  1. **Places (`Rollout.standing`)** — an experiment goes by the key and the second key of the
     individual of its kind.  Its reference is the key, whatever else is named, so that it is always
     valid (`bucket_of_isExperiment`).
  2. **Selection (`select_eq_of_bucket`)** — of flag and context, a selection depends on the place
     alone.
  3. **Main result** — what changes neither the place nor the variations changes no selection: other
     values and other kinds of the context, the name to go by, and, where there is a seed, key and
     salt of the flag.
-/
import FeatureFlags.Evaluation.Selection

namespace FeatureFlags

/-! ## Places -/

namespace Rollout

/-- The kind whose individuals a rollout spreads: the user, if it names none. -/
def spreadKind (r : Rollout) : Kind := r.contextKind.getD Kind.user

/-- **Where an individual stands in an experiment**: at the digest of the seed, or of key and salt
    of the flag, with its key and its second key.  Whoever lacks the kind stands at 0. -/
def standing (r : Rollout) (f : Flag) : Option Individual → Bucket
  | none => ⟨0.0, false⟩
  | some i => ⟨Bucketing.textPosition ((r.bucketing f).text i.key i.secondary), true⟩

variable {r : Rollout} {f : Flag} {context : Context}

/-- An experiment goes by the key, whatever name it is given to go by. -/
theorem reference_of_isExperiment (h : r.isExperiment = true) :
    (r.bucketing f).reference = .ofText "key" := by
  unfold Bucketing.reference
  split
  · exact if_pos h
  · rfl

theorem Individual.value?_key (i : Individual) : i.value? (.ofText "key") = some (.text i.key) := by
  have hnames : (Reference.ofText "key").names = ["key"] := by decide +kernel
  rw [Individual.value?, hnames]
  rfl

/-- **The place of a context in an experiment** is where its individual of the kind stands, and
    never an error. -/
theorem bucket_of_isExperiment (h : r.isExperiment = true) :
    (r.bucketing f).bucket context = .ok (r.standing f (context.ofKind? r.spreadKind)) := by
  have hvalid : (Reference.ofText "key").isValid = true := by decide +kernel
  unfold Bucketing.bucket
  rw [reference_of_isExperiment h, hvalid]
  show (match context.ofKind? r.spreadKind with
    | none => _
    | some i => _) = _
  cases context.ofKind? r.spreadKind with
  | none => rfl
  | some i =>
    simp only [Individual.value?_key]
    rfl

/-- Two individuals with the same keys stand at the same place, and so do two contexts without
    one. -/
theorem standing_congr {i i' : Option Individual}
    (h : Option.Rel (fun i i' => i.key = i'.key ∧ i.secondary = i'.secondary) i i') :
    r.standing f i' = r.standing f i := by
  cases h with
  | none => rfl
  | some hkeys => rw [standing, standing, hkeys.1, hkeys.2]

/-- With a seed, key and salt of the flag do not count. -/
theorem standing_of_seed {f' : Flag} (h : r.seed ≠ none) (i : Option Individual) :
    r.standing f' i = r.standing f i := by
  obtain ⟨seed, hseed⟩ := Option.ne_none_iff_exists'.1 h
  have htext : ∀ key secondary, (r.bucketing f').text key secondary =
      (r.bucketing f).text key secondary := by
    intro key secondary
    simp only [Bucketing.text, bucketing, hseed]
  cases i with
  | none => rfl
  | some i => rw [standing, standing, htext]

end Rollout

/-! ## Selection -/

namespace Serving

variable {s s' : Serving} {r r' : Rollout} {f f' : Flag} {context context' : Context}

/-- **What is selected depends on the place**: of servings with the same variations, for whatever
    flags and contexts. -/
theorem select_eq_of_bucket (hvariation : s'.variation = s.variation) (hr : s.rollout = some r)
    (hr' : s'.rollout = some r') (hkind : r'.kind = r.kind)
    (hvariations : r'.variations = r.variations)
    (hbucket : (r'.bucketing f').bucket context' = (r.bucketing f).bucket context) :
    s'.select f' context' = s.select f context := by
  have hexperiment : r'.isExperiment = r.isExperiment := by rw [Rollout.isExperiment, hkind]; rfl
  rw [select, select, hvariation, hr, hr']
  cases s.variation with
  | some index => rfl
  | none => simp only [hvariations, hbucket, hexperiment, Rollout.variationAt?]

/-! ## Main result -/

/-- **Who takes part in an experiment stays with one variation.**  A context stands where the key
    and the second key of its individual of the kind put it.  So contexts that both lack the kind,
    or have individuals of the kind with the same key and the same second key, are given the same
    index, and both or neither of them as part of the experiment.  The name to go by counts for
    nothing, be it a valid reference or not; and if there is a seed, key and salt of the flag count
    for nothing. -/
theorem select_sticky (hr : s.rollout = some r) (hexperiment : r.isExperiment = true) :
    (r.bucketing f).bucket context = .ok (r.standing f (context.ofKind? r.spreadKind)) ∧
    (∀ context', Option.Rel (fun i i' => i.key = i'.key ∧ i.secondary = i'.secondary)
        (context.ofKind? r.spreadKind) (context'.ofKind? r.spreadKind) →
      s.select f context' = s.select f context) ∧
    (∀ bucketBy, ({ s with rollout := some { r with bucketBy } } : Serving).select f context =
      s.select f context) ∧
    (r.seed ≠ none → ∀ key salt, s.select { f with key, salt } context = s.select f context) := by
  have hplace : ∀ f context,
      (r.bucketing f).bucket context = .ok (r.standing f (context.ofKind? r.spreadKind)) :=
    fun _ _ => Rollout.bucket_of_isExperiment hexperiment
  refine ⟨hplace f context, fun context' hkeys => ?_, fun bucketBy => ?_, fun hseed key salt => ?_⟩
  · refine select_eq_of_bucket rfl hr hr rfl rfl ?_
    rw [hplace, hplace, Rollout.standing_congr hkeys]
  · refine select_eq_of_bucket rfl hr rfl rfl rfl ?_
    rw [hplace, Rollout.bucket_of_isExperiment (r := { r with bucketBy }) hexperiment]
    rfl
  · refine select_eq_of_bucket rfl hr hr rfl rfl ?_
    rw [hplace, hplace, Rollout.standing_of_seed hseed]

/-- An experiment with a seed, which is told to go by a plan. -/
def planExperiment : Rollout :=
  ⟨.experiment, none, some "plan", some 7, [⟨0, 50000, false⟩, ⟨1, 50000, false⟩]⟩

/-- A phone to take part on. -/
def phone : Individual := ⟨⟨"phone", by decide +kernel⟩, "p1", none, false, none, [], []⟩

/-- A user with a plan stays where it is with another plan and on a phone, if the name to go by
    becomes no reference at all, and in a flag with another key. -/
theorem select_sticky_plans :
    let s : Serving := ⟨none, some planExperiment⟩
    let f := Flag.ofKey "color"
    let amy (plan : String) : Individual :=
      ⟨.user, "amy", none, false, none, [("plan", .text plan)], []⟩
    s.select f (.single (amy "free")) = .ok ⟨0, true⟩ ∧
    s.select f (.multi [phone, amy "paid"]) = .ok ⟨0, true⟩ ∧
    (Reference.literal "").isValid = false ∧
    Serving.select ⟨none, some { planExperiment with bucketBy := some "" }⟩ f
      (.single (amy "free")) = .ok ⟨0, true⟩ ∧
    s.select { f with key := "colour", salt := "s" } (.single (amy "free")) = .ok ⟨0, true⟩ := by
  intro s f amy
  obtain ⟨-, hcontext, hbucketBy, hflag⟩ :=
    @select_sticky s planExperiment f (.single (amy "free")) rfl (by decide)
  -- the two Amys differ in their plans only
  have hkeys : Option.Rel (fun i i' : Individual => i.key = i'.key ∧ i.secondary = i'.secondary)
      (some (amy "free")) (some (amy "paid")) := .some ⟨rfl, rfl⟩
  have hfirst : s.select f (.single (amy "free")) = .ok ⟨0, true⟩ := by
    have hsome : (s.select f (.single (amy "free"))).toOption = some ⟨0, true⟩ := by decide +kernel
    cases hselect : s.select f (.single (amy "free")) with
    | error fault =>
      rw [hselect] at hsome
      cases hsome
    | ok selection =>
      rw [hselect] at hsome
      exact congrArg Except.ok (Option.some.inj hsome)
  refine ⟨hfirst, ?_, by decide +kernel, (hbucketBy (some "")).trans hfirst, ?_⟩
  · exact (hcontext (.multi [phone, amy "paid"]) hkeys).trans hfirst
  · exact (hflag (by decide) "colour" "s").trans hfirst

end Serving

end FeatureFlags

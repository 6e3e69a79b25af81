/-
  SELECTING A VARIATION — targets, rollouts, and what is served for an index.
-/
import FeatureFlags.Evaluation.Bucket

namespace FeatureFlags

/-- The part of the whole that a weight stands for. -/
def share (weight : UInt32) : Float := weight.toFloat / 100000.0

namespace Rollout

/-- The first variation whose share, added to the shares before it, reaches beyond a position. -/
def reached? (position : Float) (sum : Float) : List WeightedVariation → Option WeightedVariation
  | [] => none
  | w :: rest =>
    if position < sum + share w.weight then some w
    else reached? position (sum + share w.weight) rest

/-- The variation at a position.  What the shares leave over goes to the last variation. -/
def variationAt? (r : Rollout) (position : Float) : Option WeightedVariation :=
  (reached? position 0.0 r.variations).or r.variations.getLast?

/-- How a rollout of a flag spreads contexts. -/
def bucketing (r : Rollout) (f : Flag) : Bucketing where
  contextKind := r.contextKind
  bucketBy := r.bucketBy
  experiment := r.isExperiment
  key := f.key
  salt := f.salt
  seed := r.seed

end Rollout

/-- An index, and whether it was served as part of an experiment. -/
structure Selection where
  index : VariationIndex
  inExperiment : Bool
deriving DecidableEq

namespace Serving

/-- **What a rule or a fallthrough serves to a context.** -/
def select (s : Serving) (f : Flag) (context : Context) : Except Fault Selection :=
  match s.variation, s.rollout with
  | some index, _ => .ok ⟨index, false⟩
  | none, none => .error .malformedFlag
  | none, some r =>
    if r.variations = [] then .error .malformedFlag
    else do
      let bucket ← (r.bucketing f).bucket context
      match r.variationAt? bucket.position with
      | none => .error .malformedFlag
      | some w => .ok ⟨w.variation, r.isExperiment && bucket.hasKind && !w.untracked⟩

end Serving

namespace Flag

/-- Whether a context target holds for a context.  An empty target of users stands for the user
    target of the same variation. -/
def targets? (f : Flag) (context : Context) (t : Target) : Bool :=
  let kind := t.contextKind.getD Kind.user
  match context.ofKind? kind with
  | none => false
  | some i =>
    if kind.isUser && t.values.toList = [] then
      f.targets.any fun u => u.variation = t.variation && u.values.contains i.key
    else t.values.contains i.key

/-- **The variation of the first target that names the context.** -/
def targeted? (f : Flag) (context : Context) : Option VariationIndex :=
  if f.contextTargets = [] then
    (context.ofKind? Kind.user).bind fun i =>
      (f.targets.find? fun t => t.values.contains i.key).map (·.variation)
  else (f.contextTargets.find? (f.targets? context)).map (·.variation)

end Flag

end FeatureFlags

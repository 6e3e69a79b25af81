/-
  BUCKETS — spreading contexts evenly over the interval from 0 to 1.

  The place of a context is a digest of the key and salt of a flag (or of a seed) and of one value
  of the context, cut to 60 bits and divided by 2⁶⁰ - 1.  The same context has the same place each
  time.  A context without that value stands at 0.
-/
import FeatureFlags.Context.Attribute
import FeatureFlags.Context.Basic
import FeatureFlags.Digest.Sha1
import FeatureFlags.Evaluation.Reason

namespace FeatureFlags

/-- What the place of a context depends on. -/
structure Bucketing where
  /-- Whose value counts.  Without a kind, `bucketBy` is a plain name of the user. -/
  contextKind : Option Kind
  /-- Which value counts; the key if none is named. -/
  bucketBy : Option String
  /-- Experiments always go by the key. -/
  experiment : Bool
  key : String
  salt : String
  /-- Stands for key and salt. -/
  seed : Option Int64
deriving DecidableEq

/-- Where a context stands. -/
structure Bucket where
  position : Float
  /-- Whether the context has the kind that counts. -/
  hasKind : Bool
deriving DecidableEq

namespace Bucketing

/-- The place that the first eight bytes of a digest stand for. -/
def positionOf (first : UInt64) : Float :=
  (first >>> 4).toFloat / (0xFFFFFFFFFFFFFFF : UInt64).toFloat

/-- The place of a text. -/
def textPosition (text : String) : Float :=
  let digest := Digest.Sha1.digest (Digest.bytesOf text)
  positionOf (UInt64.ofNat (Digest.ofBigEndian (digest.take 8)))

/-- The value that counts. -/
def reference (b : Bucketing) : Reference :=
  match b.bucketBy with
  | some name =>
    if b.experiment then Reference.ofText "key"
    else match b.contextKind with
      | some _ => Reference.ofText name
      | none => Reference.literal name
  | none => Reference.ofText "key"

def kind (b : Bucketing) : Kind := b.contextKind.getD Kind.user

/-- The text that is digested. -/
def text (b : Bucketing) (value : String) (secondary : Option String) : String :=
  (match b.seed with
    | some seed => toString seed.toInt
    | none => b.key ++ "." ++ b.salt) ++ "." ++ value ++
  (match secondary with
    | some s => "." ++ s
    | none => "")

/-- **The place of a context.** -/
def bucket (b : Bucketing) (context : Context) : Except Fault Bucket :=
  if !b.reference.isValid then .error .malformedFlag
  else match context.ofKind? b.kind with
    | none => .ok ⟨0.0, false⟩
    | some i =>
      match (i.value? b.reference).bind Attribute.bucketText? with
      | none => .ok ⟨0.0, true⟩
      | some value => .ok ⟨textPosition (b.text value i.secondary), true⟩

end Bucketing

end FeatureFlags

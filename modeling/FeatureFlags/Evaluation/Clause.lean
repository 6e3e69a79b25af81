/-
  CLAUSES AT WORK — whether a context satisfies a clause.

  A clause speaks about one individual of the context, the one of the clause's kind, and about one
  value of it.  If that value is a list, one fitting item is enough.  Negation turns the answer only
  where there is a value: a context without it satisfies neither the clause nor its negation.

  A clause on the attribute `kind` speaks about the kinds of the whole context.
-/
import FeatureFlags.Context.Basic
import FeatureFlags.Evaluation.Operator
import FeatureFlags.Evaluation.Reason

namespace FeatureFlags.Clause

/-- Turn an answer if the clause is negated. -/
def turned (c : Clause) (answer : Bool) : Bool := c.negate != answer

/-- Whether one of the values of a clause fits. -/
def fits (c : Clause) (value : Attribute) : Bool := c.values.any fun v => c.op.holds value v

/-- Whether a value fits, or an item of it if it is a list. -/
def fitsAny (c : Clause) : Attribute → Bool
  | .list items => items.any c.fits
  | value => c.fits value

/-- The value a clause speaks about. -/
def subject? (c : Clause) (context : Context) : Option Attribute :=
  (context.ofKind? c.kind).bind fun i => i.value? c.reference

/-- **Whether a context satisfies a clause**, segments aside. -/
def holds (c : Clause) (context : Context) : Except Fault Bool :=
  if !c.reference.isValid then .error .malformedFlag
  else if c.reference.names = ["kind"] then
    .ok (c.turned (context.kinds.any fun k => c.fits (.text k.name)))
  else match c.subject? context with
    | none => .ok false
    | some value => .ok (c.turned (c.fitsAny value))

end FeatureFlags.Clause

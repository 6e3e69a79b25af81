/-
  CLAUSES — the single conditions that rules are made of.
-/
import FeatureFlags.Context.Kind
import FeatureFlags.Context.Reference
import FeatureFlags.Json.Basic

namespace FeatureFlags

/-- How a clause compares an attribute with its values. -/
inductive Operator where
  | isIn
  | endsWith
  | startsWith
  | matchesPattern
  | contains
  | lessThan
  | lessThanOrEqual
  | greaterThan
  | greaterThanOrEqual
  | before
  | after
  | segmentMatch
  | versionEqual
  | versionLessThan
  | versionGreaterThan
  /-- An operator this library does not know.  It never matches. -/
  | unknown
deriving DecidableEq, Repr

namespace Operator

/-- The name of an operator in flag data. -/
def name : Operator → String
  | isIn => "in"
  | endsWith => "endsWith"
  | startsWith => "startsWith"
  | matchesPattern => "matches"
  | contains => "contains"
  | lessThan => "lessThan"
  | lessThanOrEqual => "lessThanOrEqual"
  | greaterThan => "greaterThan"
  | greaterThanOrEqual => "greaterThanOrEqual"
  | before => "before"
  | after => "after"
  | segmentMatch => "segmentMatch"
  | versionEqual => "semVerEqual"
  | versionLessThan => "semVerLessThan"
  | versionGreaterThan => "semVerGreaterThan"
  | unknown => "unknown"

/-- Every operator that flag data can name. -/
def all : List Operator :=
  [isIn, endsWith, startsWith, matchesPattern, contains, lessThan, lessThanOrEqual, greaterThan,
    greaterThanOrEqual, before, after, segmentMatch, versionEqual, versionLessThan,
    versionGreaterThan]

/-- The operator of a name. -/
def ofName (name : String) : Operator := (all.find? fun op => op.name = name).getD unknown

theorem ofName_name (op : Operator) : ofName op.name = op := by cases op <;> decide

end Operator

/-- **A clause**: an attribute, an operator and values, one of which must fit. -/
structure Clause where
  /-- Whose attribute it is.  Without a kind, the attribute is a plain name of the user. -/
  contextKind : Option Kind
  attributeName : String
  op : Operator
  values : List Attribute
  negate : Bool
deriving DecidableEq

namespace Clause

/-- The attribute a clause reads: a reference if the clause names a kind, else a plain name. -/
def reference (c : Clause) : Reference :=
  match c.contextKind with
  | some _ => Reference.ofText c.attributeName
  | none => Reference.literal c.attributeName

/-- The kind whose attribute a clause reads. -/
def kind (c : Clause) : Kind := c.contextKind.getD Kind.user

end Clause

end FeatureFlags

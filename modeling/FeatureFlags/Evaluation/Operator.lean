/-
  OPERATORS AT WORK — comparing one attribute value with one clause value.

  An operator holds only between values it understands: texts for the text, pattern and version
  operators, numbers for the orders, instants for the dates.  Between other values it does not hold.
  Equality alone applies to everything, and two values of different types are never equal.
-/
import FeatureFlags.Context.Attribute
import FeatureFlags.Flag.Clause
import FeatureFlags.Pattern.Parser
import FeatureFlags.Version

namespace FeatureFlags.Operator

/-- A relation between readings of two values, which holds only if both have the reading. -/
def holdsBetween {α : Type} (read : Attribute → Option α) (relation : α → α → Bool)
    (a b : Attribute) : Bool :=
  match read a, read b with
  | some x, some y => relation x y
  | _, _ => false

/-- A relation between texts, as lists of characters. -/
def betweenTexts (relation : List Char → List Char → Bool) : Attribute → Attribute → Bool :=
  holdsBetween (fun a => a.text?.map String.toList) relation

/-- An order between versions. -/
def betweenVersions (order : Ordering) : Attribute → Attribute → Bool :=
  holdsBetween (fun a => a.text?.bind Version.ofText?) fun x y => x.order y = order

/-- Whether a pattern occurs in a text.  A text that is no pattern occurs nowhere. -/
def patternOccurs (text pattern : String) : Bool :=
  match Pattern.ofText? pattern with
  | some p => p.matchesIn text
  | none => false

/-- Whether a text has a part somewhere. -/
def hasPart (part : List Char) : List Char → Bool
  | [] => part.isEmpty
  | c :: rest => part.isPrefixOf (c :: rest) || hasPart part rest

/-- **Whether an operator holds** between the value of an attribute and a value of a clause. -/
def holds : Operator → Attribute → Attribute → Bool
  | isIn => fun a b => Document.equal a b
  | startsWith => betweenTexts fun text part => part.isPrefixOf text
  | endsWith => betweenTexts fun text part => part.isSuffixOf text
  | contains => betweenTexts fun text part => hasPart part text
  | matchesPattern => holdsBetween Document.text? patternOccurs
  | lessThan => holdsBetween Document.number? fun x y => x < y
  | lessThanOrEqual => holdsBetween Document.number? fun x y => x ≤ y
  | greaterThan => holdsBetween Document.number? fun x y => y < x
  | greaterThanOrEqual => holdsBetween Document.number? fun x y => y ≤ x
  | before => holdsBetween Attribute.instant? fun x y => x < y
  | after => holdsBetween Attribute.instant? fun x y => y < x
  | versionEqual => betweenVersions .eq
  | versionLessThan => betweenVersions .lt
  | versionGreaterThan => betweenVersions .gt
  | segmentMatch | unknown => fun _ _ => false

end FeatureFlags.Operator

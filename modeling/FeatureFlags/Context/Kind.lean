/-
  KINDS — the named categories of contexts, such as `user` or `organization`.

  A kind is a text that satisfies `Kind.Valid`: it is not empty, it is not `kind`, and it consists
  of ASCII letters, digits, dots, underscores and hyphens.  A value of type `Kind` carries the
  proof, so a kind holds no colon and no percent sign: canonical keys rely on that.

  `multi` is a valid kind, but no single context may have it.
-/
import FeatureFlags.Text.Quoted

namespace FeatureFlags

/-- Why something is not a context. -/
inductive ContextError where
  | emptyKind
  | reservedKind
  | kindCharacters (kind : String)
  | singleMulti
  | emptyKey
  | noContexts
  | repeatedKind (kind : String)
  | notAnObject
  | memberNotAnObject (kind : String)
  | kindNotText
  | keyNotText
  | nameNotText
  | anonymousNotBool
  | userKeyNotText
deriving DecidableEq, Repr

/-- The wording of a context error. -/
def ContextError.message : ContextError → String
  | emptyKind => "context kind cannot be empty"
  | reservedKind => "\"kind\" is not a valid context kind"
  | kindCharacters kind => "context kind " ++ Text.quoted kind ++ " contains disallowed characters"
  | singleMulti => "single context cannot have kind \"multi\""
  | emptyKey => "context key must not be empty"
  | noContexts => "multi-kind context must contain at least one context"
  | repeatedKind kind =>
    "multi-kind context contains kind " ++ Text.quoted kind ++ " more than once"
  | notAnObject => "context must be a JSON object"
  | memberNotAnObject kind => "context of kind " ++ Text.quoted kind ++ " must be a JSON object"
  | kindNotText => "context kind must be a string"
  | keyNotText => "context key must be a string"
  | nameNotText => "context name must be a string"
  | anonymousNotBool => "context anonymous must be a boolean"
  | userKeyNotText => "user key must be a string"

namespace Kind

/-- The characters of a kind. -/
def isKindChar (c : Char) : Bool := c.isAlphanum || c = '.' || c = '_' || c = '-'

/-- Which texts are kinds. -/
def Valid (name : String) : Prop :=
  name ≠ "" ∧ name ≠ "kind" ∧ name.toList.all isKindChar = true

instance (name : String) : Decidable (Valid name) := inferInstanceAs (Decidable (_ ∧ _ ∧ _))

end Kind

/-- A named category of contexts. -/
structure Kind where
  name : String
  valid : Kind.Valid name
deriving DecidableEq

namespace Kind

@[ext] theorem ext {a b : Kind} (h : a.name = b.name) : a = b := by
  cases a; cases b; simp_all

/-- The kind of contexts that do not name one. -/
def user : Kind := ⟨"user", by decide +kernel⟩

/-- The kind that a context of several kinds shows. -/
def multi : Kind := ⟨"multi", by decide +kernel⟩

instance : Inhabited Kind := ⟨user⟩

def isUser (k : Kind) : Bool := k.name = "user"

def isMulti (k : Kind) : Bool := k.name = "multi"

/-- **Read a kind.**  Emptiness is reported first, then the reserved word, then the characters. -/
def ofText (name : String) : Except ContextError Kind :=
  if h : Valid name then .ok ⟨name, h⟩
  else if name = "" then .error .emptyKind
  else if name = "kind" then .error .reservedKind
  else .error (.kindCharacters name)

theorem ofText_name (k : Kind) : ofText k.name = .ok k := by
  simp [ofText, k.valid]

theorem valid_of_ofText {name : String} {k : Kind} (h : ofText name = .ok k) : k.name = name := by
  unfold ofText at h
  split at h
  · injection h with h; rw [← h]
  · split at h
    · cases h
    · split at h <;> cases h

end Kind

end FeatureFlags

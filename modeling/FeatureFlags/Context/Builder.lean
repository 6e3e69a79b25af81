/-
  BUILDING CONTEXTS — step by step, with all checks at the end.

  1. **One individual** — a `Builder` takes kind and key as plain texts; `Builder.setValue` sends
     the built-in names to their own fields; `Builder.build` checks the kind, then the key.
  2. **Several** — `Context.combine` takes contexts apart into their individuals and sorts these by
     kind; two of one kind are an error, and one alone is itself the result.
-/
import FeatureFlags.Context.Basic

namespace FeatureFlags

/-- An individual in the making. -/
structure Builder where
  kind : String
  key : String
  name : Option String
  anonymous : Bool
  secondary : Option String
  attributes : Entries Attribute
  privateAttributes : List Reference
deriving DecidableEq

namespace Builder

/-- A user with the given key and nothing else. -/
def ofKey (key : String) : Builder := ⟨"user", key, none, false, none, [], []⟩

/-- Set the value of a name.  A built-in name takes only values of its type and ignores others; an
    attribute that is set to null is removed. -/
def setValue (b : Builder) (name : String) (value : Attribute) : Builder :=
  match name, value with
  | "kind", .text kind => { b with kind }
  | "kind", _ => b
  | "key", .text key => { b with key }
  | "key", _ => b
  | "name", .text n => { b with name := some n }
  | "name", .null => { b with name := none }
  | "name", _ => b
  | "anonymous", .bool anonymous => { b with anonymous }
  | "anonymous", _ => b
  | "_meta", _ => b
  | name, .null => { b with attributes := Entries.erase name b.attributes }
  | name, value => { b with attributes := Entries.insert name value b.attributes }

/-- Mark one more attribute as private. -/
def addPrivate (b : Builder) (r : Reference) : Builder :=
  { b with privateAttributes := b.privateAttributes ++ [r] }

/-- **The individual**, if its kind and key are in order. -/
def build (b : Builder) : Except ContextError Individual :=
  match Kind.ofText b.kind with
  | .error e => .error e
  | .ok kind =>
    if kind.isMulti then .error .singleMulti
    else if b.key = "" then .error .emptyKey
    else .ok ⟨kind, b.key, b.name, b.anonymous, b.secondary, b.attributes, b.privateAttributes⟩

end Builder

namespace Context

/-- Individuals in the order of their kinds; equal kinds keep their order. -/
def sortByKind (members : List Individual) : List Individual :=
  members.mergeSort fun a b => a.kind.name ≤ b.kind.name

/-- The first kind that two neighbours share. -/
def repeatedKind? : List Individual → Option Kind
  | a :: b :: rest => if a.kind = b.kind then some a.kind else repeatedKind? (b :: rest)
  | _ => none

/-- **The context of several contexts**, which may have several individuals themselves. -/
def combine (contexts : List Context) : Except ContextError Context :=
  match contexts.flatMap individuals with
  | [] => .error .noContexts
  | [individual] => .ok (.single individual)
  | members =>
    let sorted := sortByKind members
    match repeatedKind? sorted with
    | some kind => .error (.repeatedKind kind.name)
    | none => .ok (.multi sorted)

end Context

end FeatureFlags

/-
  CONTEXTS — whom a flag is evaluated for.

  A context is one `Individual` (a user, an organization, a device) or several of different kinds.

  1. **Looking up** — `Individual.value?` resolves a reference: the built-in names first, then the
     attributes, and from there through objects.  Null counts as no value.
  2. **Identity** — `Context.keys` maps each kind to the key of its individual; `canonicalKey`
     writes that map as one text.  Keys are escaped there so that the colons between the parts are
     the only ones, except that a single user is known by its bare key.
-/
import FeatureFlags.Context.Attribute
import FeatureFlags.Context.Kind
import FeatureFlags.Context.Reference

namespace FeatureFlags

/-- A context of one kind. -/
structure Individual where
  kind : Kind
  key : String
  name : Option String
  anonymous : Bool
  /-- A second key that takes part in bucketing only. -/
  secondary : Option String
  attributes : Entries Attribute
  /-- Attributes that analytics events must not show. -/
  privateAttributes : List Reference
deriving DecidableEq

/-- **A context**: one individual, or several. -/
inductive Context where
  | single (individual : Individual)
  | multi (members : List Individual)
deriving DecidableEq

/-! ## Looking up -/

namespace Individual

/-- The value under a name at the top of an individual. -/
def member? (i : Individual) (name : String) : Option Attribute :=
  match name with
  | "kind" => some (.text i.kind.name)
  | "key" => some (.text i.key)
  | "name" => i.name.map .text
  | "anonymous" => some (.bool i.anonymous)
  | name => Entries.get? name i.attributes

/-- **The value a reference leads to.**  Null is no value. -/
def value? (i : Individual) (r : Reference) : Option Attribute :=
  match r.names with
  | [] => none
  | first :: rest => ((i.member? first).bind (Document.at? rest)).filter fun v => !v.isNull

/-- A key as a part of a canonical key. -/
def escapeKey (key : List Char) : List Char :=
  key.flatMap fun c =>
    if c = '%' then ['%', '2', '5'] else if c = ':' then ['%', '3', 'A'] else [c]

/-- Kind and key as one text. -/
def qualifiedKey (i : Individual) : String :=
  i.kind.name ++ ":" ++ String.ofList (escapeKey i.key.toList)

end Individual

namespace Context

/-- The individuals of a context. -/
def individuals : Context → List Individual
  | single i => [i]
  | multi members => members

def isMulti : Context → Bool
  | single _ => false
  | multi _ => true

/-- The kind a context shows as a whole. -/
def kind : Context → Kind
  | single i => i.kind
  | multi _ => .multi

/-- The kinds of the individuals. -/
def kinds (c : Context) : List Kind := c.individuals.map (·.kind)

/-- The individual of a kind. -/
def ofKind? (c : Context) (k : Kind) : Option Individual :=
  c.individuals.find? fun i => i.kind = k

/-- The key of each kind. -/
def keys (c : Context) : Entries String :=
  Entries.ofList (c.individuals.map fun i => (i.kind.name, i.key))

/-- The value a reference leads to, in a context of one individual. -/
def value? (c : Context) (r : Reference) : Option Attribute :=
  match c with
  | single i => i.value? r
  | multi _ => none

/-- **One text for a context's kinds and keys.** -/
def canonicalKey : Context → String
  | single i => if i.kind.isUser then i.key else i.qualifiedKey
  | multi members => String.intercalate ":" (members.map (·.qualifiedKey))

end Context

end FeatureFlags

/-
  REDACTION — contexts as events show them.

  Kind, key and anonymity are always shown.  Everything else is shown unless it is private: for all
  contexts by configuration, or for one individual by its own list.  What was taken out is named
  under `_meta`.
-/
import FeatureFlags.Context.Basic

namespace FeatureFlags

/-- What is private in every context. -/
structure Redaction where
  everything : Bool
  references : List Reference
deriving DecidableEq

namespace Redaction

/-- Take out what stands at a path of member names; none if there is nothing. -/
def erase? : List String → Entries Json → Option (Entries Json)
  | [], _ => none
  | name :: path, fields =>
    match path, Entries.get? name fields with
    | _, none => none
    | [], some _ => some (Entries.erase name fields)
    | path, some (.object inner) =>
      (erase? path inner).map fun rest => Entries.insert name (.object rest) fields
    | _, some _ => none

/-- The attributes of an individual, its name among them. -/
def shown (i : Individual) : Entries Json :=
  Entries.ofList <|
    (match i.name with
      | none => []
      | some name => [("name", Document.text name)]) ++
    Entries.mapValues Attribute.toJson i.attributes

/-- Attributes that are left, with the names of those taken out. -/
structure Result where
  attributes : Entries Json
  redacted : List String

/-- Take out what one reference names. -/
def step (r : Result) (reference : Reference) : Result :=
  match erase? reference.names r.attributes with
  | none => r
  | some attributes =>
    ⟨attributes,
      if reference.text ∈ r.redacted then r.redacted else r.redacted ++ [reference.text]⟩

/-- Take out what is private in an individual. -/
def apply (r : Redaction) (i : Individual) : Result :=
  let attributes := shown i
  if r.everything then ⟨[], Entries.names attributes⟩
  else (r.references ++ i.privateAttributes).foldl step ⟨attributes, []⟩

/-- The members of an individual in an event. -/
def members (r : Redaction) (i : Individual) (withKind : Bool) : Entries Json :=
  let result := r.apply i
  Entries.ofList <|
    (if withKind then [("kind", Document.text i.kind.name)] else []) ++
    [("key", .text i.key)] ++
    (if i.anonymous then [("anonymous", .bool true)] else []) ++
    result.attributes ++
    (if result.redacted = [] then []
      else [("_meta", Json.ofMembers [("redactedAttributes", Json.ofTexts result.redacted)])])

/-- **A context as events show it.** -/
def filter (r : Redaction) : Context → Json
  | .single i => .object (r.members i true)
  | .multi individuals =>
    Json.ofMembers <| ("kind", .text "multi") ::
      individuals.map fun i => (i.kind.name, .object (r.members i false))

end Redaction

end FeatureFlags

/-
  CONTEXTS AS JSON.

  A context is written as one object: an individual with its kind, or `multi` with the individuals
  under the names of their kinds.  It is read from three forms:

  1. **One kind** — `kind` names it, the other members are built-in names and attributes.
  2. **Several kinds** — `kind` is `multi`, and every other member is an individual under its kind.
  3. **The old user form** — without `kind`: a few known members, and further ones under `custom`.

  Members are taken in the order of their names, and each acts on a `Builder` as it comes; the first
  fault met is the one reported.
-/
import FeatureFlags.Context.Builder

namespace FeatureFlags

/-! ## Writing -/

namespace Individual

/-- What stands under `_meta`. -/
def metaMembers (i : Individual) : Entries Json :=
  Entries.ofList <|
    (if i.privateAttributes = [] then [] else
      [("privateAttributes", Json.ofTexts (i.privateAttributes.map (·.text)))]) ++
    (match i.secondary with
      | none => []
      | some s => [("secondary", Document.text s)])

/-- The members of an individual, with or without its kind. -/
def members (i : Individual) (withKind : Bool) : Entries Json :=
  Entries.ofList <|
    (if withKind then [("kind", Document.text i.kind.name)] else []) ++
    [("key", .text i.key)] ++
    (match i.name with
      | none => []
      | some name => [("name", Document.text name)]) ++
    (if i.anonymous then [("anonymous", .bool true)] else []) ++
    Entries.mapValues Attribute.toJson i.attributes ++
    (if i.metaMembers = [] then [] else [("_meta", .object i.metaMembers)])

end Individual

namespace Context

/-- **Write a context.** -/
def toJson : Context → Json
  | single i => .object (i.members true)
  | multi individuals =>
    Json.ofMembers <| ("kind", .text "multi") ::
      individuals.map fun i => (i.kind.name, .object (i.members false))

/-! ## Reading -/

/-- The texts of a list; what is not a text is left out. -/
def textsOf (items : List Json) : List String := items.filterMap Document.text?

/-- Take the `_meta` object of an individual. -/
def takeMeta (b : Builder) (fields : Entries Json) : Builder :=
  let b := match Entries.get? "privateAttributes" fields with
    | some (.list items) => (textsOf items).foldl (fun b s => b.addPrivate (Reference.ofText s)) b
    | _ => b
  match Entries.get? "secondary" fields with
  | some (.text s) => { b with secondary := some s }
  | _ => b

/-- Take one member of an individual. -/
def takeMember (b : Builder) (name : String) (value : Json) : Except ContextError Builder :=
  match name, value with
  | "key", .text key => .ok { b with key }
  | "key", _ => .error .keyNotText
  | "name", .text n => .ok { b with name := some n }
  | "name", .null => .ok b
  | "name", _ => .error .nameNotText
  | "anonymous", .bool anonymous => .ok { b with anonymous }
  | "anonymous", .null => .ok b
  | "anonymous", _ => .error .anonymousNotBool
  | "_meta", .object fields => .ok (takeMeta b fields)
  | "_meta", _ => .ok b
  | name, value => .ok (b.setValue name (Json.toAttribute value))

/-- An individual from its kind and its members. -/
def readIndividual (kind : String) (fields : Entries Json) : Except ContextError Individual :=
  (fields.foldlM (fun b field => takeMember b field.1 field.2)
    { Builder.ofKey "" with kind }).bind Builder.build

/-- The members of the old user form that are attributes. -/
def oldAttributes : List String :=
  ["firstName", "lastName", "email", "avatar", "ip", "country"]

/-- Take one member of the old user form. -/
def takeOldMember (b : Builder) (name : String) (value : Json) : Except ContextError Builder :=
  match name, value with
  | "key", .text key => .ok { b with key }
  | "key", _ => .error .userKeyNotText
  | "name", .text n => .ok { b with name := some n }
  | "anonymous", .bool anonymous => .ok { b with anonymous }
  | "secondary", .text s => .ok { b with secondary := some s }
  | "custom", .object custom =>
    .ok (custom.foldl (fun b field => b.setValue field.1 (Json.toAttribute field.2)) b)
  | "privateAttributeNames", .list items =>
    .ok ((textsOf items).foldl (fun b s => b.addPrivate (Reference.literal s)) b)
  | name, .text s => .ok (if name ∈ oldAttributes then b.setValue name (.text s) else b)
  | _, _ => .ok b

/-- A user from its old form. -/
def readOldUser (fields : Entries Json) : Except ContextError Individual :=
  (fields.foldlM (fun b field => takeOldMember b field.1 field.2) (Builder.ofKey "")).bind
    Builder.build

/-- One member of a context of several kinds. -/
def readMember (field : String × Json) : Except ContextError Context :=
  match field.2 with
  | .object fields => (readIndividual field.1 fields).map .single
  | _ => .error (.memberNotAnObject field.1)

/-- **Read a context.** -/
def ofJson (j : Json) : Except ContextError Context :=
  match j with
  | .object fields =>
    let others := Entries.erase "kind" fields
    match Entries.get? "kind" fields with
    | none => (readOldUser others).map .single
    | some (.text "multi") => (others.mapM readMember).bind combine
    | some (.text kind) => (readIndividual kind others).map .single
    | some _ => .error .kindNotText
  | _ => .error .notAnObject

end Context

end FeatureFlags

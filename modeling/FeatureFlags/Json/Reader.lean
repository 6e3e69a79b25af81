/-
  READING JSON — from tokens to a document.

  `Json.ofTokens?` keeps a stack of the lists and objects that are still open, innermost first, and
  what may come next.  A finished value goes into the innermost open one.  Of two members with one
  name the later one counts.
-/
import FeatureFlags.Json.Token

namespace FeatureFlags.Json

/-- A list or an object that is still open. -/
inductive Open where
  /-- The items so far, last first. -/
  | list (items : List Json)
  /-- The members so far, and the name that waits for its value. -/
  | object (fields : Entries Json) (name : String)

/-- What may come next. -/
inductive Expected where
  | value
  | valueOrClose
  | name
  | nameOrClose
  | colon
  | commaOrClose
  | nothing
deriving DecidableEq

/-- A text read so far: the open lists and objects, what may come next, and the finished value. -/
structure Reading where
  stack : List Open
  expected : Expected
  result : Option Json

namespace Reading

def start : Reading := ⟨[], .value, none⟩

/-- A value is complete. -/
def put (r : Reading) (value : Json) : Reading :=
  match r.stack with
  | [] => ⟨[], .nothing, some value⟩
  | .list items :: rest => ⟨.list (value :: items) :: rest, .commaOrClose, none⟩
  | .object fields name :: rest =>
    ⟨.object (Entries.insert name value fields) "" :: rest, .commaOrClose, none⟩

def wantsValue (r : Reading) : Bool := r.expected = .value || r.expected = .valueOrClose

def wantsName (r : Reading) : Bool := r.expected = .name || r.expected = .nameOrClose

/-- Read one token. -/
def step? (r : Reading) (token : Token) : Option Reading :=
  match token, r.stack with
  | .atom (.text name), .object fields _ :: rest =>
    if r.wantsName then some ⟨.object fields name :: rest, .colon, none⟩
    else if r.wantsValue then some (r.put (.text name))
    else none
  | .atom value, _ => if r.wantsValue then some (r.put value) else none
  | .openObject, stack =>
    if r.wantsValue then some ⟨.object [] "" :: stack, .nameOrClose, none⟩ else none
  | .openList, stack =>
    if r.wantsValue then some ⟨.list [] :: stack, .valueOrClose, none⟩ else none
  | .closeObject, .object fields _ :: rest =>
    if r.expected = .nameOrClose ∨ r.expected = .commaOrClose then
      some ({ r with stack := rest }.put (.object fields))
    else none
  | .closeList, .list items :: rest =>
    if r.expected = .valueOrClose ∨ r.expected = .commaOrClose then
      some ({ r with stack := rest }.put (.list items.reverse))
    else none
  | .comma, .object _ _ :: _ =>
    if r.expected = .commaOrClose then some { r with expected := .name } else none
  | .comma, .list _ :: _ =>
    if r.expected = .commaOrClose then some { r with expected := .value } else none
  | .colon, _ => if r.expected = .colon then some { r with expected := .value } else none
  | _, _ => none

end Reading

/-- The document that a list of tokens spells. -/
def ofTokens? (tokens : List Token) : Option Json :=
  match tokens.foldl (fun r t => r.bind (Reading.step? · t)) (some Reading.start) with
  | some ⟨[], .nothing, result⟩ => result
  | _ => none

/-- **Read a JSON text.** -/
def ofText? (text : String) : Option Json := (Token.scan text.toList).bind ofTokens?

end FeatureFlags.Json

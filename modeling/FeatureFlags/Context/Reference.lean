/-
  REFERENCES — names of context attributes, plain or as paths into nested objects.

  A text that starts with `/` is a path: its parts, between slashes, name members one inside the
  other, `~1` in a part standing for a slash and `~0` for a tilde.  Any other text names one
  attribute.  An invalid reference is a value too: its fault is reported where it is used.

  1. **Reading** — `Reference.ofText`; the first faulty part decides the fault.
  2. **Literals** — `Reference.literal` takes the whole text for one name, even if it starts with a
     slash; its written form escapes such a name, so that reading it back gives the same components.
-/

namespace FeatureFlags

/-- Why a text names no attribute. -/
inductive ReferenceError where
  | empty
  | emptyComponent
  | invalidEscape
deriving DecidableEq, Repr

def ReferenceError.message : ReferenceError → String
  | empty => "attribute reference is empty"
  | emptyComponent => "attribute reference contains an empty path component"
  | invalidEscape => "attribute reference contains an invalid escape sequence"

/-- A reference: its text, with the names it leads through or with its fault. -/
inductive Reference where
  | valid (text : String) (names : List String)
  | invalid (text : String) (error : ReferenceError)
deriving DecidableEq, Repr

namespace Reference

/-! ## Escapes -/

/-- Read the escapes of one part of a path. -/
def unescape : List Char → Option (List Char)
  | [] => some []
  | '~' :: '0' :: rest => (unescape rest).map ('~' :: ·)
  | '~' :: '1' :: rest => (unescape rest).map ('/' :: ·)
  | '~' :: _ => none
  | c :: rest => (unescape rest).map (c :: ·)

/-- Write a name as one part of a path. -/
def escape : List Char → List Char
  | [] => []
  | '~' :: rest => '~' :: '0' :: escape rest
  | '/' :: rest => '~' :: '1' :: escape rest
  | c :: rest => c :: escape rest

/-- Cut a text at its slashes. -/
def splitSlashes : List Char → List (List Char)
  | [] => [[]]
  | '/' :: rest => [] :: splitSlashes rest
  | c :: rest =>
    match splitSlashes rest with
    | part :: parts => (c :: part) :: parts
    | [] => [[c]]

/-! ## Reading -/

/-- The name that one part of a path stands for. -/
def component (part : List Char) : Except ReferenceError String :=
  if part = [] then .error .emptyComponent
  else match unescape part with
    | some name => .ok (String.ofList name)
    | none => .error .invalidEscape

/-- The names of a path, in order; the first faulty part decides. -/
def components : List (List Char) → Except ReferenceError (List String)
  | [] => .ok []
  | part :: rest =>
    match component part with
    | .error e => .error e
    | .ok name => (components rest).map (name :: ·)

/-- The names a text leads through. -/
def parse (text : String) : Except ReferenceError (List String) :=
  match text.toList with
  | [] => .error .empty
  | ['/'] => .error .empty
  | '/' :: path => components (splitSlashes path)
  | _ => .ok [text]

/-- **Read a reference.** -/
def ofText (text : String) : Reference :=
  match parse text with
  | .ok names => .valid text names
  | .error e => .invalid text e

/-- **The reference to one name**, whatever characters it has. -/
def literal (name : String) : Reference :=
  match name.toList with
  | [] => .invalid name .empty
  | '/' :: _ => .valid (String.ofList ('/' :: escape name.toList)) [name]
  | _ => .valid name [name]

/-! ## Looking at a reference -/

/-- The text of a reference: what was read, or the escaped form of a literal. -/
def text : Reference → String
  | valid text _ => text
  | invalid text _ => text

/-- The names of a valid reference; none for an invalid one. -/
def names : Reference → List String
  | valid _ names => names
  | invalid _ _ => []

def error? : Reference → Option ReferenceError
  | valid _ _ => none
  | invalid _ e => some e

def isValid : Reference → Bool
  | valid _ _ => true
  | invalid _ _ => false

def depth (r : Reference) : Nat := r.names.length

end Reference

end FeatureFlags

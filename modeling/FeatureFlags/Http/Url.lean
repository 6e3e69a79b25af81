/-
  URLS — absolute addresses of resources.

  A URL starts with a scheme.  The well-known schemes need a host; in them a backslash is as good as
  a slash, and it does not matter how many slashes stand before the host.  Before the host there may
  be a user with a password, after it a port.
-/
import FeatureFlags.Http.Host

namespace FeatureFlags.Http

/-- An absolute URL. -/
structure Url where
  scheme : String
  username : String
  host : String
  port : Option Nat
  /-- Path, query and fragment as they were written. -/
  target : String
deriving DecidableEq, Repr

namespace Url

/-- The schemes that need a host. -/
def isWellKnown (scheme : String) : Bool :=
  ["http", "https", "ws", "wss", "ftp"].contains scheme

/-- The text of a URL without the blanks and control characters around it, and without any tabs and
    line ends. -/
def trimmed (cs : List Char) : List Char :=
  let blank (c : Char) : Bool := c.toNat ≤ 0x20
  let inner := ((cs.dropWhile blank).reverse.dropWhile blank).reverse
  inner.filter fun c => c ≠ '\t' && c ≠ '\n' && c ≠ '\r'

/-- The scheme of a text, in small letters, and what follows its colon. -/
def scheme? (cs : List Char) : Option (String × List Char) :=
  let isSchemeChar (c : Char) : Bool := c.isAlphanum || c = '+' || c = '-' || c = '.'
  match cs.takeWhile isSchemeChar, cs.dropWhile isSchemeChar with
  | first :: more, ':' :: rest =>
    if first.isAlpha then some (String.ofList ((first :: more).map Char.toLower), rest) else none
  | _, _ => none

/-- Whether a character ends the part of a URL before the path. -/
def endsAuthority (wellKnown : Bool) (c : Char) : Bool :=
  c = '/' || c = '?' || c = '#' || (wellKnown && c = '\\')

/-- What stands before and after the last `@` of a text; none without an `@`. -/
def atLastAt? (cs : List Char) : Option (List Char × List Char) :=
  if cs.contains '@' then
    let back := (cs.reverse.takeWhile (· ≠ '@')).reverse
    some (cs.take (cs.length - back.length - 1), back)
  else none

/-- The host at the front of a text, and what follows it.  Colons in brackets belong to the host. -/
def splitHost (inBrackets : Bool) : List Char → List Char × List Char
  | [] => ([], [])
  | c :: rest =>
    if c = ':' && !inBrackets then ([], c :: rest)
    else
      let (host, more) :=
        splitHost (if c = '[' then true else if c = ']' then false else inBrackets) rest
      (c :: host, more)

/-- A port after a colon; none if there is no number. -/
def port? : List Char → Option (Option Nat)
  | [] => some none
  | ':' :: digits =>
    if !digits.all Char.isDigit then none
    else match digits with
      | [] => some none
      | digits =>
        (inBase? 10 digits).bind fun port => if port < 65536 then some (some port) else none
  | _ => none

/-- The user, host and port of a URL. -/
def authority? (wellKnown : Bool) (cs : List Char) : Option (String × String × Option Nat) := do
  let (user, place) := (atLastAt? cs).getD ([], cs)
  let (hostText, portText) := splitHost false place
  if hostText = [] && (wellKnown || portText ≠ [] || cs.head? = some '@') then none
  let host ← if wellKnown then host? hostText else opaqueHost? hostText
  let port ← port? portText
  pure (String.ofList (user.takeWhile (· ≠ ':')), host, port)

/-- The rest of a URL from its host on. -/
def afterSlashes? (scheme : String) (cs : List Char) : Option Url := do
  let wellKnown := isWellKnown scheme
  let inAuthority (c : Char) : Bool := !endsAuthority wellKnown c
  let (username, host, port) ← authority? wellKnown (cs.takeWhile inAuthority)
  pure { scheme, username, host, port, target := String.ofList (cs.dropWhile inAuthority) }

/-- The host of a file; a drive letter is no host. -/
def fileHost? (cs : List Char) : Option String :=
  match cs with
  | [] => some ""
  | [letter, ':'] | [letter, '|'] => if letter.isAlpha then some "" else host? cs
  | cs => host? cs

/-- **Read an absolute URL.** -/
def ofText? (text : String) : Option Url := do
  let (scheme, rest) ← scheme? (trimmed text.toList)
  let isSlash (c : Char) : Bool := c = '/' || c = '\\'
  if isWellKnown scheme then afterSlashes? scheme (rest.dropWhile isSlash)
  else if scheme = "file" then
    match rest with
    | a :: b :: more =>
      if isSlash a && isSlash b then
        let inHost (c : Char) : Bool := !endsAuthority true c
        let host ← fileHost? (more.takeWhile inHost)
        pure ⟨scheme, "", host, none, String.ofList (more.dropWhile inHost)⟩
      else pure ⟨scheme, "", "", none, String.ofList rest⟩
    | rest => pure ⟨scheme, "", "", none, String.ofList rest⟩
  else match rest with
    | '/' :: '/' :: more => afterSlashes? scheme more
    | rest => pure ⟨scheme, "", "", none, String.ofList rest⟩

example : (ofText? "http://u:p@proxy:8080/x").map (·.username) = some "u" := by decide +kernel

example : ofText? "http://h:99999" = none ∧ ofText? "/relative" = none := by decide +kernel

end Url

end FeatureFlags.Http

/-
  HOSTS — the names and addresses of servers in URLs.

  1. **Addresses** — four numbers, or eight groups of hexadecimal digits in brackets.  A name whose
     last part is a number must be an address of four numbers.
  2. **Names** — percent signs with two digits stand for bytes; after that, blanks, control
     characters and the characters that have a meaning in URLs are not allowed.
-/
import FeatureFlags.Text.Category

namespace FeatureFlags.Http

/-- Cut a text at a character. -/
def splitAtChar (separator : Char) : List Char → List (List Char)
  | [] => [[]]
  | c :: rest =>
    if c = separator then [] :: splitAtChar separator rest
    else match splitAtChar separator rest with
      | part :: parts => (c :: part) :: parts
      | [] => [[c]]

def hexDigit? (c : Char) : Option Nat :=
  if c.isDigit then some (c.toNat - '0'.toNat)
  else if 'a' ≤ c ∧ c ≤ 'f' then some (c.toNat - 'a'.toNat + 10)
  else if 'A' ≤ c ∧ c ≤ 'F' then some (c.toNat - 'A'.toNat + 10)
  else none

/-- The number that digits stand for in a base. -/
def inBase? (base : Nat) (cs : List Char) : Option Nat :=
  cs.foldlM (fun n c => (hexDigit? c).bind fun d =>
    if d < base then some (base * n + d) else none) 0

/-! ## Addresses of four numbers -/

/-- One number of an address: decimal, or octal after `0`, or hexadecimal after `0x`. -/
def addressNumber? : List Char → Option Nat
  | [] => none
  | '0' :: 'x' :: digits | '0' :: 'X' :: digits => inBase? 16 digits
  | ['0'] => some 0
  | '0' :: digits => inBase? 8 digits
  | digits => inBase? 10 digits

/-- The parts of a name; a dot at the end adds none. -/
def nameParts (cs : List Char) : List (List Char) :=
  let parts := splitAtChar '.' cs
  if 1 < parts.length ∧ parts.getLast? = some [] then parts.dropLast else parts

/-- Whether a name can only be an address. -/
def endsInNumber (cs : List Char) : Bool :=
  match (nameParts cs).getLast? with
  | none | some [] => false
  | some part => part.all Char.isDigit || (addressNumber? part).isSome

/-- Whether numbers make an address: at most four, of which the last fills what the others leave. -/
def isAddress (numbers : List Nat) : Bool :=
  let front := numbers.dropLast
  front.length < 4 ∧ front.all (· < 256) ∧
    numbers.getLast?.any fun last => last < Nat.pow 256 (4 - front.length)

/-- An address of four numbers, or fewer with a larger last one. -/
def isDottedAddress (cs : List Char) : Bool :=
  match (nameParts cs).mapM addressNumber? with
  | some numbers => isAddress numbers
  | none => false

/-! ## Addresses of eight groups -/

/-- Whether a text is a decimal number below 256 without needless zeros. -/
def isByte (cs : List Char) : Bool :=
  cs ≠ [] && cs.all Char.isDigit && (cs.head? ≠ some '0' || cs.length = 1) &&
    (inBase? 10 cs).any (· < 256)

/-- How many groups of sixteen bits a text stands for. -/
def groupWidth? (cs : List Char) : Option Nat :=
  if cs.all (fun c => (hexDigit? c).isSome) then
    if 1 ≤ cs.length ∧ cs.length ≤ 4 then some 1 else none
  else
    let parts := splitAtChar '.' cs
    if parts.length = 4 ∧ parts.all isByte then some 2 else none

/-- How many groups a list of texts stands for.  Only the last may be written with dots. -/
def groupsWidth? : List (List Char) → Option Nat
  | [] => some 0
  | [part] => groupWidth? part
  | part :: rest => do
    if (← groupWidth? part) = 1 then (groupsWidth? rest).map (1 + ·) else none

/-- The groups of a part of an address. -/
def groups (cs : List Char) : List (List Char) := if cs = [] then [] else splitAtChar ':' cs

/-- The texts before and after the first `::`. -/
def atGap? : List Char → Option (List Char × List Char)
  | ':' :: ':' :: rest => some ([], rest)
  | c :: rest => (atGap? rest).map fun (front, back) => (c :: front, back)
  | [] => none

/-- An address of eight groups, of which `::` may leave out some. -/
def isGroupedAddress (cs : List Char) : Bool :=
  match atGap? cs with
  | none => (groupsWidth? (groups cs)) = some 8
  | some (front, back) =>
    let front := groups front
    front.all (fun part => groupWidth? part = some 1) &&
      (groupsWidth? (groups back)).any fun width => front.length + width < 8

/-! ## Names -/

/-- Read percent signs with two hexadecimal digits as bytes. -/
def decodePercent : List Char → List Char
  | '%' :: a :: b :: rest =>
    match hexDigit? a, hexDigit? b with
    | some h, some l => Char.ofNat (16 * h + l) :: decodePercent rest
    | _, _ => '%' :: decodePercent (a :: b :: rest)
  | c :: rest => c :: decodePercent rest
  | [] => []

/-- The characters that no host has. -/
def isForbiddenInHost (c : Char) : Bool :=
  c = '\x00' || c = '\t' || c = '\n' || c = '\r' || c = ' ' || "#/:<>?@[\\]^|".toList.contains c

/-- The characters that no name has. -/
def isForbiddenInName (c : Char) : Bool :=
  isForbiddenInHost c || c.toNat < 0x20 || c.toNat = 0x7f || c = '%' ||
    (0x80 ≤ c.toNat && !Text.isPrintable c)

/-- A host in brackets. -/
def bracketed? (cs : List Char) : Option (List Char) :=
  match cs with
  | '[' :: rest => if rest.getLast? = some ']' then some rest.dropLast else none
  | _ => none

/-- **The host of a URL of a well-known scheme.** -/
def host? (cs : List Char) : Option String :=
  if cs.head? = some '[' then
    (bracketed? cs).bind fun inner =>
      if isGroupedAddress inner then some (String.ofList cs) else none
  else
    let name := (decodePercent cs).map Char.toLower
    if name = [] || name.any isForbiddenInName then none
    else if endsInNumber name && !isDottedAddress name then none
    else some (String.ofList name)

/-- The host of a URL of any other scheme. -/
def opaqueHost? (cs : List Char) : Option String :=
  if cs.head? = some '[' then
    (bracketed? cs).bind fun inner =>
      if isGroupedAddress inner then some (String.ofList cs) else none
  else if cs.any isForbiddenInHost then none
  else some (String.ofList cs)

end FeatureFlags.Http

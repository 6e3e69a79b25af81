/-
  SEMANTIC VERSIONS — three numbers, an optional pre-release part, and build metadata that counts
  for nothing.

  1. **Strict form** — `ofStrict?`: numbers without leading zeros that fit 64 bits, then `-` with
     dot-separated pre-release identifiers, then `+` with build identifiers.
  2. **Lenient form** — `ofText?`: where the strict form fails, missing numbers count as zero:
     `.0` is put after the leading run of digits and dots until that run has two dots.
  3. **Precedence** — `Version.order` compares the numbers, then the pre-release parts: a version
     with one comes before the version without; identifiers compare left to right, numbers by
     value and before words, words by their letters, and a shorter list before its extensions.
-/

namespace FeatureFlags

/-- One part of a pre-release: a number or a word. -/
inductive Identifier where
  | numeric (value : Nat)
  | word (letters : String)
deriving DecidableEq, Repr

/-- A version without its build metadata. -/
structure Version where
  major : Nat
  minor : Nat
  patch : Nat
  prerelease : List Identifier
deriving DecidableEq, Repr

/-! ## Precedence -/

def Identifier.order : Identifier → Identifier → Ordering
  | .numeric a, .numeric b => compareOfLessAndEq a b
  | .numeric _, .word _ => .lt
  | .word _, .numeric _ => .gt
  | .word a, .word b => compareOfLessAndEq a b

namespace Version

/-- Compare identifiers left to right; a list that ends first comes first. -/
def orderIdentifiers : List Identifier → List Identifier → Ordering
  | [], [] => .eq
  | [], _ :: _ => .lt
  | _ :: _, [] => .gt
  | a :: as, b :: bs => (a.order b).then (orderIdentifiers as bs)

/-- A version without pre-release part comes after those with one. -/
def orderPrerelease : List Identifier → List Identifier → Ordering
  | [], [] => .eq
  | [], _ :: _ => .gt
  | _ :: _, [] => .lt
  | as, bs => orderIdentifiers as bs

/-- **Precedence** of versions. -/
def order (a b : Version) : Ordering :=
  (compareOfLessAndEq a.major b.major).then <|
  (compareOfLessAndEq a.minor b.minor).then <|
  (compareOfLessAndEq a.patch b.patch).then <|
  orderPrerelease a.prerelease b.prerelease

/-! ## Reading -/

/-- The value of a run of decimal digits. -/
def value (digits : List Char) : Nat :=
  digits.foldl (fun n c => 10 * n + (c.toNat - '0'.toNat)) 0

/-- A number has no leading zero. -/
def hasLeadingZero : List Char → Bool
  | '0' :: _ :: _ => true
  | _ => false

/-- The number at the front of a text: digits without leading zero that fit 64 bits. -/
def number? (cs : List Char) : Option (Nat × List Char) :=
  let digits := cs.takeWhile Char.isDigit
  if digits = [] || hasLeadingZero digits || 18446744073709551616 ≤ value digits then none
  else some (value digits, cs.dropWhile Char.isDigit)

/-- The number at the front of a text, after a dot. -/
def dotNumber? : List Char → Option (Nat × List Char)
  | '.' :: rest => number? rest
  | _ => none

def isIdentifierChar (c : Char) : Bool := c.isAlphanum || c = '-'

/-- Cut a text at its dots. -/
def splitDots : List Char → List (List Char)
  | [] => [[]]
  | c :: rest =>
    if c = '.' then [] :: splitDots rest
    else match splitDots rest with
      | first :: more => (c :: first) :: more
      | [] => [[c]]

/-- A pre-release identifier.  A number has no leading zero. -/
def identifier? (cs : List Char) : Option Identifier :=
  if cs = [] then none
  else if cs.all Char.isDigit then
    if hasLeadingZero cs then none else some (.numeric (value cs))
  else some (.word (String.ofList cs))

/-- The front of a text that can belong to a list of identifiers. -/
def isListChar (c : Char) : Bool := isIdentifierChar c || c = '.'

/-- What follows the three numbers: pre-release and build parts, and nothing else. -/
def suffix? (cs : List Char) : Option (List Identifier) := do
  let (identifiers, rest) ← match cs with
    | '-' :: more => do
      let ids ← (splitDots (more.takeWhile isListChar)).mapM identifier?
      pure (ids, more.dropWhile isListChar)
    | _ => pure ([], cs)
  match rest with
  | [] => pure identifiers
  | '+' :: build =>
    if (splitDots build).all fun part => part ≠ [] && part.all isIdentifierChar then
      pure identifiers
    else none
  | _ => none

/-- The strict form of a version. -/
def ofStrict? (cs : List Char) : Option Version := do
  let (major, rest) ← number? cs
  let (minor, rest) ← dotNumber? rest
  let (patch, rest) ← dotNumber? rest
  let prerelease ← suffix? rest
  pure ⟨major, minor, patch, prerelease⟩

/-- Digits and dots: what the numbers of a version are made of. -/
def isNumbersChar (c : Char) : Bool := c.isDigit || c = '.'

/-- Put zeros for the numbers that are missing. -/
def padded (cs : List Char) : List Char :=
  let numbers := cs.takeWhile isNumbersChar
  let missing := 2 - numbers.count '.'
  numbers ++ (List.replicate missing ['.', '0']).flatten ++ cs.dropWhile isNumbersChar

/-- **Read a version**, with missing numbers as zeros. -/
def ofText? (s : String) : Option Version :=
  (ofStrict? s.toList).or (ofStrict? (padded s.toList))

end Version

end FeatureFlags

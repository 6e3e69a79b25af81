/-
  PATTERNS — regular expressions, and whether one matches somewhere in a text.

  A pattern is matched by its DERIVATIVES: what is left of it to match once a character was read.
  Assertions look at the characters on both sides of a place and read none, so a place is given by
  the character before it and the one after it.

  1. **Character sets** — `CharSet.contains`.
  2. **Derivatives** — `acceptsHere` says whether a pattern can end at a place, `after` is its
     derivative; the smart constructors `seq`, `alt` keep derivatives small.
  3. **Search** — `matchesIn` starts a new attempt at every place and runs all attempts together.
-/
import FeatureFlags.Text.CaseFolding
import FeatureFlags.Text.Category

namespace FeatureFlags

/-- A set of characters. -/
inductive CharSet where
  | range (first last : Nat)
  | word
  | decimal
  | white
  | category (category : Text.Category)
  | either (a b : CharSet)
  | both (a b : CharSet)
  | not (a : CharSet)
  /-- All characters that differ from one of the set in case only. -/
  | anyCase (a : CharSet)
deriving DecidableEq, Repr

namespace CharSet

def none : CharSet := range 1 0

def any : CharSet := range 0 0x10ffff

def single (c : Char) : CharSet := range c.toNat c.toNat

def ofList (sets : List CharSet) : CharSet := sets.foldl either none

def contains : CharSet → Char → Bool
  | range first last, c => first ≤ c.toNat && c.toNat ≤ last
  | word, c => Text.isWord c
  | decimal, c => Text.isDecimalDigit c
  | white, c => Text.isWhite c
  | category k, c => k.contains c
  | either a b, c => a.contains c || b.contains c
  | both a b, c => a.contains c && b.contains c
  | not a, c => !a.contains c
  | anyCase a, c => a.contains c || (Text.caseFamily c.toNat).any fun n => a.contains (Char.ofNat n)

end CharSet

/-- Something that holds between two characters of a text. -/
inductive Assertion where
  | textStart
  | textEnd
  | lineStart
  | lineEnd
  | wordEdge
  | noWordEdge
  | wordStart
  | wordEnd
deriving DecidableEq, Repr

/-- Whether a word character stands on one side of a place. -/
def isWordSide (side : Option Char) : Bool := side.any Text.isWord

def Assertion.holds (before after : Option Char) : Assertion → Bool
  | textStart => before.isNone
  | textEnd => after.isNone
  | lineStart => before.isNone || before = some '\n'
  | lineEnd => after.isNone || after = some '\n'
  | wordEdge => isWordSide before != isWordSide after
  | noWordEdge => isWordSide before == isWordSide after
  | wordStart => !isWordSide before && isWordSide after
  | wordEnd => isWordSide before && !isWordSide after

/-- **A pattern.** -/
inductive Pattern where
  | never
  | empty
  | chars (set : CharSet)
  | assert (assertion : Assertion)
  | then (a b : Pattern)
  | or (a b : Pattern)
  | many (a : Pattern)
deriving DecidableEq, Repr

namespace Pattern

/-- One pattern after the other. -/
def seq (a b : Pattern) : Pattern :=
  if a = never ∨ b = never then never
  else if a = empty then b
  else if b = empty then a
  else .then a b

/-- Whether `a` is one of the alternatives of a pattern. -/
def hasAlternative (a : Pattern) : Pattern → Bool
  | or b c => b = a || hasAlternative a c
  | b => b = a

/-- Put the alternatives of `a` before those of `b`, each once. -/
def alt (a b : Pattern) : Pattern :=
  match a with
  | never => b
  | or x y => alt x (alt y b)
  | x => if b = never then x else if hasAlternative x b then b else .or x b

/-- Whether a pattern matches nothing at a place. -/
def acceptsHere (before after : Option Char) : Pattern → Bool
  | never => false
  | empty => true
  | chars _ => false
  | assert assertion => assertion.holds before after
  | .then a b => acceptsHere before after a && acceptsHere before after b
  | or a b => acceptsHere before after a || acceptsHere before after b
  | many _ => true

/-- What is left to match once `c` was read after `before`. -/
def after (before : Option Char) (c : Char) : Pattern → Pattern
  | never => never
  | empty => never
  | chars set => if set.contains c then empty else never
  | assert _ => never
  | .then a b =>
    let first := seq (after before c a) b
    if acceptsHere before (some c) a then alt first (after before c b) else first
  | or a b => alt (after before c a) (after before c b)
  | many a => seq (after before c a) (many a)

/-- Run the attempts that are under way, `current`, together with new ones at every place. -/
def search (pattern current : Pattern) (before : Option Char) : List Char → Bool
  | [] => acceptsHere before .none current
  | c :: rest =>
    acceptsHere before (some c) current ||
      search pattern (alt (after before c current) pattern) (some c) rest

/-- **Whether a pattern matches somewhere in a text.** -/
def matchesIn (pattern : Pattern) (text : String) : Bool :=
  search pattern pattern .none text.toList

/-- A pattern repeated a fixed number of times. -/
def times (a : Pattern) : Nat → Pattern
  | 0 => empty
  | n + 1 => seq a (times a n)

/-- A pattern repeated at most so many times. -/
def atMost (a : Pattern) : Nat → Pattern
  | 0 => empty
  | n + 1 => alt (seq a (atMost a n)) empty

/-- A pattern repeated at least `low` times, and at most `high` times if there is a limit. -/
def repeated (a : Pattern) (low : Nat) (high : Option Nat) : Pattern :=
  match high with
  | some high => seq (times a low) (atMost a (high - low))
  | .none => seq (times a low) (many a)

end Pattern

end FeatureFlags

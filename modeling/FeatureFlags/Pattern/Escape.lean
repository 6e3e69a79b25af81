/-
  ESCAPES in patterns — what a backslash and the characters after it stand for.

  An escape is one character, a set of characters, or an assertion.  Digits after a backslash are
  refused, since patterns have no back references, and so are letters without a meaning.
-/
import FeatureFlags.Pattern.Basic

namespace FeatureFlags.Pattern

/-- The switches that a pattern can turn on and off. -/
structure Flags where
  ignoreCase : Bool
  /-- Line starts and ends count as those of the text. -/
  multiLine : Bool
  /-- A dot matches a line feed too. -/
  dotAll : Bool
  /-- Blanks and comments in the pattern count for nothing. -/
  spaced : Bool
  /-- Classes know all of Unicode; otherwise ASCII only. -/
  unicode : Bool
deriving DecidableEq

def Flags.initial : Flags := ⟨false, false, false, false, true⟩

/-- What an escape stands for. -/
inductive Escape where
  | char (c : Char)
  | set (s : CharSet)
  | place (a : Assertion)

/-! ## Characters by number -/

def hexValue? (c : Char) : Option Nat :=
  if c.isDigit then some (c.toNat - 48)
  else if 'a' ≤ c ∧ c ≤ 'f' then some (c.toNat - 87)
  else if 'A' ≤ c ∧ c ≤ 'F' then some (c.toNat - 55)
  else none

/-- The character whose number hexadecimal digits spell. -/
def charOfHex? (digits : List Char) : Option Char := do
  let values ← digits.mapM hexValue?
  let n := values.foldl (fun n d => 16 * n + d) 0
  if digits ≠ [] ∧ (n < 0xd800 ∨ 0xe000 ≤ n ∧ n < 0x110000) then some (Char.ofNat n) else none

/-- A number in hexadecimal: in braces, or of a fixed length. -/
def hexEscape? (length : Nat) (cs : List Char) : Option (Char × List Char) :=
  match cs with
  | '\x7b' :: rest =>
    let digits := rest.takeWhile (· ≠ '\x7d')
    match rest.dropWhile (· ≠ '\x7d') with
    | _ :: after => (charOfHex? digits).map fun c => (c, after)
    | [] => none
  | _ =>
    let digits := cs.take length
    if digits.length = length then (charOfHex? digits).map fun c => (c, cs.drop length) else none

/-! ## Properties by name -/

/-- The sets that a property name can mean. -/
def categorySet (categories : List Text.Category) : CharSet :=
  CharSet.ofList (categories.map .category)

/-- Ranges of the scripts a pattern can name. -/
def scriptRanges? (name : String) : Option (List (Nat × Nat)) :=
  match name with
  | "latin" | "latn" => some [(0x41, 0x5a), (0x61, 0x7a), (0xaa, 0xaa), (0xba, 0xba), (0xc0, 0xd6),
      (0xd8, 0xf6), (0xf8, 0x2b8), (0x2e0, 0x2e4), (0x1d00, 0x1d25), (0x1d2c, 0x1d5c),
      (0x1d62, 0x1d65), (0x1d6b, 0x1d77), (0x1d79, 0x1dbe), (0x1e00, 0x1eff), (0x2071, 0x2071),
      (0x207f, 0x207f), (0x2090, 0x209c), (0x212a, 0x212b), (0x2132, 0x2132), (0x214e, 0x214e),
      (0x2160, 0x2188), (0x2c60, 0x2c7f), (0xa722, 0xa787), (0xa78b, 0xa7ca), (0xa7f2, 0xa7ff),
      (0xab30, 0xab5a), (0xab5c, 0xab64), (0xfb00, 0xfb06), (0xff21, 0xff3a), (0xff41, 0xff5a)]
  | "greek" | "grek" => some [(0x370, 0x373), (0x375, 0x377), (0x37a, 0x37d), (0x37f, 0x37f),
      (0x384, 0x384), (0x386, 0x386), (0x388, 0x38a), (0x38c, 0x38c), (0x38e, 0x3a1),
      (0x3a3, 0x3e1), (0x3f0, 0x3ff), (0x1d26, 0x1d2a), (0x1d5d, 0x1d61), (0x1d66, 0x1d6a),
      (0x1dbf, 0x1dbf), (0x1f00, 0x1f15), (0x1f18, 0x1f1d), (0x1f20, 0x1f45), (0x1f48, 0x1f4d),
      (0x1f50, 0x1f57), (0x1f59, 0x1f59), (0x1f5b, 0x1f5b), (0x1f5d, 0x1f5d), (0x1f5f, 0x1f7d),
      (0x1f80, 0x1fb4), (0x1fb6, 0x1fc4), (0x1fc6, 0x1fd3), (0x1fd6, 0x1fdb), (0x1fdd, 0x1fef),
      (0x1ff2, 0x1ff4), (0x1ff6, 0x1ffe), (0x2126, 0x2126), (0xab65, 0xab65)]
  | "cyrillic" | "cyrl" => some [(0x400, 0x484), (0x487, 0x52f), (0x1c80, 0x1c88),
      (0x1d2b, 0x1d2b), (0x1d78, 0x1d78), (0x2de0, 0x2dff), (0xa640, 0xa69f), (0xfe2e, 0xfe2f)]
  | "hebrew" | "hebr" => some [(0x591, 0x5c7), (0x5d0, 0x5ea), (0x5ef, 0x5f4), (0xfb1d, 0xfb4f)]
  | "arabic" | "arab" => some [(0x600, 0x604), (0x606, 0x60b), (0x60d, 0x61a), (0x61c, 0x61e),
      (0x620, 0x63f), (0x641, 0x64a), (0x656, 0x66f), (0x671, 0x6dc), (0x6de, 0x6ff),
      (0x750, 0x77f), (0x8a0, 0x8e1), (0x8e3, 0x8ff), (0xfb50, 0xfdff), (0xfe70, 0xfefc)]
  | "han" | "hani" => some [(0x2e80, 0x2e99), (0x2e9b, 0x2ef3), (0x2f00, 0x2fd5), (0x3005, 0x3005),
      (0x3007, 0x3007), (0x3021, 0x3029), (0x3038, 0x303b), (0x3400, 0x4dbf), (0x4e00, 0x9fff),
      (0xf900, 0xfa6d), (0xfa70, 0xfad9), (0x20000, 0x2a6df), (0x2a700, 0x2ebe0),
      (0x2f800, 0x2fa1d), (0x30000, 0x323af)]
  | "hiragana" | "hira" => some [(0x3041, 0x3096), (0x309d, 0x309f), (0x1b001, 0x1b11f)]
  | "katakana" | "kana" => some [(0x30a1, 0x30fa), (0x30fd, 0x30ff), (0x31f0, 0x31ff),
      (0x32d0, 0x32fe), (0x3300, 0x3357), (0xff66, 0xff6f), (0xff71, 0xff9d)]
  | _ => none

/-- The general categories that a name stands for. -/
def categories? (name : String) : Option (List Text.Category) :=
  match name with
  | "l" | "letter" => some Text.Category.letters
  | "lu" | "uppercaseletter" => some [.upperLetter]
  | "ll" | "lowercaseletter" => some [.lowerLetter]
  | "lt" | "titlecaseletter" => some [.titleLetter]
  | "lm" | "modifierletter" => some [.modifierLetter]
  | "lo" | "otherletter" => some [.otherLetter]
  | "lc" | "casedletter" => some [.upperLetter, .lowerLetter, .titleLetter]
  | "m" | "mark" => some Text.Category.marks
  | "mn" | "nonspacingmark" => some [.nonspacingMark]
  | "mc" | "spacingmark" => some [.spacingMark]
  | "me" | "enclosingmark" => some [.enclosingMark]
  | "n" | "number" => some Text.Category.numbers
  | "nd" | "decimalnumber" | "digit" => some [.digit]
  | "nl" | "letternumber" => some [.letterNumber]
  | "no" | "othernumber" => some [.otherNumber]
  | "p" | "punctuation" | "punct" => some Text.Category.punctuation
  | "pc" | "connectorpunctuation" => some [.connector]
  | "pd" | "dashpunctuation" => some [.dash]
  | "ps" | "openpunctuation" => some [.openBracket]
  | "pe" | "closepunctuation" => some [.closeBracket]
  | "pi" | "initialpunctuation" => some [.openQuote]
  | "pf" | "finalpunctuation" => some [.closeQuote]
  | "po" | "otherpunctuation" => some [.otherPunctuation]
  | "s" | "symbol" => some Text.Category.symbols
  | "sm" | "mathsymbol" => some [.mathSymbol]
  | "sc" | "currencysymbol" => some [.currencySymbol]
  | "sk" | "modifiersymbol" => some [.modifierSymbol]
  | "so" | "othersymbol" => some [.otherSymbol]
  | "z" | "separator" => some Text.Category.separators
  | "zs" | "spaceseparator" => some [.space]
  | "zl" | "lineseparator" => some [.lineSeparator]
  | "zp" | "paragraphseparator" => some [.paragraphSeparator]
  | "cc" | "control" | "cntrl" => some [.control]
  | "cf" | "format" => some [.format]
  | "co" | "privateuse" => some [.privateUse]
  | _ => none

/-- The set that a property name stands for, which is compared without case, blanks, underscores
    and hyphens. -/
def propertySet? (name : List Char) : Option CharSet :=
  let plain := (name.filter fun c => c ≠ ' ' && c ≠ '_' && c ≠ '-').map Char.toLower
  let bare := match plain.dropWhile (· ≠ '=') with
    | _ :: value => String.ofList value
    | [] => String.ofList plain
  match bare with
  | "any" => some CharSet.any
  | "ascii" => some (.range 0 0x7f)
  | "whitespace" | "wspace" => some .white
  | "alphabetic" | "alpha" => some (categorySet (Text.Category.letters ++ [.letterNumber]))
  | "uppercase" | "upper" => some (categorySet [.upperLetter])
  | "lowercase" | "lower" => some (categorySet [.lowerLetter])
  | bare =>
    match categories? bare with
    | some categories => some (categorySet categories)
    | none => (scriptRanges? bare).map fun rs => CharSet.ofList (rs.map fun r => .range r.1 r.2)

/-- A property: one letter, or a name in braces, which a circumflex turns around. -/
def property? (cs : List Char) : Option (CharSet × List Char) :=
  match cs with
  | '\x7b' :: rest =>
    let name := rest.takeWhile (· ≠ '\x7d')
    match rest.dropWhile (· ≠ '\x7d') with
    | _ :: after =>
      match name with
      | '^' :: name => (propertySet? name).map fun s => (.not s, after)
      | name => (propertySet? name).map fun s => (s, after)
    | [] => none
  | c :: after => (propertySet? [c]).map fun s => (s, after)
  | [] => none

/-! ## Escapes -/

def asciiWord : CharSet :=
  CharSet.ofList [.range 0x30 0x39, .range 0x41 0x5a, .range 0x5f 0x5f, .range 0x61 0x7a]

def asciiWhite : CharSet := CharSet.ofList [.range 0x09 0x0d, .range 0x20 0x20]

/-- A class, or what is not in it.  What is not in an ASCII class could be half a character. -/
def classEscape (flags : Flags) (unicode ascii : CharSet) (turned : Bool) : Option CharSet :=
  if flags.unicode then some (if turned then .not unicode else unicode)
  else if turned then none else some ascii

/-- The assertion after `\b`, which may have a name in braces. -/
def wordEscape? (cs : List Char) : Option (Assertion × List Char) :=
  match cs with
  | '\x7b' :: rest =>
    let name := String.ofList (rest.takeWhile (· ≠ '\x7d'))
    let after := rest.dropWhile (· ≠ '\x7d')
    match name, after with
    | "start", _ :: after => some (.wordStart, after)
    | "end", _ :: after => some (.wordEnd, after)
    | _, _ => some (.wordEdge, cs)
  | _ => some (.wordEdge, cs)

/-- **The escape** that follows a backslash. -/
def escape? (flags : Flags) (cs : List Char) : Option (Escape × List Char) :=
  match cs with
  | [] => none
  | c :: rest =>
    match c with
    | 'd' => (classEscape flags .decimal (.range 0x30 0x39) false).map fun s => (.set s, rest)
    | 'D' => (classEscape flags .decimal (.range 0x30 0x39) true).map fun s => (.set s, rest)
    | 's' => (classEscape flags .white asciiWhite false).map fun s => (.set s, rest)
    | 'S' => (classEscape flags .white asciiWhite true).map fun s => (.set s, rest)
    | 'w' => (classEscape flags .word asciiWord false).map fun s => (.set s, rest)
    | 'W' => (classEscape flags .word asciiWord true).map fun s => (.set s, rest)
    | 'p' => if flags.unicode then (property? rest).map fun (s, after) => (.set s, after) else none
    | 'P' =>
      if flags.unicode then (property? rest).map fun (s, after) => (.set (.not s), after) else none
    | 'n' => some (.char '\n', rest)
    | 't' => some (.char '\t', rest)
    | 'r' => some (.char '\r', rest)
    | 'f' => some (.char '\x0c', rest)
    | 'v' => some (.char '\x0b', rest)
    | 'a' => some (.char '\x07', rest)
    | 'x' => (hexEscape? 2 rest).map fun (c, after) => (.char c, after)
    | 'u' => (hexEscape? 4 rest).map fun (c, after) => (.char c, after)
    | 'U' => (hexEscape? 8 rest).map fun (c, after) => (.char c, after)
    | 'A' => some (.place .textStart, rest)
    | 'z' => some (.place .textEnd, rest)
    | 'b' => (wordEscape? rest).map fun (a, after) => (.place a, after)
    | 'B' => some (.place .noWordEdge, rest)
    | '<' => some (.place .wordStart, rest)
    | '>' => some (.place .wordEnd, rest)
    | c => if c.toNat < 0x80 ∧ !c.isAlphanum then some (.char c, rest) else none

end FeatureFlags.Pattern

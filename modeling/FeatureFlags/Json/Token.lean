/-
  JSON TOKENS — the words of a JSON text.

  `Token.scan` reads a text character by character.  Between characters it is in a `Mode`: between
  tokens, inside a bare word (a literal or a number), or inside a string, where an escape may be
  under way.  One step reads one character, so the scan is a fold and needs no look-ahead: a bare
  word ends when a character arrives that belongs to no word.
-/
import FeatureFlags.Json.Basic

namespace FeatureFlags.Json

/-- A word of JSON. -/
inductive Token where
  | openObject
  | closeObject
  | openList
  | closeList
  | comma
  | colon
  /-- A value that is one word: a literal, a number or a string. -/
  | atom (value : Json)

namespace Token

/-! ## Numbers -/

/-- The value of a run of decimal digits. -/
def natOfDigits (digits : List Char) : Nat :=
  digits.foldl (fun n c => 10 * n + (c.toNat - '0'.toNat)) 0

/-- The digits after the sign and before point and exponent: no zero stands before others. -/
def isWholePart (digits : List Char) : Bool :=
  match digits with
  | [] => false
  | ['0'] => true
  | '0' :: _ => false
  | _ => true

/-- The exponent part: nothing, or a mark, an optional sign and digits. -/
def exponent? : List Char → Option Int
  | [] => some 0
  | mark :: rest =>
    let (negative, digits) := match rest with
      | '-' :: ds => (true, ds)
      | '+' :: ds => (false, ds)
      | ds => (false, ds)
    if (mark = 'e' ∨ mark = 'E') ∧ digits ≠ [] ∧ digits.all Char.isDigit then
      some (if negative then -(natOfDigits digits : Int) else natOfDigits digits)
    else none

/-- `mantissa · 10 ^ exponent`, rounded correctly. -/
def floatOf (negative : Bool) (mantissa : Nat) (exponent : Int) : Float :=
  let x := Float.ofScientific mantissa (exponent < 0) exponent.natAbs
  if negative then -x else x

/-- A number.  A whole number that fits 64 bits (with or without sign) is an integer; `-0`, larger
    ones and those with a point or an exponent are floating-point. -/
def number? (word : List Char) : Option Number :=
  let (negative, unsigned) := match word with
    | '-' :: rest => (true, rest)
    | rest => (false, rest)
  let whole := unsigned.takeWhile Char.isDigit
  let afterWhole := unsigned.dropWhile Char.isDigit
  let (fraction, afterFraction) := match afterWhole with
    | '.' :: rest => (some (rest.takeWhile Char.isDigit), rest.dropWhile Char.isDigit)
    | rest => (none, rest)
  if !isWholePart whole || fraction = some [] then none
  else match exponent? afterFraction with
    | none => none
    | some e =>
      if fraction = none ∧ afterFraction = [] then
        let n := natOfDigits whole
        if negative then
          if 0 < n ∧ n ≤ 9223372036854775808 then some (.int (-(n : Int)))
          else some (.float (floatOf true n 0))
        else if n < 18446744073709551616 then some (.int n)
        else some (.float (floatOf false n 0))
      else
        let digits := fraction.getD []
        some (.float (floatOf negative (natOfDigits (whole ++ digits)) (e - digits.length)))

/-- A bare word: a literal or a number. -/
def word? (word : List Char) : Option Token :=
  match String.ofList word with
  | "null" => some (atom .null)
  | "true" => some (atom (.bool true))
  | "false" => some (atom (.bool false))
  | _ => (number? word).map fun n => atom (.number n)

/-! ## The scan -/

/-- Where the scan stands.  Characters read so far are kept last first. -/
inductive Mode where
  | between
  | word (read : List Char)
  /-- Inside a string; `half` is a high surrogate that waits for its low one. -/
  | string (read : List Char) (half : Option Nat)
  | escape (read : List Char) (half : Option Nat)
  | unicode (read : List Char) (half : Option Nat) (digits : List Char)

def hexDigit? (c : Char) : Option Nat :=
  if c.isDigit then some (c.toNat - '0'.toNat)
  else if 'a' ≤ c ∧ c ≤ 'f' then some (c.toNat - 'a'.toNat + 10)
  else if 'A' ≤ c ∧ c ≤ 'F' then some (c.toNat - 'A'.toNat + 10)
  else none

/-- The value of four hexadecimal digits. -/
def unit? (digits : List Char) : Option Nat :=
  digits.foldl (fun n c => n.bind fun n => (hexDigit? c).map (16 * n + ·)) (some 0)

/-- The character of a one-letter escape. -/
def escaped? : Char → Option Char
  | '"' => some '"'
  | '\\' => some '\\'
  | '/' => some '/'
  | 'b' => some '\x08'
  | 'f' => some '\x0c'
  | 'n' => some '\n'
  | 'r' => some '\r'
  | 't' => some '\t'
  | _ => none

/-- The tokens that are one character each. -/
def punctuation? : Char → Option Token
  | '{' => some openObject
  | '}' => some closeObject
  | '[' => some openList
  | ']' => some closeList
  | ',' => some comma
  | ':' => some colon
  | _ => none

def isBlank (c : Char) : Bool := c = ' ' || c = '\t' || c = '\n' || c = '\r'

def isWordChar (c : Char) : Bool := c.isAlphanum || c = '-' || c = '+' || c = '.'

/-- A character between tokens. -/
def startToken? (c : Char) : Option (Mode × List Token) :=
  if isBlank c then some (.between, [])
  else if c = '"' then some (.string [] none, [])
  else if isWordChar c then some (.word [c], [])
  else (punctuation? c).map fun t => (.between, [t])

/-- A code unit after its escape: a character, or half of one. -/
def codeUnit? (read : List Char) (half : Option Nat) (unit : Nat) : Option Mode :=
  match half with
  | some high =>
    if 0xDC00 ≤ unit ∧ unit < 0xE000 then
      some (.string (Char.ofNat (0x10000 + (high - 0xD800) * 0x400 + (unit - 0xDC00)) :: read) none)
    else none
  | none =>
    if 0xD800 ≤ unit ∧ unit < 0xDC00 then some (.string read (some unit))
    else if 0xDC00 ≤ unit ∧ unit < 0xE000 then none
    else some (.string (Char.ofNat unit :: read) none)

/-- Read one character. -/
def step? (mode : Mode) (c : Char) : Option (Mode × List Token) :=
  match mode with
  | .between => startToken? c
  | .word read =>
    if isWordChar c then some (.word (c :: read), [])
    else do
      let token ← word? read.reverse
      let (mode, more) ← startToken? c
      pure (mode, token :: more)
  | .string read half =>
    if c = '\\' then some (.escape read half, [])
    else if half.isSome then none
    else if c = '"' then some (.between, [atom (.text (String.ofList read.reverse))])
    else if c.toNat < 0x20 then none
    else some (.string (c :: read) none, [])
  | .escape read half =>
    if c = 'u' then some (.unicode read half [], [])
    else if half.isSome then none
    else (escaped? c).map fun e => (.string (e :: read) none, [])
  | .unicode read half digits =>
    let digits := digits ++ [c]
    if digits.length < 4 then some (.unicode read half digits, [])
    else do
      let unit ← unit? digits
      let mode ← codeUnit? read half unit
      pure (mode, [])

/-- The tokens of a text. -/
def scan (text : List Char) : Option (List Token) :=
  let start : Option (Mode × List Token) := some (.between, [])
  let read := text.foldl (fun state c => state.bind fun (mode, tokens) =>
    (step? mode c).map fun (mode, new) => (mode, new.reverse ++ tokens)) start
  match read with
  | some (.between, tokens) => some tokens.reverse
  | some (.word word, tokens) => (word? word.reverse).map fun t => (t :: tokens).reverse
  | _ => none

end Token

end FeatureFlags.Json

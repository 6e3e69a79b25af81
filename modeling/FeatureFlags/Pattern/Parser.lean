/-
  READING PATTERNS.

  1. **Classes** — `class?` reads what stands in brackets: characters, ranges, escapes, named
     classes and nested brackets, joined by the operators `&&`, `--` and `~~` from left to right.
  2. **Groups** — `Reader` keeps the groups that are still open, innermost first, each with the
     alternatives it has so far and the switches that hold again after it.
  3. **Steps** — `Reader.step?` reads one element.  Every step takes at least one character, so as
     many steps as the pattern has characters suffice.
-/
import FeatureFlags.Pattern.Escape

namespace FeatureFlags.Pattern

/-! ## Classes in brackets -/

/-- A class by its name, as it stands between `[:` and `:]`. -/
def namedClass? (name : String) : Option CharSet :=
  match name with
  | "alnum" => some (CharSet.ofList [.range 0x30 0x39, .range 0x41 0x5a, .range 0x61 0x7a])
  | "alpha" => some (CharSet.ofList [.range 0x41 0x5a, .range 0x61 0x7a])
  | "ascii" => some (.range 0 0x7f)
  | "blank" => some (CharSet.ofList [.range 0x09 0x09, .range 0x20 0x20])
  | "cntrl" => some (CharSet.ofList [.range 0 0x1f, .range 0x7f 0x7f])
  | "digit" => some (.range 0x30 0x39)
  | "graph" => some (.range 0x21 0x7e)
  | "lower" => some (.range 0x61 0x7a)
  | "print" => some (.range 0x20 0x7e)
  | "punct" => some (CharSet.ofList
      [.range 0x21 0x2f, .range 0x3a 0x40, .range 0x5b 0x60, .range 0x7b 0x7e])
  | "space" => some asciiWhite
  | "upper" => some (.range 0x41 0x5a)
  | "word" => some asciiWord
  | "xdigit" => some (CharSet.ofList [.range 0x30 0x39, .range 0x41 0x46, .range 0x61 0x66])
  | _ => none

/-- A named class at the front of a text that follows `[`. -/
def bracketName? (cs : List Char) : Option (CharSet × List Char) :=
  match cs with
  | ':' :: rest =>
    let (turned, rest) := match rest with
      | '^' :: more => (true, more)
      | more => (false, more)
    let name := rest.takeWhile Char.isAlpha
    match rest.dropWhile Char.isAlpha with
    | ':' :: ']' :: after =>
      (namedClass? (String.ofList name)).map fun s => (if turned then .not s else s, after)
    | _ => none
  | _ => none

/-- A character or a set inside brackets. -/
def classItem? (flags : Flags) (cs : List Char) : Option (Escape × List Char) :=
  match cs with
  | '\\' :: rest => escape? flags rest
  | c :: rest => some (.char c, rest)
  | [] => none

/-- What an item of a class contributes, together with a range that may start at it. -/
def classRange? (flags : Flags) (cs : List Char) : Option (CharSet × List Char) := do
  let (first, rest) ← classItem? flags cs
  let isRange := match rest with
    | '-' :: ']' :: _ => false
    | '-' :: '-' :: _ => false
    | '-' :: _ :: _ => true
    | _ => false
  match first with
  | .place _ => none
  | .set s => if isRange then none else some (s, rest)
  | .char a =>
    if isRange then
      let (last, rest) ← classItem? flags (rest.drop 1)
      match last with
      | .char b => if a ≤ b then some (.range a.toNat b.toNat, rest) else none
      | _ => none
    else some (CharSet.single a, rest)

/-- How the part before an operator joins the part after it. -/
def joinSets (op : Char) (a b : CharSet) : CharSet :=
  match op with
  | '&' => .both a b
  | '-' => .both a (.not b)
  | _ => .either (.both a (.not b)) (.both b (.not a))

/-- Close a class: letters in any case, and turned around if a circumflex opened it. -/
def closeClass (flags : Flags) (turned : Bool) (s : CharSet) : CharSet :=
  let s := if flags.ignoreCase then .anyCase s else s
  if turned then .not s else s

mutual

/-- The class whose opening bracket was read. -/
def class? (fuel : Nat) (flags : Flags) (cs : List Char) : Option (CharSet × List Char) :=
  match fuel with
  | 0 => none
  | fuel + 1 =>
    let (turned, cs) := match cs with
      | '^' :: rest => (true, rest)
      | rest => (false, rest)
    let hyphens := cs.takeWhile (· = '-')
    let rest := cs.dropWhile (· = '-')
    let start := if hyphens = [] then CharSet.none else CharSet.single '-'
    if turned && !flags.unicode then none
    else match hyphens, rest with
      | [], ']' :: rest => classRest? fuel flags turned id (CharSet.single ']') rest
      | _, rest => classRest? fuel flags turned id start rest

/-- The rest of a class: `join` puts the part before the last operator to the part after it, of
    which `read` was read. -/
def classRest? (fuel : Nat) (flags : Flags) (turned : Bool) (join : CharSet → CharSet)
    (read : CharSet) (cs : List Char) : Option (CharSet × List Char) :=
  match fuel with
  | 0 => none
  | fuel + 1 =>
    match cs with
    | [] => none
    | ']' :: rest => some (closeClass flags turned (join read), rest)
    | '[' :: rest =>
      match bracketName? rest with
      | some (s, rest) => classRest? fuel flags turned join (.either read s) rest
      | none =>
        match class? fuel flags rest with
        | some (s, rest) => classRest? fuel flags turned join (.either read s) rest
        | none => none
    | c :: d :: rest =>
      if c = d ∧ (c = '&' ∨ c = '-' ∨ c = '~') then
        classRest? fuel flags turned (joinSets c (join read)) CharSet.none rest
      else if flags.spaced ∧ Text.isWhite c then
        classRest? fuel flags turned join read (d :: rest)
      else match classRange? flags cs with
        | some (s, rest) => classRest? fuel flags turned join (.either read s) rest
        | none => none
    | _ => none

end

/-! ## Groups -/

/-- A group that is still open. -/
structure Frame where
  /-- The switches that hold again after the group. -/
  outside : Flags
  alternatives : List Pattern
  items : List (Option Pattern)

/-- A pattern read so far.  Items and alternatives stand last first; an item that is none is a
    change of switches, which cannot be repeated. -/
structure Reader where
  flags : Flags
  alternatives : List Pattern
  items : List (Option Pattern)
  stack : List Frame
  names : List String

namespace Reader

def start : Reader := ⟨Flags.initial, [], [], [], []⟩

def push (r : Reader) (p : Pattern) : Reader := { r with items := some p :: r.items }

/-- The items of the current alternative as one pattern. -/
def sequence (items : List (Option Pattern)) : Pattern :=
  items.foldl (fun p item => seq (item.getD empty) p) empty

/-- All alternatives of the current group as one pattern. -/
def whole (r : Reader) : Pattern :=
  (sequence r.items :: r.alternatives).foldl (fun p a => alt a p) never

/-- Open a group in which the given switches hold. -/
def openGroup (r : Reader) (flags : Flags) : Reader :=
  { r with flags, alternatives := [], items := []
           stack := ⟨r.flags, r.alternatives, r.items⟩ :: r.stack }

/-- Close the innermost group. -/
def closeGroup? (r : Reader) : Option Reader :=
  match r.stack with
  | [] => none
  | frame :: stack => some
    { r with flags := frame.outside, alternatives := frame.alternatives
             items := some r.whole :: frame.items, stack }

/-- Repeat the last item. -/
def repeatLast? (r : Reader) (low : Nat) (high : Option Nat) : Option Reader :=
  match r.items with
  | some p :: items => some { r with items := some (repeated p low high) :: items }
  | _ => none

/-- A set as the pattern of one character. -/
def setOf (flags : Flags) (s : CharSet) : Pattern :=
  .chars (if flags.ignoreCase then .anyCase s else s)

/-! ## Switches -/

/-- Set one switch by its letter.  Two of them change nothing about whether a pattern matches. -/
def setFlag? (flags : Flags) (letter : Char) (on : Bool) : Option Flags :=
  match letter with
  | 'i' => some { flags with ignoreCase := on }
  | 'm' => some { flags with multiLine := on }
  | 's' => some { flags with dotAll := on }
  | 'x' => some { flags with spaced := on }
  | 'u' => some { flags with unicode := on }
  | 'U' => some flags
  | 'R' => some flags
  | _ => none

/-- Switches and the colon or parenthesis that ends them.  No switch and no minus stands twice, and
    a minus is followed by a switch. -/
def switches? (flags : Flags) (on : Bool) (seen : List Char) :
    List Char → Option (Flags × List Char × List Char)
  | [] => none
  | ':' :: rest => if seen.head? = some '-' then none else some (flags, seen, ':' :: rest)
  | ')' :: rest => if seen.head? = some '-' then none else some (flags, seen, ')' :: rest)
  | '-' :: rest => if seen.contains '-' then none else switches? flags false ('-' :: seen) rest
  | c :: rest =>
    if seen.contains c then none
    else match setFlag? flags c on with
      | some flags => switches? flags on (c :: seen) rest
      | none => none

/-- The name of a group, up to its closing angle. -/
def groupName? (r : Reader) (cs : List Char) : Option (Reader × List Char) :=
  let name := cs.takeWhile (· ≠ '>')
  match name, cs.dropWhile (· ≠ '>') with
  | first :: more, _ :: after =>
    let text := String.ofList name
    let letter (c : Char) : Bool := c = '_' || c.isAlpha || (0x80 ≤ c.toNat && Text.isWord c)
    let inner (c : Char) : Bool := letter c || c.isDigit || c = '.' || c = '[' || c = ']'
    if letter first && more.all inner && !r.names.contains text then
      some ({ r with names := text :: r.names }.openGroup r.flags, after)
    else none
  | _, _ => none

/-- What follows an opening parenthesis. -/
def group? (r : Reader) (cs : List Char) : Option (Reader × List Char) :=
  match cs with
  | '?' :: 'P' :: '<' :: rest => r.groupName? rest
  | '?' :: '<' :: '=' :: _ => none
  | '?' :: '<' :: '!' :: _ => none
  | '?' :: '<' :: rest => r.groupName? rest
  | '?' :: rest =>
    match switches? r.flags true [] rest with
    | some (flags, _, ':' :: rest) => some (r.openGroup flags, rest)
    | some (flags, seen, _ :: rest) =>
      if seen = [] then none else some ({ r with flags, items := none :: r.items }, rest)
    | _ => none
  | rest => some (r.openGroup r.flags, rest)

/-! ## Repetitions -/

/-- A number of repetitions. -/
def count? (cs : List Char) : Option (Nat × List Char) :=
  let digits := cs.takeWhile Char.isDigit
  let n := digits.foldl (fun n c => 10 * n + (c.toNat - 48)) 0
  if digits = [] ∨ 4294967296 ≤ n then none else some (n, cs.dropWhile Char.isDigit)

/-- Bounds of a repetition, after the opening brace. -/
def bounds? (cs : List Char) : Option (Nat × Option Nat × List Char) := do
  let (low, rest) ← count? cs
  match rest with
  | '\x7d' :: rest => some (low, some low, rest)
  | ',' :: '\x7d' :: rest => some (low, none, rest)
  | ',' :: rest =>
    let (high, rest) ← count? rest
    match rest with
    | '\x7d' :: rest => if low ≤ high then some (low, some high, rest) else none
    | _ => none
  | _ => none

/-- The text after a question mark that may follow a repetition. -/
def skipLazy (cs : List Char) : List Char :=
  match cs with
  | '?' :: rest => rest
  | rest => rest

/-! ## Steps -/

/-- A dot: any character, or any but a line feed. -/
def dot (flags : Flags) : Option Pattern :=
  if !flags.unicode then none
  else if flags.dotAll then some (.chars CharSet.any)
  else some (.chars (.not (CharSet.single '\n')))

/-- Read one element; `fuel` is at least the length of the text. -/
def step? (fuel : Nat) (r : Reader) (c : Char) (rest : List Char) : Option (Reader × List Char) :=
  match c with
  | '(' => r.group? rest
  | ')' => r.closeGroup?.map fun r => (r, rest)
  | '|' =>
    some ({ r with alternatives := sequence r.items :: r.alternatives, items := [] }, rest)
  | '*' => (r.repeatLast? 0 none).map fun r => (r, skipLazy rest)
  | '+' => (r.repeatLast? 1 none).map fun r => (r, skipLazy rest)
  | '?' => (r.repeatLast? 0 (some 1)).map fun r => (r, skipLazy rest)
  | '\x7b' => do
    let (low, high, rest) ← bounds? rest
    let r ← r.repeatLast? low high
    some (r, skipLazy rest)
  | '[' => (class? fuel r.flags rest).map fun (s, rest) => (r.push (.chars s), rest)
  | '.' => (dot r.flags).map fun p => (r.push p, rest)
  | '^' => some (r.push (.assert (if r.flags.multiLine then .lineStart else .textStart)), rest)
  | '$' => some (r.push (.assert (if r.flags.multiLine then .lineEnd else .textEnd)), rest)
  | '\\' => (escape? r.flags rest).map fun (e, rest) =>
    match e with
    | .char c => (r.push (setOf r.flags (CharSet.single c)), rest)
    | .set s => (r.push (.chars s), rest)
    | .place a => (r.push (.assert a), rest)
  | c =>
    if r.flags.spaced ∧ Text.isWhite c then some (r, rest)
    else if r.flags.spaced ∧ c = '#' then some (r, rest.dropWhile (· ≠ '\n'))
    else some (r.push (setOf r.flags (CharSet.single c)), rest)

/-- Read all elements. -/
def run? (fuel : Nat) (r : Reader) (cs : List Char) : Option Reader :=
  match fuel, cs with
  | _, [] => some r
  | 0, _ => none
  | fuel + 1, c :: rest => (r.step? (2 * (fuel + 1)) c rest).bind fun (r, rest) => run? fuel r rest

end Reader

/-- **Read a pattern.** -/
def ofText? (text : String) : Option Pattern :=
  let cs := text.toList
  match Reader.start.run? cs.length cs with
  | some r => if r.stack.isEmpty then some r.whole else none
  | none => none

end FeatureFlags.Pattern

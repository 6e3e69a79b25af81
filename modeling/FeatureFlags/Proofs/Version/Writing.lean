/-
  THE STRICT FORM READS WHAT THE GRAMMAR OF VERSIONS WRITES, AND NOTHING ELSE.

  The grammar is given from the other side, as writing: `Version.written` puts a version and its
  build parts into letters, `Version.Proper` and `ProperBuild` say which of them the grammar has.

  1. **Runs** — a part ends where the next letter cannot belong to it (`Stops`).
  2. **Numbers** — read exactly in their decimal writing (`number?_eq_some_iff`).
  3. **Identifiers** — a list of them is read exactly in its dotted writing
     (`mapM_splitDots_eq_some_iff`).
  4. **Versions** — `ofStrict?_eq_some_iff`: what is read is a proper version, and its writing is
     the text.
-/
import Mathlib.Data.List.Basic
import FeatureFlags.Version

namespace FeatureFlags

/-! ## Runs of letters -/

/-- A run of letters that satisfy `p` ends before `rest`. -/
def Stops (p : Char → Bool) (rest : List Char) : Prop := ∀ c ∈ rest.head?, p c = false

namespace Stops

variable {p : Char → Bool} {front rest : List Char}

theorem nil : Stops p [] := fun _ h => nomatch h

theorem cons {c : Char} (h : p c = false) : Stops p (c :: rest) := by
  intro d hd
  cases hd
  exact h

theorem append {more : List Char} (h : Stops p rest) (hmore : Stops p more) :
    Stops p (rest ++ more) := by
  cases rest with
  | nil => exact hmore
  | cons c rest => exact h

theorem dropWhile (cs : List Char) : Stops p (cs.dropWhile p) := by
  intro c hc
  have hnot := List.head?_dropWhile_not p cs
  rw [Option.mem_def.mp hc] at hnot
  exact hnot

theorem takeWhile_eq_nil (h : Stops p rest) : rest.takeWhile p = [] := by
  cases rest with
  | nil => rfl
  | cons c rest => exact List.takeWhile_cons_of_neg (by rw [h c rfl]; exact Bool.false_ne_true)

theorem dropWhile_eq_self (h : Stops p rest) : rest.dropWhile p = rest := by
  cases rest with
  | nil => rfl
  | cons c rest => exact List.dropWhile_cons_of_neg (by rw [h c rfl]; exact Bool.false_ne_true)

/-- The run at the front of a text is the front that ends where the rest stops. -/
theorem takeWhile_append (h : Stops p rest) (hfront : ∀ c ∈ front, p c) :
    (front ++ rest).takeWhile p = front := by
  rw [List.takeWhile_append_of_pos hfront, h.takeWhile_eq_nil, List.append_nil]

/-- A run of letters is dropped up to where it stops. -/
theorem dropWhile_append (h : Stops p rest) (hfront : ∀ c ∈ front, p c) :
    (front ++ rest).dropWhile p = rest := by
  rw [List.dropWhile_append_of_pos hfront, h.dropWhile_eq_self]

end Stops

namespace Version

/-! ## Numbers -/

theorem value_toDigits (n : Nat) : value (Nat.toDigits 10 n) = n := Nat.ofDigitChars_ten_toDigits

theorem isDigit_of_mem_toDigits {n : Nat} : ∀ c ∈ Nat.toDigits 10 n, c.isDigit := fun _ hc =>
  Nat.isDigit_of_mem_toDigits (by decide) (by decide) hc

theorem digit_lt {c : Char} (h : c.isDigit) : c.toNat - '0'.toNat < 10 := by
  have hhigh : c.toNat ≤ '9'.toNat :=
    UInt32.le_iff_toNat_le.mp (of_decide_eq_true (Bool.and_eq_true_iff.mp h).2)
  have hzero : '0'.toNat = 48 := rfl
  have hnine : '9'.toNat = 57 := rfl
  omega

theorem digitChar_digit {c : Char} (h : c.isDigit) : Nat.digitChar (c.toNat - '0'.toNat) = c := by
  have hlow : '0'.toNat ≤ c.toNat :=
    UInt32.le_iff_toNat_le.mp (of_decide_eq_true (Bool.and_eq_true_iff.mp h).1)
  have hzero : '0'.toNat = 48 := rfl
  apply Char.toNat_inj.mp
  rw [Nat.toNat_digitChar_of_lt_ten (digit_lt h)]
  omega

theorem toDigits_digit {c : Char} (h : c.isDigit) :
    Nat.toDigits 10 (c.toNat - '0'.toNat) = [c] := by
  rw [Nat.toDigits_of_lt_base (digit_lt h), digitChar_digit h]

/-- Digits read onto a number are its last digits. -/
theorem toDigits_append {n : Nat} {digits : List Char} (hn : 0 < n)
    (hdigits : ∀ c ∈ digits, c.isDigit) :
    Nat.toDigits 10 n ++ digits = Nat.toDigits 10 (Nat.ofDigitChars 10 digits n) := by
  induction digits generalizing n with
  | nil => exact List.append_nil _
  | cons c digits ih =>
    have hc : c.isDigit := hdigits c List.mem_cons_self
    have hpos : 0 < 10 * n + (c.toNat - '0'.toNat) := by omega
    calc Nat.toDigits 10 n ++ c :: digits
      _ = Nat.toDigits 10 n ++ Nat.toDigits 10 (c.toNat - '0'.toNat) ++ digits := by
        rw [toDigits_digit hc]; simp
      _ = Nat.toDigits 10 (10 * n + (c.toNat - '0'.toNat)) ++ digits := by
        rw [Nat.toDigits_append_toDigits (by decide) hn (digit_lt hc)]
      _ = Nat.toDigits 10 (Nat.ofDigitChars 10 (c :: digits) n) :=
        ih hpos fun d hd => hdigits d (List.mem_cons_of_mem c hd)

/-- Digits without a leading zero are the decimal writing of their value. -/
theorem toDigits_value {digits : List Char} (hne : digits ≠ []) (hdigits : ∀ c ∈ digits, c.isDigit)
    (hzero : hasLeadingZero digits = false) : Nat.toDigits 10 (value digits) = digits := by
  cases digits with
  | nil => exact absurd rfl hne
  | cons c rest =>
    have hc : Nat.toDigits 10 (c.toNat - '0'.toNat) = [c] :=
      toDigits_digit (hdigits c List.mem_cons_self)
    have hrest : ∀ d ∈ rest, d.isDigit := fun d hd => hdigits d (List.mem_cons_of_mem c hd)
    have hvalue : value (c :: rest) = Nat.ofDigitChars 10 rest (c.toNat - '0'.toNat) := by
      rw [value, List.foldl_cons, Nat.mul_zero, Nat.zero_add]
      rfl
    cases rest with
    | nil =>
      rw [hvalue]
      exact hc
    | cons d more =>
      -- the first of several digits is not zero
      have hpos : 0 < c.toNat - '0'.toNat := by
        refine Nat.pos_of_ne_zero fun hnone => ?_
        rw [hnone] at hc
        cases hc
        cases hzero
      rw [hvalue, ← toDigits_append hpos hrest, hc, List.singleton_append]

/-- Only zero is written with a zero in front. -/
theorem eq_zero_of_head?_toDigits {n : Nat} : (Nat.toDigits 10 n).head? = some '0' → n = 0 := by
  induction n using Nat.base_induction (b := 10) (by decide) with
  | single m hm =>
    intro h
    rw [Nat.toDigits_of_lt_base hm] at h
    exact Nat.digitChar_eq_zero.mp (Option.some.inj h)
  | digit m k hk hm ih =>
    intro h
    rw [← Nat.toDigits_append_toDigits (by decide) hm hk,
      List.head?_append_of_ne_nil _ Nat.toDigits_ne_nil] at h
    exact absurd (ih h) (Nat.ne_of_gt hm)

/-- No number is written with a leading zero: zero itself is a single digit. -/
theorem hasLeadingZero_toDigits (n : Nat) : hasLeadingZero (Nat.toDigits 10 n) = false := by
  rw [hasLeadingZero.eq_def]
  split
  case h_1 d rest h =>
    have hn : n = 0 := eq_zero_of_head?_toDigits (by rw [h]; rfl)
    subst hn
    cases h
  case h_2 => rfl

/-- A number is read exactly in its decimal writing, if it fits. -/
theorem number?_eq_some_iff {cs rest : List Char} {n : Nat} :
    number? cs = some (n, rest) ↔
      n < UInt64.size ∧ cs = Nat.toDigits 10 n ++ rest ∧ Stops Char.isDigit rest := by
  constructor
  · intro h
    rw [number?, Option.ite_none_left_eq_some] at h
    obtain ⟨hread, heq⟩ := h
    cases heq
    simp only [Bool.or_eq_true, decide_eq_true_eq, not_or, Nat.not_le, Bool.not_eq_true] at hread
    obtain ⟨⟨hne, hzero⟩, hlt⟩ := hread
    refine ⟨hlt, ?_, .dropWhile cs⟩
    rw [toDigits_value hne (List.all_eq_true.mp List.all_takeWhile) hzero]
    exact List.takeWhile_append_dropWhile.symm
  · rintro ⟨hlt, rfl, hstop⟩
    rw [number?, hstop.takeWhile_append isDigit_of_mem_toDigits,
      hstop.dropWhile_append isDigit_of_mem_toDigits]
    rw [value_toDigits, if_neg]
    simp only [Bool.or_eq_true, decide_eq_true_eq, not_or, Nat.not_le, Bool.not_eq_true]
    exact ⟨⟨Nat.toDigits_ne_nil, hasLeadingZero_toDigits n⟩, hlt⟩

/-- After a dot, a number is read exactly in its decimal writing. -/
theorem dotNumber?_eq_some_iff {cs rest : List Char} {n : Nat} :
    dotNumber? cs = some (n, rest) ↔
      n < UInt64.size ∧ cs = '.' :: (Nat.toDigits 10 n ++ rest) ∧ Stops Char.isDigit rest := by
  constructor
  · intro h
    rw [dotNumber?.eq_def] at h
    split at h
    case h_1 more =>
      obtain ⟨hlt, rfl, hstop⟩ := number?_eq_some_iff.mp h
      exact ⟨hlt, rfl, hstop⟩
    case h_2 => cases h
  · rintro ⟨hlt, rfl, hstop⟩
    exact number?_eq_some_iff.mpr ⟨hlt, rfl, hstop⟩

/-! ## Identifiers -/

/-- Parts with dots between them. -/
def dotted (parts : List (List Char)) : List Char := ['.'].intercalate parts

/-- Splitting at dots, as the library does it. -/
theorem splitDots_eq (cs : List Char) : splitDots cs = cs.splitOn '.' := by
  induction cs with
  | nil => rfl
  | cons c cs ih =>
    rw [List.splitOn_cons_eq_if_modifyHead, splitDots, ih]
    cases hparts : cs.splitOn '.' with
    | nil => exact absurd hparts (List.splitOn_ne_nil '.' cs)
    | cons first more => simp

/-- Parts joined by dots are the text that was split. -/
theorem dotted_splitDots (cs : List Char) : dotted (splitDots cs) = cs := by
  rw [splitDots_eq]
  exact List.intercalate_splitOn '.'

theorem splitDots_dotted {parts : List (List Char)} (hne : parts ≠ [])
    (hparts : ∀ part ∈ parts, '.' ∉ part) :
    splitDots (dotted parts) = parts := by
  rw [splitDots_eq]
  exact List.splitOn_intercalate '.' hparts hne

/-- A part has letters of the text, and no dot. -/
theorem mem_splitDots {cs part : List Char} (hpart : part ∈ splitDots cs) {c : Char}
    (hc : c ∈ part) :
    c ∈ cs ∧ c ≠ '.' := by
  induction cs generalizing part with
  | nil =>
    cases List.mem_singleton.mp hpart
    cases hc
  | cons d cs ih =>
    have hstep : ∀ other ∈ splitDots cs, c ∈ other → c ∈ d :: cs ∧ c ≠ '.' :=
      fun other hother hmem =>
        ⟨List.mem_cons_of_mem d (ih hother hmem).1, (ih hother hmem).2⟩
    by_cases hdot : d = '.'
    · -- a dot begins a new part, which is empty
      rw [splitDots, if_pos hdot] at hpart
      rcases List.mem_cons.mp hpart with rfl | hpart
      · cases hc
      · exact hstep part hpart hc
    · -- any other letter joins the first part
      have hself : c = d → c ∈ d :: cs ∧ c ≠ '.' := by
        rintro rfl
        exact ⟨List.mem_cons_self, hdot⟩
      rw [splitDots, if_neg hdot] at hpart
      cases hparts : splitDots cs with
      | nil =>
        rw [hparts] at hpart
        cases List.mem_singleton.mp hpart
        exact hself (List.mem_singleton.mp hc)
      | cons first more =>
        rw [hparts] at hpart hstep
        rcases List.mem_cons.mp hpart with rfl | hpart
        · rcases List.mem_cons.mp hc with hc | hc
          · exact hself hc
          · exact hstep first List.mem_cons_self hc
        · exact hstep part (List.mem_cons_of_mem first hpart) hc

/-- The dots are the only letters that joining adds. -/
theorem mem_dotted {parts : List (List Char)} {c : Char} (h : c ∈ dotted parts) :
    c = '.' ∨ ∃ part ∈ parts, c ∈ part := by
  induction parts with
  | nil => cases h
  | cons part parts ih =>
    cases parts with
    | nil =>
      rw [dotted, List.intercalate_singleton] at h
      exact .inr ⟨part, List.mem_cons_self, h⟩
    | cons next more =>
      rw [dotted, List.intercalate_cons_cons, List.mem_append, List.mem_append, List.mem_singleton]
        at h
      rcases h with (h | h) | h
      · exact .inr ⟨part, List.mem_cons_self, h⟩
      · exact .inl h
      · exact (ih h).imp_right fun ⟨other, hother, hc⟩ =>
          ⟨other, List.mem_cons_of_mem part hother, hc⟩

end Version

namespace Identifier

/-- What an identifier is written as. -/
def letters : Identifier → List Char
  | numeric n => Nat.toDigits 10 n
  | word w => w.toList

/-- The identifiers of the grammar: every number, and the words that are no number. -/
def Proper : Identifier → Prop
  | numeric _ => True
  | word w => (∀ c ∈ w.toList, Version.isIdentifierChar c) ∧ ∃ c ∈ w.toList, c.isDigit = false

end Identifier

namespace Version

theorem isIdentifierChar_of_isDigit {c : Char} (h : c.isDigit) : isIdentifierChar c := by
  rw [isIdentifierChar, Char.isAlphanum, h, Bool.or_true, Bool.true_or]

/-- Numbers and words are written in the letters of identifiers. -/
theorem isIdentifierChar_of_mem_letters {i : Identifier} (h : i.Proper) :
    ∀ c ∈ i.letters, isIdentifierChar c := by
  cases i with
  | numeric n => exact fun c hc => isIdentifierChar_of_isDigit (isDigit_of_mem_toDigits c hc)
  | word w => exact h.1

theorem isIdentifierChar_of_mem_map_letters {ids : List Identifier} (h : ∀ i ∈ ids, i.Proper) :
    ∀ part ∈ ids.map Identifier.letters, ∀ c ∈ part, isIdentifierChar c := by
  intro part hpart
  obtain ⟨i, hi, rfl⟩ := List.mem_map.mp hpart
  exact isIdentifierChar_of_mem_letters (h i hi)

/-- An identifier is read exactly in its writing. -/
theorem identifier?_eq_some_iff {cs : List Char} (hcs : ∀ c ∈ cs, isIdentifierChar c)
    {i : Identifier} :
    identifier? cs = some i ↔ i.Proper ∧ cs = i.letters := by
  constructor
  · intro h
    rw [identifier?, Option.ite_none_left_eq_some] at h
    obtain ⟨hne, h⟩ := h
    split at h
    case isTrue hdigits =>
      rw [Option.ite_none_left_eq_some] at h
      obtain ⟨hzero, heq⟩ := h
      cases heq
      refine ⟨trivial, (toDigits_value hne (List.all_eq_true.mp hdigits) ?_).symm⟩
      exact Bool.eq_false_iff.mpr hzero
    case isFalse hdigits =>
      cases h
      refine ⟨⟨?_, ?_⟩, String.toList_ofList.symm⟩
      · rw [String.toList_ofList]
        exact hcs
      · rw [String.toList_ofList]
        simpa using hdigits
  · rintro ⟨hproper, rfl⟩
    cases i with
    | numeric n =>
      have hall : (Nat.toDigits 10 n).all Char.isDigit :=
        List.all_eq_true.mpr isDigit_of_mem_toDigits
      rw [identifier?, Identifier.letters, if_neg Nat.toDigits_ne_nil, if_pos hall,
        hasLeadingZero_toDigits, value_toDigits]
      rfl
    | word w =>
      obtain ⟨c, hc, hdigit⟩ := hproper.2
      rw [identifier?, Identifier.letters, if_neg (List.ne_nil_of_mem hc), if_neg,
        String.ofList_toList]
      intro hall
      rw [List.all_eq_true.mp hall c hc] at hdigit
      cases hdigit

/-- Identifiers are read exactly in their writing, one from each part. -/
theorem mapM_identifier?_eq_some_iff {parts : List (List Char)} {ids : List Identifier}
    (hparts : ∀ part ∈ parts, ∀ c ∈ part, isIdentifierChar c) :
    parts.mapM identifier? = some ids ↔
      (∀ i ∈ ids, i.Proper) ∧ parts = ids.map Identifier.letters := by
  induction parts generalizing ids with
  | nil =>
    rw [List.mapM_nil]
    cases ids with
    | nil => simp
    | cons i ids => simp
  | cons part parts ih =>
    have hpart : ∀ c ∈ part, isIdentifierChar c := hparts part List.mem_cons_self
    have hmore : ∀ p ∈ parts, ∀ c ∈ p, isIdentifierChar c :=
      fun p hp => hparts p (List.mem_cons_of_mem part hp)
    simp only [List.mapM_cons, Option.bind_eq_bind, Option.bind_eq_some_iff, Option.pure_def,
      Option.some.injEq]
    constructor
    · rintro ⟨i, hi, more, hids, rfl⟩
      obtain ⟨hproper, rfl⟩ := (identifier?_eq_some_iff hpart).mp hi
      obtain ⟨hpropers, rfl⟩ := (ih hmore).mp hids
      exact ⟨List.forall_mem_cons.mpr ⟨hproper, hpropers⟩, rfl⟩
    · rintro ⟨hpropers, hletters⟩
      cases ids with
      | nil => cases hletters
      | cons i more =>
        obtain ⟨hproper, hpropers⟩ := List.forall_mem_cons.mp hpropers
        obtain ⟨hi, hids⟩ := List.cons.inj hletters
        exact ⟨i, (identifier?_eq_some_iff hpart).mpr ⟨hproper, hi⟩, more,
          (ih hmore).mpr ⟨hpropers, hids⟩, rfl⟩

/-- Identifiers joined by dots are read back, and nothing else is read. -/
theorem mapM_splitDots_eq_some_iff {cs : List Char} {ids : List Identifier}
    (hcs : ∀ c ∈ cs, isListChar c) :
    (splitDots cs).mapM identifier? = some ids ↔
      (∀ i ∈ ids, i.Proper) ∧ ids ≠ [] ∧ cs = dotted (ids.map Identifier.letters) := by
  have hparts : ∀ part ∈ splitDots cs, ∀ c ∈ part, isIdentifierChar c := by
    intro part hpart c hc
    obtain ⟨hmem, hdot⟩ := mem_splitDots hpart hc
    exact (Bool.or_eq_true_iff.mp (hcs c hmem)).resolve_right (by simpa using hdot)
  rw [mapM_identifier?_eq_some_iff hparts]
  constructor
  · rintro ⟨hproper, hletters⟩
    refine ⟨hproper, ?_, by rw [← hletters, dotted_splitDots]⟩
    rintro rfl
    rw [splitDots_eq] at hletters
    exact List.splitOn_ne_nil '.' cs hletters
  · rintro ⟨hproper, hne, rfl⟩
    refine ⟨hproper, splitDots_dotted (fun hnone => hne (List.map_eq_nil_iff.mp hnone)) ?_⟩
    intro part hpart hdot
    exact absurd (isIdentifierChar_of_mem_map_letters hproper part hpart '.' hdot) (by decide)

/-! ## Pre-release and build parts -/

/-- A mark and the parts that follow it; without parts there is no mark. -/
def marked (mark : Char) : List (List Char) → List Char
  | [] => []
  | part :: parts => mark :: dotted (part :: parts)

/-- The build parts of the grammar: letters, digits and hyphens, at least one of them. -/
def ProperBuild (build : List (List Char)) : Prop :=
  ∀ part ∈ build, part ≠ [] ∧ ∀ c ∈ part, isIdentifierChar c

/-- The pre-release part at the front of a text. -/
def prerelease? (cs : List Char) : Option (List Identifier × List Char) :=
  match cs with
  | '-' :: more => do
    let ids ← (splitDots (more.takeWhile isListChar)).mapM identifier?
    pure (ids, more.dropWhile isListChar)
  | _ => pure ([], cs)

/-- Whether a text is nothing or a build part. -/
def isBuild : List Char → Bool
  | [] => true
  | '+' :: build => (splitDots build).all fun part => part ≠ [] && part.all isIdentifierChar
  | _ => false

/-- Reading a suffix is reading a pre-release part, and a build part to the end. -/
theorem suffix?_eq (cs : List Char) :
    suffix? cs = (prerelease? cs).bind fun read =>
      if isBuild read.2 then some read.1 else none := by
  have hend : ∀ (ids : List Identifier) (rest : List Char), (match rest with
      | [] => pure ids
      | '+' :: build =>
        if (splitDots build).all fun part =>
          part ≠ [] && part.all isIdentifierChar then pure ids else none
      | _ => none) = if isBuild rest then some ids else none := by
    intro ids rest
    rw [isBuild.eq_def]
    split
    case h_1 => rfl
    case h_2 => rfl
    case h_3 => rfl
  rw [suffix?.eq_def]
  split
  case h_1 more =>
    rw [prerelease?]
    cases (splitDots (more.takeWhile isListChar)).mapM identifier? with
    | none => rfl
    | some ids => exact hend ids (more.dropWhile isListChar)
  case h_2 hother =>
    rw [prerelease?]
    · exact hend [] cs
    · exact hother

theorem isListChar_of_mem_dotted {parts : List (List Char)}
    (h : ∀ part ∈ parts, ∀ c ∈ part, isIdentifierChar c) :
    ∀ c ∈ dotted parts, isListChar c := by
  intro c hc
  rcases mem_dotted hc with rfl | ⟨part, hpart, hmem⟩
  · rfl
  · rw [isListChar, h part hpart c hmem, Bool.true_or]

theorem marked_of_ne_nil {mark : Char} {parts : List (List Char)} (h : parts ≠ []) :
    marked mark parts = mark :: dotted parts := by
  cases parts with
  | nil => exact absurd rfl h
  | cons part parts => rfl

/-- A mark ends every run that it does not belong to. -/
theorem stops_marked {p : Char → Bool} {mark : Char} (parts : List (List Char))
    (h : p mark = false) :
    Stops p (marked mark parts) := by
  cases parts with
  | nil => exact .nil
  | cons part parts => exact .cons h

/-- A prerelease is read exactly in its writing behind a hyphen. -/
theorem prerelease?_eq_some_iff {cs rest : List Char} {ids : List Identifier}
    (hrest : Stops isListChar rest) :
    prerelease? cs = some (ids, rest) ↔
      (∀ i ∈ ids, i.Proper) ∧ cs = marked '-' (ids.map Identifier.letters) ++ rest := by
  constructor
  · intro h
    rw [prerelease?.eq_def] at h
    split at h
    case h_1 more =>
      rw [Option.bind_eq_bind, Option.bind_eq_some_iff] at h
      obtain ⟨ids, hids, heq⟩ := h
      cases heq
      obtain ⟨hproper, hne, hletters⟩ :=
        (mapM_splitDots_eq_some_iff (List.all_eq_true.mp List.all_takeWhile)).mp hids
      refine ⟨hproper, ?_⟩
      rw [marked_of_ne_nil (fun hnone => hne (List.map_eq_nil_iff.mp hnone)), ← hletters,
        List.cons_append, List.takeWhile_append_dropWhile]
    case h_2 =>
      cases h
      exact ⟨fun _ hi => (List.not_mem_nil hi).elim, rfl⟩
  · rintro ⟨hproper, rfl⟩
    by_cases hnone : ids = []
    · subst hnone
      rw [List.map_nil, marked, List.nil_append, prerelease?.eq_def]
      split
      case h_1 more => exact absurd (hrest '-' rfl) (by decide)
      case h_2 => rfl
    · have hchars := isListChar_of_mem_dotted (isIdentifierChar_of_mem_map_letters hproper)
      have hread := (mapM_splitDots_eq_some_iff hchars).mpr ⟨hproper, hnone, rfl⟩
      rw [marked_of_ne_nil (fun hparts => hnone (List.map_eq_nil_iff.mp hparts)), List.cons_append,
        prerelease?, hrest.takeWhile_append hchars, hrest.dropWhile_append hchars, hread]
      rfl

/-- A build is accepted exactly in its writing behind a plus sign. -/
theorem isBuild_iff {cs : List Char} :
    isBuild cs ↔ ∃ build, ProperBuild build ∧ cs = marked '+' build := by
  constructor
  · intro h
    rw [isBuild.eq_def] at h
    split at h
    case h_1 => exact ⟨[], fun _ hpart => (List.not_mem_nil hpart).elim, rfl⟩
    case h_2 more =>
      refine ⟨splitDots more, fun part hpart => ?_, ?_⟩
      · have hgood := List.all_eq_true.mp h part hpart
        simpa using hgood
      · rw [marked_of_ne_nil (by rw [splitDots_eq]; exact List.splitOn_ne_nil '.' more),
          dotted_splitDots]
    case h_3 => cases h
  · rintro ⟨build, hproper, rfl⟩
    cases build with
    | nil => rfl
    | cons part more =>
      have hparts : ∀ p ∈ part :: more, '.' ∉ p := fun p hp hdot =>
        absurd ((hproper p hp).2 '.' hdot) (by decide)
      rw [marked, isBuild, splitDots_dotted (List.cons_ne_nil part more) hparts, List.all_eq_true]
      intro p hp
      have hgood := hproper p hp
      simpa using hgood

/-- Behind the numbers stand a prerelease and a build, each of them if there is one. -/
theorem suffix?_eq_some_iff {cs : List Char} {ids : List Identifier} :
    suffix? cs = some ids ↔ (∀ i ∈ ids, i.Proper) ∧
      ∃ build, ProperBuild build ∧
        cs = marked '-' (ids.map Identifier.letters) ++ marked '+' build := by
  rw [suffix?_eq, Option.bind_eq_some_iff]
  constructor
  · rintro ⟨⟨others, rest⟩, hread, hbuild⟩
    rw [Option.ite_none_right_eq_some] at hbuild
    obtain ⟨hbuild, heq⟩ := hbuild
    cases heq
    obtain ⟨build, hproper, rfl⟩ := isBuild_iff.mp hbuild
    obtain ⟨hids, heq⟩ := (prerelease?_eq_some_iff (stops_marked build (by decide))).mp hread
    exact ⟨hids, build, hproper, heq⟩
  · rintro ⟨hids, build, hproper, heq⟩
    have hread := (prerelease?_eq_some_iff (stops_marked build (by decide))).mpr ⟨hids, heq⟩
    exact ⟨(ids, marked '+' build), hread, if_pos (isBuild_iff.mpr ⟨build, hproper, rfl⟩)⟩

/-! ## Versions -/

/-- The versions of the grammar: numbers of 64 bits and identifiers of the grammar. -/
structure Proper (v : Version) : Prop where
  major : v.major < UInt64.size
  minor : v.minor < UInt64.size
  patch : v.patch < UInt64.size
  prerelease : ∀ i ∈ v.prerelease, i.Proper

/-- What a version is written as, with build parts. -/
def written (v : Version) (build : List (List Char)) : List Char :=
  Nat.toDigits 10 v.major ++ '.' :: (Nat.toDigits 10 v.minor ++ '.' :: (Nat.toDigits 10 v.patch ++
    (marked '-' (v.prerelease.map Identifier.letters) ++ marked '+' build)))

/-- **The strict form reads exactly the writings of proper versions**, and gives the version
    back. -/
theorem ofStrict?_eq_some_iff {cs : List Char} {v : Version} :
    ofStrict? cs = some v ↔ v.Proper ∧ ∃ build, ProperBuild build ∧ cs = v.written build := by
  simp only [ofStrict?, Option.bind_eq_bind, Option.bind_eq_some_iff, Option.pure_def,
    Option.some.injEq, Prod.exists]
  constructor
  · rintro ⟨major, _, hfirst, minor, _, hsecond, patch, _, hthird, ids, hsuffix, rfl⟩
    obtain ⟨hmajor, rfl, -⟩ := number?_eq_some_iff.mp hfirst
    obtain ⟨hminor, rfl, -⟩ := dotNumber?_eq_some_iff.mp hsecond
    obtain ⟨hpatch, rfl, -⟩ := dotNumber?_eq_some_iff.mp hthird
    obtain ⟨hids, build, hbuild, rfl⟩ := suffix?_eq_some_iff.mp hsuffix
    exact ⟨⟨hmajor, hminor, hpatch, hids⟩, build, hbuild, rfl⟩
  · rintro ⟨hproper, build, hbuild, rfl⟩
    have hdot : ∀ rest, Stops Char.isDigit ('.' :: rest) := fun rest => .cons (by decide)
    have hsuffix :
        Stops Char.isDigit (marked '-' (v.prerelease.map Identifier.letters) ++ marked '+' build) :=
      (stops_marked _ (by decide)).append (stops_marked _ (by decide))
    exact ⟨v.major, _, number?_eq_some_iff.mpr ⟨hproper.major, rfl, hdot _⟩,
      v.minor, _, dotNumber?_eq_some_iff.mpr ⟨hproper.minor, rfl, hdot _⟩,
      v.patch, _, dotNumber?_eq_some_iff.mpr ⟨hproper.patch, rfl, hsuffix⟩,
      v.prerelease, suffix?_eq_some_iff.mpr ⟨hproper.prerelease, build, hbuild, rfl⟩, rfl⟩

end Version

end FeatureFlags

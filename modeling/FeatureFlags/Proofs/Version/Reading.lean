/-
  THE LENIENT FORM — what zeros and build parts do to the reading of a version.

  A text in strict form has two dots in its leading run of digits and dots, so nothing is put into
  it: the lenient form reads every text by padding it and reading strictly (`ofText?_eq`).

  1. **Padding** — depends on the leading run and its dots alone (`padded_append`).
  2. **Strict texts** — are read as they are (`ofText?_written`).
  3. **Zeros** — writing one of the missing numbers as 0 changes nothing (`ofText?_append_zero`).
  4. **Build parts** — a text that is read with one is read without it as the same version
     (`ofText?_of_plus`).
-/
import FeatureFlags.Proofs.Version.Writing

namespace FeatureFlags.Version

/-! ## Padding -/

/-- The zeros for the numbers that a run with so many dots leaves out. -/
def zeros (dots : Nat) : List Char := (List.replicate (2 - dots) ['.', '0']).flatten

/-- Fewer than two dots: a zero is missing. -/
theorem zeros_of_lt {dots : Nat} (h : dots < 2) : zeros dots = '.' :: '0' :: zeros (dots + 1) := by
  have hnext : 2 - dots = (2 - (dots + 1)) + 1 := by omega
  rw [zeros, hnext, List.replicate_succ, List.flatten_cons]
  rfl

theorem zeros_of_le {dots : Nat} (h : 2 ≤ dots) : zeros dots = [] := by
  rw [zeros, Nat.sub_eq_zero_of_le h]
  rfl

/-- What is added stands between the numbers and what follows them. -/
theorem padded_append {numbers rest : List Char} (hnumbers : ∀ c ∈ numbers, isNumbersChar c)
    (hrest : Stops isNumbersChar rest) :
    padded (numbers ++ rest) = numbers ++ zeros (numbers.count '.') ++ rest := by
  rw [padded, hrest.takeWhile_append hnumbers, hrest.dropWhile_append hnumbers]
  rfl

/-- A text is padded before its first `+`. -/
theorem padded_append_plus (cs more : List Char) :
    padded (cs ++ '+' :: more) = padded cs ++ '+' :: more := by
  have hnumbers : ∀ c ∈ cs.takeWhile isNumbersChar, isNumbersChar c :=
    List.all_eq_true.mp List.all_takeWhile
  have hrest : Stops isNumbersChar (cs.dropWhile isNumbersChar) := .dropWhile cs
  calc padded (cs ++ '+' :: more)
    _ = padded (cs.takeWhile isNumbersChar ++ (cs.dropWhile isNumbersChar ++ '+' :: more)) := by
      rw [← List.append_assoc, List.takeWhile_append_dropWhile]
    _ = padded (cs.takeWhile isNumbersChar ++ cs.dropWhile isNumbersChar) ++ '+' :: more := by
      rw [padded_append hnumbers (hrest.append (.cons (by decide))), padded_append hnumbers hrest]
      simp only [List.append_assoc]
    _ = padded cs ++ '+' :: more := by rw [List.takeWhile_append_dropWhile]

/-! ## Strict texts -/

theorem isNumbersChar_of_mem_toDigits {n : Nat} : ∀ c ∈ Nat.toDigits 10 n, isNumbersChar c := by
  intro c hc
  rw [isNumbersChar, isDigit_of_mem_toDigits c hc, Bool.true_or]

/-- A decimal number has no dot. -/
theorem count_dot_toDigits (n : Nat) : (Nat.toDigits 10 n).count '.' = 0 :=
  List.count_eq_zero.mpr fun hdot => absurd (isDigit_of_mem_toDigits '.' hdot) (by decide)

/-- The numbers of a version, with their dots. -/
def numbersText (v : Version) : List Char :=
  Nat.toDigits 10 v.major ++ '.' :: (Nat.toDigits 10 v.minor ++ '.' :: Nat.toDigits 10 v.patch)

/-- A version is written as its numbers, and then its identifiers with their marks. -/
theorem written_eq (v : Version) (build : List (List Char)) :
    v.written build =
      v.numbersText ++ (marked '-' (v.prerelease.map Identifier.letters) ++ marked '+' build) := by
  simp only [written, numbersText, List.append_assoc, List.cons_append]

theorem isNumbersChar_of_mem_numbersText (v : Version) : ∀ c ∈ v.numbersText, isNumbersChar c := by
  intro c hc
  simp only [numbersText, List.mem_append, List.mem_cons] at hc
  rcases hc with hc | rfl | hc | rfl | hc
  · exact isNumbersChar_of_mem_toDigits c hc
  · rfl
  · exact isNumbersChar_of_mem_toDigits c hc
  · rfl
  · exact isNumbersChar_of_mem_toDigits c hc

/-- Three numbers have two dots between them. -/
theorem count_dot_numbersText (v : Version) : v.numbersText.count '.' = 2 := by
  simp only [numbersText, List.count_append, List.count_cons_self, count_dot_toDigits]

/-- So a complete version is left as it is. -/
theorem padded_written (v : Version) (build : List (List Char)) :
    padded (v.written build) = v.written build := by
  have hsuffix :
      Stops isNumbersChar (marked '-' (v.prerelease.map Identifier.letters) ++ marked '+' build) :=
    (stops_marked _ (by decide)).append (stops_marked _ (by decide))
  rw [written_eq, padded_append v.isNumbersChar_of_mem_numbersText hsuffix, count_dot_numbersText,
    zeros_of_le (Nat.le_refl 2), List.append_nil]

/-- The lenient form reads the padded text strictly. -/
theorem ofText?_eq (s : String) : ofText? s = ofStrict? (padded s.toList) := by
  rw [ofText?]
  cases hstrict : ofStrict? s.toList with
  | none => rfl
  | some v =>
    obtain ⟨-, build, -, hwritten⟩ := ofStrict?_eq_some_iff.mp hstrict
    rw [hwritten, padded_written, ← hwritten, hstrict]
    rfl

/-- **A text in strict form is read as the version it writes.** -/
theorem ofText?_written {v : Version} {build : List (List Char)} (hv : v.Proper)
    (hbuild : ProperBuild build) :
    ofText? (String.ofList (v.written build)) = some v := by
  rw [ofText?_eq, String.toList_ofList, padded_written]
  exact ofStrict?_eq_some_iff.mpr ⟨hv, build, hbuild, rfl⟩

/-! ## Zeros -/

/-- **A missing number reads as a zero that is written out.** -/
theorem ofText?_append_zero {numbers rest : String}
    (hnumbers : ∀ c ∈ numbers.toList, isNumbersChar c) (hfew : numbers.toList.count '.' < 2)
    (hrest : Stops isNumbersChar rest.toList) :
    ofText? (numbers ++ ".0" ++ rest) = ofText? (numbers ++ rest) := by
  have hmore : ∀ c ∈ numbers.toList ++ ['.', '0'], isNumbersChar c := by
    intro c hc
    rcases List.mem_append.mp hc with hc | hc
    · exact hnumbers c hc
    · rcases List.mem_pair.mp hc with rfl | rfl
      · rfl
      · rfl
  have hcount : (numbers.toList ++ ['.', '0']).count '.' = numbers.toList.count '.' + 1 := by
    rw [List.count_append]
    rfl
  rw [ofText?_eq, ofText?_eq, String.toList_append, String.toList_append, String.toList_append]
  show ofStrict? (padded (numbers.toList ++ ['.', '0'] ++ rest.toList)) = _
  rw [padded_append hmore hrest, padded_append hnumbers hrest, hcount, zeros_of_lt hfew]
  simp

/-! ## Build parts -/

/-- Without build parts there is no plus sign in the writing of a version. -/
theorem plus_not_mem_written {v : Version} (hv : v.Proper) : '+' ∉ v.written [] := by
  intro hplus
  rw [written_eq, marked, List.append_nil, List.mem_append] at hplus
  rcases hplus with hplus | hplus
  · exact absurd (v.isNumbersChar_of_mem_numbersText '+' hplus) (by decide)
  · cases hids : v.prerelease.map Identifier.letters with
    | nil =>
      rw [hids] at hplus
      cases hplus
    | cons part parts =>
      rw [hids, marked, ← hids, List.mem_cons] at hplus
      have hchars := isListChar_of_mem_dotted (isIdentifierChar_of_mem_map_letters hv.prerelease)
      exact absurd (hchars '+' (hplus.resolve_left (by decide))) (by decide)

theorem plus_not_mem_dotted {build : List (List Char)} (h : ProperBuild build) :
    '+' ∉ dotted build := fun hplus =>
  absurd (isListChar_of_mem_dotted (fun part hpart => (h part hpart).2) '+' hplus) (by decide)

theorem written_append_marked (v : Version) (build : List (List Char)) :
    v.written build = v.written [] ++ marked '+' build := by
  simp only [written_eq, List.append_assoc]
  rfl

/-- The strict form of a text with a `+` has one `+`, and what stands before it is the text without
    build part. -/
theorem ofStrict?_of_plus {cs more : List Char} {v : Version}
    (h : ofStrict? (cs ++ '+' :: more) = some v) :
    ofStrict? cs = some v := by
  obtain ⟨hv, build, hbuild, hwritten⟩ := ofStrict?_eq_some_iff.mp h
  have hcore : '+' ∉ v.written [] := plus_not_mem_written hv
  rw [written_append_marked] at hwritten
  cases build with
  | nil =>
    rw [marked, List.append_nil] at hwritten
    exact absurd (hwritten ▸ List.mem_append_right cs List.mem_cons_self) hcore
  | cons part parts =>
    have hcs : v.written [] = cs :=
      ((List.append_cons_inj_of_notMem hcore (plus_not_mem_dotted hbuild)).mp hwritten.symm).1
    exact ofStrict?_eq_some_iff.mpr ⟨hv, [], fun _ hpart => (List.not_mem_nil hpart).elim, hcs.symm⟩

/-- **A text with a build part is read as the text without it.** -/
theorem ofText?_of_plus {core build : String} {v : Version}
    (h : ofText? (core ++ "+" ++ build) = some v) :
    ofText? core = some v := by
  have hletters : (core ++ "+" ++ build).toList = core.toList ++ '+' :: build.toList := by
    rw [String.toList_append, String.toList_append, List.append_assoc]
    rfl
  rw [ofText?_eq, hletters, padded_append_plus] at h
  rw [ofText?_eq]
  exact ofStrict?_of_plus h

end FeatureFlags.Version

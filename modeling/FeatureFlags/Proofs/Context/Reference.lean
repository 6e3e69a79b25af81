/-
  REFERENCES AND THEIR TEXTS — a reference read from its text is the same reference.

  A literal names an attribute by its whole name; only if that starts with a slash must its text be
  escaped.  Its text is then a path of one part, which stands for the name.

  1. **Escapes** — an escaped name has no slash, so a path of it has one part
     (`splitSlashes_of_not_mem`), and unescaping gives the name back (`unescape_escape`).
  2. **Main result (`ofText_text`)** — however a reference was made, its text leads to it again.
-/
import FeatureFlags.Context.Reference

namespace FeatureFlags.Reference

/-! ## Escapes -/

theorem escape_cons {c : Char} (htilde : c ≠ '~') (hslash : c ≠ '/') (rest : List Char) :
    escape (c :: rest) = c :: escape rest := by
  rw [escape]
  · exact htilde
  · exact hslash

theorem unescape_cons {c : Char} (htilde : c ≠ '~') (rest : List Char) :
    unescape (c :: rest) = (unescape rest).map (c :: ·) := by
  rw [unescape]
  all_goals intros; contradiction

/-- **Escaping is undone** by unescaping. -/
theorem unescape_escape (name : List Char) : unescape (escape name) = some name := by
  induction name using escape.induct with
  | case1 => rfl
  | case2 rest ih => rw [escape, unescape, ih, Option.map_some]
  | case3 rest ih => rw [escape, unescape, ih, Option.map_some]
  | case4 c rest htilde hslash ih =>
    rw [escape_cons htilde hslash, unescape_cons htilde, ih, Option.map_some]

/-- What is escaped has no slash left. -/
theorem not_mem_escape (name : List Char) : '/' ∉ escape name := by
  induction name using escape.induct with
  | case1 => exact List.not_mem_nil
  | case2 rest ih => simp [escape, ih]
  | case3 rest ih => simp [escape, ih]
  | case4 c rest htilde hslash ih =>
    rw [escape_cons htilde hslash, List.mem_cons, not_or]
    exact ⟨fun heq => hslash heq.symm, ih⟩

theorem escape_ne_nil {c : Char} {rest : List Char} : escape (c :: rest) ≠ [] := by
  by_cases htilde : c = '~'
  · subst htilde
    exact List.cons_ne_nil _ _
  · by_cases hslash : c = '/'
    · subst hslash
      exact List.cons_ne_nil _ _
    · rw [escape_cons htilde hslash]
      exact List.cons_ne_nil _ _

/-- Where no slash is, nothing is cut. -/
theorem splitSlashes_of_not_mem {part : List Char} (h : '/' ∉ part) :
    splitSlashes part = [part] := by
  induction part with
  | nil => rfl
  | cons c rest ih =>
    have hc : c ≠ '/' := fun heq => h (heq ▸ List.mem_cons_self ..)
    have hrest : splitSlashes rest = [rest] := ih fun hmem => h (List.mem_cons_of_mem c hmem)
    rw [splitSlashes, hrest]
    exact hc

/-! ## Texts -/

/-- `r.Made` — a reference that was read from a text, or is a literal. -/
def Made (r : Reference) : Prop := ∃ text, r = ofText text ∨ r = literal text

theorem text_ofText (text : String) : (ofText text).text = text := by
  unfold ofText
  split <;> rfl

/-- A text without a slash at its start is one name. -/
theorem parse_of_plain {text : String} {c : Char} {rest : List Char} (h : text.toList = c :: rest)
    (hslash : c ≠ '/') : parse text = .ok [text] := by
  unfold parse
  rw [h]
  split
  · next heq => cases heq
  · next heq => exact absurd (List.cons.inj heq).1 hslash
  · next heq => exact absurd (List.cons.inj heq).1 hslash
  · rfl

/-- A text with a slash at its start is a path, unless it is nothing else. -/
theorem parse_of_slash {text : String} {path : List Char} (h : text.toList = '/' :: path)
    (hne : path ≠ []) :
    parse text = components (splitSlashes path) := by
  unfold parse
  rw [h]
  split
  · next heq => cases heq
  · next heq => exact absurd (List.cons.inj heq).2 hne
  · next path' _ heq =>
    cases heq
    rfl
  · next hnone => exact absurd rfl (hnone path)

/-- A path of one escaped part leads to the name that was escaped. -/
theorem parse_escape {name : List Char} (h : name ≠ []) :
    parse (String.ofList ('/' :: escape name)) = .ok [String.ofList name] := by
  obtain ⟨c, rest, rfl⟩ := List.exists_cons_of_ne_nil h
  have hpart : component (escape (c :: rest)) = .ok (String.ofList (c :: rest)) := by
    rw [component, if_neg escape_ne_nil, unescape_escape]
  rw [parse_of_slash String.toList_ofList escape_ne_nil, splitSlashes_of_not_mem (not_mem_escape _),
    components, hpart]
  rfl

/-- The text of a literal leads to its name. -/
theorem ofText_text_literal (name : String) : ofText (literal name).text = literal name := by
  have hname : String.ofList name.toList = name := String.ofList_toList
  cases hlist : name.toList with
  | nil =>
    have hempty : name = "" := by rw [← hname, hlist, String.ofList_nil]
    rw [hempty]
    rfl
  | cons c rest =>
    by_cases hslash : c = '/'
    · -- a name that begins with a slash is written as a path of one name
      subst hslash
      have hliteral : literal name = .valid (String.ofList ('/' :: escape name.toList)) [name] := by
        simp only [literal, hlist]
      have hparse : parse (String.ofList ('/' :: escape name.toList)) = .ok [name] := by
        rw [parse_escape (by rw [hlist]; exact List.cons_ne_nil _ _), hname]
      rw [hliteral, text, ofText, hparse]
    · -- any other name is its own text
      have hliteral : literal name = .valid name [name] := by
        unfold literal
        rw [hlist]
        split
        · next heq => cases heq
        · next heq => exact absurd (List.cons.inj heq).1 hslash
        · rfl
      rw [hliteral, text, ofText, parse_of_plain hlist hslash]

/-- **However a reference was made, its text leads to it.** -/
theorem ofText_text {r : Reference} (h : r.Made) : ofText r.text = r := by
  obtain ⟨text, rfl | rfl⟩ := h
  · rw [text_ofText]
  · exact ofText_text_literal text

end FeatureFlags.Reference

/-
  THE GRAMMAR OF REFERENCES.

  A text that starts with a slash is a path.  Its parts lie between slashes, and in a part every
  tilde begins an escape.  Writing escapes names by two replacements, one after the other; reading
  goes through a part letter by letter.

  1. **Replacing (`escape_eq`)** — the two replacements do what is done letter by letter, as the
     tildes are replaced first and no replacement has a slash.
  2. **Parts (`component_eq_ok_iff`)** — a part is read exactly if it is the writing of a name;
     whether it can be read is a matter of its tildes alone (`isSome_unescape_iff`).
  3. **Paths (`components_eq_ok_iff`)** — a path is read exactly if its parts are the writings of
     its names.
  4. **Main result (`parses_grammar`)** — which texts are references, what paths lead through, and
     that literals and private attributes keep their meaning when they are written.
-/
import FeatureFlags.Proofs.Context.Reading

namespace FeatureFlags.Reference

/-! ## Replacing -/

/-- Put letters in the place of a letter. -/
def replace (c : Char) (letters : List Char) (text : List Char) : List Char :=
  text.flatMap fun d => if d = c then letters else [d]

/-- A name as one part of a path: its tildes are replaced, then its slashes. -/
def written (name : String) : List Char :=
  replace '/' ['~', '1'] (replace '~' ['~', '0'] name.toList)

/-- **The path through names**: a slash before each of them. -/
def pathTo (names : List String) : String :=
  String.ofList (names.flatMap fun name => '/' :: written name)

theorem replace_cons (c : Char) (letters : List Char) (d : Char) (text : List Char) :
    replace c letters (d :: text) =
      (if d = c then letters else [d]) ++ replace c letters text := rfl

/-- **The two replacements do what is done letter by letter.** -/
theorem escape_eq (name : List Char) :
    escape name = replace '/' ['~', '1'] (replace '~' ['~', '0'] name) := by
  induction name using escape.induct with
  | case1 => rfl
  | case2 rest ih =>
    -- the tilde that was put in is no slash
    rw [escape, ih, replace_cons '~', if_pos rfl]
    rfl
  | case3 rest ih =>
    rw [escape, ih, replace_cons '~', if_neg (by decide)]
    rfl
  | case4 c rest htilde hslash ih =>
    rw [escape_cons htilde hslash, ih, replace_cons '~', if_neg htilde, List.singleton_append,
      replace_cons '/', if_neg hslash]
    rfl

/-- A name is written with its tildes and slashes escaped. -/
theorem written_eq (name : String) : written name = escape name.toList :=
  (escape_eq name.toList).symm

/-! ## Parts -/

/-- **Every tilde begins an escape**: the next letter is 0 or 1. -/
def TildesEscape (part : List Char) : Prop :=
  ∀ front rest, part = front ++ '~' :: rest → ∃ c more, rest = c :: more ∧ (c = '0' ∨ c = '1')

theorem tildesEscape_nil : TildesEscape [] := by
  intro front rest heq
  cases front <;> cases heq

/-- A tilde needs one of two letters behind it, wherever it stands. -/
theorem tildesEscape_cons_iff {c : Char} {part : List Char} :
    TildesEscape (c :: part) ↔
      (c = '~' → ∃ d more, part = d :: more ∧ (d = '0' ∨ d = '1')) ∧ TildesEscape part := by
  constructor
  · intro h
    refine ⟨fun hc => h [] part (by rw [hc, List.nil_append]), fun front rest heq => ?_⟩
    exact h (c :: front) rest (by rw [heq, List.cons_append])
  · rintro ⟨hfirst, hrest⟩ front rest heq
    cases front with
    | nil =>
      obtain ⟨hc, htail⟩ := List.cons.inj heq
      exact htail ▸ hfirst hc
    | cons d front => exact hrest front rest (List.cons.inj heq).2

/-- **A part can be read if and only if all its tildes begin escapes.** -/
theorem isSome_unescape_iff (part : List Char) : (unescape part).isSome ↔ TildesEscape part := by
  induction part using unescape.induct with
  | case1 => exact iff_of_true rfl tildesEscape_nil
  | case2 rest ih =>
    -- `~0`: a tilde with one of its two letters, which is no tilde itself
    rw [unescape, Option.isSome_map, ih, tildesEscape_cons_iff, tildesEscape_cons_iff]
    have hplain : '0' ≠ '~' := by decide
    exact ⟨fun h => ⟨fun _ => ⟨_, _, rfl, .inl rfl⟩, fun heq => absurd heq hplain, h⟩,
      fun h => h.2.2⟩
  | case3 rest ih =>
    -- `~1`
    rw [unescape, Option.isSome_map, ih, tildesEscape_cons_iff, tildesEscape_cons_iff]
    have hplain : '1' ≠ '~' := by decide
    exact ⟨fun h => ⟨fun _ => ⟨_, _, rfl, .inr rfl⟩, fun heq => absurd heq hplain, h⟩,
      fun h => h.2.2⟩
  | case4 rest hzero hone =>
    -- any other tilde is refused
    have hnone : unescape ('~' :: rest) = none := by
      rw [unescape]
      · exact hzero
      · exact hone
    rw [hnone, tildesEscape_cons_iff]
    refine iff_of_false Bool.false_ne_true fun h => ?_
    obtain ⟨d, more, hrest, rfl | rfl⟩ := h.1 rfl
    · exact hzero more hrest
    · exact hone more hrest
  | case5 c rest hzero hone htilde ih =>
    have hc : c ≠ '~' := fun heq => htilde heq
    rw [unescape_cons hc, Option.isSome_map, ih, tildesEscape_cons_iff]
    exact ⟨fun h => ⟨fun heq => absurd heq hc, h⟩, fun h => h.2⟩

/-- **What a part without slashes stands for is written as that part**, and in no other way. -/
theorem eq_escape_of_unescape {part name : List Char} (hslash : '/' ∉ part)
    (h : unescape part = some name) : part = escape name := by
  induction part using unescape.induct generalizing name with
  | case1 =>
    cases h
    rfl
  | case2 rest ih =>
    -- `~0` stands for a tilde, which is written so
    rw [unescape] at h
    obtain ⟨tail, htail, rfl⟩ := Option.map_eq_some_iff.1 h
    have hrest : '/' ∉ rest :=
      fun hmem => hslash (List.mem_cons_of_mem _ (List.mem_cons_of_mem _ hmem))
    rw [escape, ← ih hrest htail]
  | case3 rest ih =>
    -- `~1` stands for a slash
    rw [unescape] at h
    obtain ⟨tail, htail, rfl⟩ := Option.map_eq_some_iff.1 h
    have hrest : '/' ∉ rest :=
      fun hmem => hslash (List.mem_cons_of_mem _ (List.mem_cons_of_mem _ hmem))
    rw [escape, ← ih hrest htail]
  | case4 rest hzero hone =>
    rw [unescape] at h
    · cases h
    · exact hzero
    · exact hone
  | case5 c rest hzero hone htilde ih =>
    -- every other letter stands for itself, and it is no slash
    have hc : c ≠ '~' := fun heq => htilde heq
    have hc' : c ≠ '/' := fun heq => hslash (heq ▸ List.mem_cons_self)
    rw [unescape_cons hc] at h
    obtain ⟨tail, htail, rfl⟩ := Option.map_eq_some_iff.1 h
    rw [escape_cons hc hc', ← ih (fun hmem => hslash (List.mem_cons_of_mem c hmem)) htail]

/-- **A part is read exactly if it is the writing of a name.** -/
theorem component_eq_ok_iff {part : List Char} (hslash : '/' ∉ part) {name : String} :
    component part = .ok name ↔ name ≠ "" ∧ part = escape name.toList := by
  have hempty : name ≠ "" ↔ name.toList ≠ [] := not_congr String.toList_eq_nil_iff.symm
  constructor
  · intro h
    unfold component at h
    split at h
    · cases h
    · next hne =>
      split at h
      · next letters hletters =>
        cases h
        have hpart : part = escape letters := eq_escape_of_unescape hslash hletters
        rw [hempty, String.toList_ofList]
        -- only the empty part unescapes to the empty name
        refine ⟨fun hnil => hne ?_, hpart⟩
        rw [hpart, hnil, escape]
      · cases h
  · rintro ⟨hname, rfl⟩
    obtain ⟨c, rest, hcons⟩ := List.exists_cons_of_ne_nil (hempty.1 hname)
    rw [component, if_neg (by rw [hcons]; exact escape_ne_nil), unescape_escape]
    exact congrArg Except.ok String.ofList_toList

/-- Whether a part can be read. -/
theorem exists_component_iff {part : List Char} :
    (∃ name, component part = .ok name) ↔ part ≠ [] ∧ TildesEscape part := by
  rw [← isSome_unescape_iff, component]
  by_cases hempty : part = []
  · simp [hempty]
  · cases hread : unescape part <;> simp [hempty]

/-! ## Paths -/

/-- Cutting at slashes is cutting at a letter. -/
theorem splitSlashes_eq (path : List Char) : splitSlashes path = path.splitOn '/' := by
  induction path with
  | nil => rfl
  | cons c rest ih =>
    rw [List.splitOn_cons_eq_if_modifyHead, ← ih]
    by_cases hslash : c = '/'
    · rw [hslash, splitSlashes]
      rfl
    · have hbeq : (c == '/') = false := beq_false_of_ne hslash
      rw [splitSlashes, hbeq]
      · -- splitting always gives a part, to which the letter goes
        cases hparts : splitSlashes rest with
        | nil =>
          rw [ih] at hparts
          exact absurd hparts (List.splitOn_ne_nil '/' rest)
        | cons part parts => rfl
      · exact hslash

theorem slash_notMem_splitSlashes {path part : List Char} (hpart : part ∈ splitSlashes path) :
    '/' ∉ part := by
  induction path generalizing part with
  | nil => exact List.mem_singleton.1 hpart ▸ List.not_mem_nil
  | cons c rest ih =>
    by_cases hslash : c = '/'
    · -- a slash begins a new part
      rw [hslash, splitSlashes] at hpart
      rcases List.mem_cons.1 hpart with rfl | hrest
      · exact List.not_mem_nil
      · exact ih hrest
    · -- any other letter goes to the first part
      have hcons : ∀ {other}, '/' ∉ other → '/' ∉ c :: other := fun hother hmem =>
        (List.mem_cons.1 hmem).elim (fun heq => hslash heq.symm) hother
      rw [splitSlashes] at hpart
      · cases hparts : splitSlashes rest with
        | nil =>
          rw [hparts] at hpart
          exact List.mem_singleton.1 hpart ▸ hcons List.not_mem_nil
        | cons first more =>
          rw [hparts] at hpart ih
          rcases List.mem_cons.1 hpart with rfl | hmore
          · exact hcons (ih List.mem_cons_self)
          · exact ih (List.mem_cons_of_mem first hmore)
      · exact hslash

/-- A slash before each part is a slash before the parts joined by slashes. -/
theorem flatMap_slash (part : List Char) (parts : List (List Char)) :
    (part :: parts).flatMap ('/' :: ·) = '/' :: ['/'].intercalate (part :: parts) := by
  induction parts generalizing part with
  | nil => simp
  | cons next more ih =>
    rw [List.flatMap_cons, ih, List.intercalate_cons_cons, List.cons_append, List.append_assoc,
      List.singleton_append]

/-- **The parts of a path are read exactly if they are the writings of names.** -/
theorem components_eq_ok_iff {parts : List (List Char)} (hslash : ∀ part ∈ parts, '/' ∉ part)
    {names : List String} :
    components parts = .ok names ↔
      (∀ name ∈ names, name ≠ "") ∧ parts = names.map fun name => escape name.toList := by
  induction parts generalizing names with
  | nil =>
    constructor
    · intro h
      cases h
      exact ⟨fun _ hname => absurd hname List.not_mem_nil, rfl⟩
    · rintro ⟨-, hparts⟩
      rw [List.map_eq_nil_iff.1 hparts.symm, components]
  | cons part rest ih =>
    obtain ⟨hslash, hslashes⟩ := List.forall_mem_cons.1 hslash
    -- a part and the others are read independently
    have hpart : ∀ name, component part = .ok name ↔ name ≠ "" ∧ part = escape name.toList :=
      fun _ => component_eq_ok_iff hslash
    have hrest : ∀ others, components rest = .ok others ↔
        (∀ name ∈ others, name ≠ "") ∧ rest = others.map fun name => escape name.toList :=
      fun _ => ih hslashes
    constructor
    · intro h
      rw [components] at h
      split at h
      · cases h
      · next name hname =>
        obtain ⟨others, hothers, rfl⟩ := Context.exists_of_map_eq_ok h
        obtain ⟨hne, rfl⟩ := (hpart name).1 hname
        obtain ⟨hall, rfl⟩ := (hrest others).1 hothers
        exact ⟨List.forall_mem_cons.2 ⟨hne, hall⟩, rfl⟩
    · rintro ⟨hall, hparts⟩
      cases names with
      | nil => cases hparts
      | cons name others =>
        obtain ⟨hfirst, hothers⟩ := List.cons.inj hparts
        obtain ⟨hne, hall⟩ := List.forall_mem_cons.1 hall
        rw [components, (hpart name).2 ⟨hne, hfirst⟩, (hrest others).2 ⟨hall, hothers⟩]
        rfl

/-- Whether the parts of a path can be read. -/
theorem exists_components_iff {parts : List (List Char)} :
    (∃ names, components parts = .ok names) ↔ ∀ part ∈ parts, part ≠ [] ∧ TildesEscape part := by
  induction parts with
  | nil => exact iff_of_true ⟨[], rfl⟩ fun _ hpart => absurd hpart List.not_mem_nil
  | cons part rest ih =>
    rw [List.forall_mem_cons, ← ih, ← exists_component_iff, components]
    cases hpart : component part with
    | error e => simp
    | ok name => cases hrest : components rest <;> simp [Except.map]

/-! ## References -/

/-- **A proper reference**: a text that is neither empty nor a lone slash.  If it starts with a
    slash, no part between slashes is empty, and all tildes begin escapes. -/
def Grammatical (text : String) : Prop :=
  text ≠ "" ∧ text ≠ "/" ∧ ∀ path, text.toList = '/' :: path →
    ∀ part ∈ path.splitOn '/', part ≠ [] ∧ TildesEscape part

/-- A reference is valid exactly where its text is parsed. -/
theorem ofText_eq_valid_iff {text : String} {names : List String} :
    ofText text = .valid text names ↔ parse text = .ok names := by
  unfold ofText
  cases parse text <;> simp

theorem isValid_ofText (text : String) :
    (ofText text).isValid = true ↔ ∃ names, parse text = .ok names := by
  unfold ofText
  cases parse text <;> simp [isValid]

theorem eq_of_toList {text : String} {letters : List Char} (h : text.toList = letters) :
    text = String.ofList letters := by
  rw [← h, String.ofList_toList]

/-- **The texts that are references are the proper ones.** -/
theorem isValid_ofText_iff (text : String) : (ofText text).isValid = true ↔ Grammatical text := by
  rw [isValid_ofText]
  cases hlist : text.toList with
  | nil =>
    have hempty : text = "" := eq_of_toList hlist
    refine iff_of_false ?_ fun h => h.1 hempty
    rintro ⟨names, hparse⟩
    rw [hempty] at hparse
    cases hparse
  | cons c path =>
    have hne : text ≠ "" := by
      rintro rfl
      cases hlist
    by_cases hslash : c = '/'
    · subst hslash
      -- a slash alone names nothing; behind it, each part must be a name
      cases path with
      | nil =>
        have hlone : text = "/" := eq_of_toList hlist
        refine iff_of_false ?_ fun h => h.2.1 hlone
        rintro ⟨names, hparse⟩
        rw [hlone] at hparse
        cases hparse
      | cons d more =>
        have hlone : text ≠ "/" := by
          rintro rfl
          cases hlist
        rw [parse_of_slash hlist (List.cons_ne_nil d more), exists_components_iff, splitSlashes_eq]
        refine ⟨fun h => ⟨hne, hlone, fun path hpath => ?_⟩, fun h => h.2.2 _ hlist⟩
        rw [hlist] at hpath
        exact (List.cons.inj hpath).2 ▸ h
    · refine iff_of_true ⟨_, parse_of_plain hlist hslash⟩ ⟨hne, ?_, fun path hpath => ?_⟩
      · rintro rfl
        exact hslash (List.cons.inj hlist).1.symm
      · rw [hlist] at hpath
        exact absurd (List.cons.inj hpath).1 hslash

/-- The path to some names is a slash and the names, escaped, with slashes between them. -/
theorem toList_pathTo (name : String) (names : List String) :
    (pathTo (name :: names)).toList =
      '/' :: ['/'].intercalate ((name :: names).map fun name => escape name.toList) := by
  have hparts : (name :: names).flatMap (fun name => '/' :: written name) =
      ((name :: names).map fun name => escape name.toList).flatMap ('/' :: ·) := by
    rw [List.flatMap_map]
    exact congrArg ((name :: names).flatMap ·) (funext fun name => by rw [written_eq])
  rw [pathTo, String.toList_ofList, hparts]
  exact flatMap_slash _ _

/-- A path begins with a slash, so it is never taken for a plain name. -/
theorem head?_pathTo {names : List String} (h : names ≠ []) :
    (pathTo names).toList.head? = some '/' := by
  obtain ⟨name, others, rfl⟩ := List.exists_cons_of_ne_nil h
  rw [toList_pathTo]
  rfl

/-- Any other text is one name, unless it is empty. -/
theorem parse_iff_of_plain {text : String} (h : text.toList.head? ≠ some '/')
    {names : List String} :
    parse text = .ok names ↔ text ≠ "" ∧ names = [text] := by
  cases hlist : text.toList with
  | nil =>
    rw [eq_of_toList hlist]
    exact iff_of_false nofun fun h => h.1 rfl
  | cons c rest =>
    have hslash : c ≠ '/' := fun heq => h (by rw [hlist, heq]; rfl)
    have hne : text ≠ "" := by
      rintro rfl
      cases hlist
    rw [parse_of_plain hlist hslash, Except.ok.injEq]
    exact ⟨fun heq => ⟨hne, heq.symm⟩, fun h => h.2.symm⟩

/-- **A path is read as the names that it was written for**, and in no other way. -/
theorem parse_path_iff {text : String} {path : List Char} (h : text.toList = '/' :: path)
    {names : List String} :
    parse text = .ok names ↔ names ≠ [] ∧ (∀ name ∈ names, name ≠ "") ∧ text = pathTo names := by
  constructor
  · intro hparse
    have hne : path ≠ [] := by
      rintro rfl
      rw [eq_of_toList h] at hparse
      cases hparse
    rw [parse_of_slash h hne] at hparse
    obtain ⟨hall, hparts⟩ :=
      (components_eq_ok_iff fun part hpart => slash_notMem_splitSlashes hpart).1 hparse
    have hpath : ['/'].intercalate (splitSlashes path) = path := by
      rw [splitSlashes_eq]
      exact List.intercalate_splitOn '/'
    cases names with
    | nil =>
      rw [splitSlashes_eq] at hparts
      exact absurd hparts (List.splitOn_ne_nil '/' path)
    | cons name others =>
      refine ⟨List.cons_ne_nil name others, hall, String.toList_injective ?_⟩
      rw [toList_pathTo, ← hparts, hpath, h]
  · rintro ⟨hnames, hall, rfl⟩
    obtain ⟨name, others, rfl⟩ := List.exists_cons_of_ne_nil hnames
    have hpath := (List.cons.inj (h.symm.trans (toList_pathTo name others))).2
    have hslash : ∀ part ∈ (name :: others).map (fun name => escape name.toList), '/' ∉ part := by
      intro part hpart
      obtain ⟨other, -, rfl⟩ := List.mem_map.1 hpart
      exact not_mem_escape other.toList
    have hsplit : splitSlashes path = (name :: others).map fun name => escape name.toList := by
      rw [splitSlashes_eq, hpath]
      exact List.splitOn_intercalate '/' hslash (List.cons_ne_nil _ _)
    have hne : path ≠ [] := by
      rintro rfl
      -- the only part would be empty, but no name is written like that
      have hempty : escape name.toList = [] := (List.cons.inj hsplit).1.symm
      obtain ⟨c, rest, hname⟩ := List.exists_cons_of_ne_nil
        (mt String.toList_eq_nil_iff.1 (hall name List.mem_cons_self))
      rw [hname] at hempty
      exact escape_ne_nil hempty
    rw [parse_of_slash h hne, hsplit]
    exact (components_eq_ok_iff hslash).2 ⟨hall, rfl⟩

/-! ## Main result -/

/-- **References are read exactly by their grammar, and keep their meaning when they are written.**

    - A text is a valid reference if and only if it is proper.
    - What starts with a slash leads through names if and only if it is the path through these
      names, of which there is one at least and none is empty; any other text is one name.
    - A literal is the reference that is read from its text, with the same fault if it is empty.
    - So private attributes that are read or literals are found again in what is written of an
      individual. -/
theorem parses_grammar :
    (∀ text, (ofText text).isValid = true ↔ Grammatical text) ∧
    (∀ text names, ofText text = .valid text names ↔
      (names ≠ [] ∧ (∀ name ∈ names, name ≠ "") ∧ text = pathTo names) ∨
      (text ≠ "" ∧ text.toList.head? ≠ some '/' ∧ names = [text])) ∧
    (∀ name, ofText (literal name).text = literal name) ∧
    ∀ (b : Builder) (i : Individual), (∀ r ∈ i.privateAttributes, r.Made) →
      (Context.takeMeta b i.metaMembers).privateAttributes =
        b.privateAttributes ++ i.privateAttributes := by
  refine ⟨isValid_ofText_iff, fun text names => ?_, ofText_text_literal, fun b i hmade => ?_⟩
  · rw [ofText_eq_valid_iff]
    by_cases hslash : text.toList.head? = some '/'
    · obtain ⟨path, hpath⟩ := List.head?_eq_some_iff.1 hslash
      rw [parse_path_iff hpath]
      exact (or_iff_left fun h => h.2.1 hslash).symm
    · have hpath : ¬ (names ≠ [] ∧ (∀ name ∈ names, name ≠ "") ∧ text = pathTo names) := by
        rintro ⟨hnames, -, rfl⟩
        exact hslash (head?_pathTo hnames)
      rw [parse_iff_of_plain hslash, or_iff_right hpath]
      exact ⟨fun h => ⟨h.1, hslash, h.2⟩, fun h => ⟨h.1, h.2.2⟩⟩
  · rw [Context.takeMeta_eq, Context.metaReferences_metaMembers hmade]

/-- Names with slashes, tildes and what looks like escapes are found again, and so is a literal. -/
theorem parses_grammar_mixed :
    let i : Individual := ⟨.user, "a", none, false, none, [], [.literal "/home~", .ofText "//"]⟩
    pathTo ["a/b", "~1", "~~0/"] = "/a~1b/~01/~0~00~1" ∧
    ofText "/a~1b/~01/~0~00~1" = .valid "/a~1b/~01/~0~00~1" ["a/b", "~1", "~~0/"] ∧
    (∀ r ∈ i.privateAttributes, r.Made) ∧
    (Context.takeMeta (.ofKey "b") i.metaMembers).privateAttributes =
      [.literal "/home~", .ofText "//"] := by
  intro i
  obtain ⟨-, hleads, -, hprivate⟩ := parses_grammar
  have hmade : ∀ r ∈ i.privateAttributes, r.Made := by
    intro r hr
    rcases List.mem_pair.1 hr with rfl | rfl
    · exact ⟨_, .inr rfl⟩
    · exact ⟨_, .inl rfl⟩
  have hpath : pathTo ["a/b", "~1", "~~0/"] = "/a~1b/~01/~0~00~1" := by decide +kernel
  refine ⟨hpath, (hleads _ _).2 (.inl ⟨List.cons_ne_nil _ _, ?_, hpath.symm⟩),
    hmade, hprivate _ i hmade⟩
  decide +kernel

end FeatureFlags.Reference

/-
  LOOKING UP IN ENTRIES — what the operations on maps do to their view `get?`.

  A list of pairs that is no map can be looked up in too, and then the FIRST pair of a name counts.
  So `get?_ofList`: in the map of a list, a name has the value it has in the reversed list.
-/
import FeatureFlags.Entries
import Mathlib.Data.List.Induction
import Mathlib.Data.List.Nodup

namespace FeatureFlags.Entries

universe u v

variable {β : Type u} {γ : Type v} {name : String}

/-! ## Lists of pairs -/

/-- A name has no value where no pair has that name. -/
theorem get?_eq_none_iff {pairs : List (String × β)} :
    get? name pairs = none ↔ ∀ pair ∈ pairs, pair.1 ≠ name := by
  induction pairs with
  | nil => simp [get?]
  | cons head rest ih =>
    obtain ⟨n, x⟩ := head
    by_cases hn : n = name <;> simp [get?, hn, ih]

theorem get?_append (first second : List (String × β)) :
    get? name (first ++ second) = (get? name first).or (get? name second) := by
  induction first with
  | nil => rfl
  | cons head rest ih =>
    obtain ⟨n, x⟩ := head
    by_cases hn : n = name <;> simp [get?, hn, ih]

/-! ## Maps of lists -/

theorem ofList_concat (pairs : List (String × β)) (pair : String × β) :
    ofList (pairs ++ [pair]) = insert pair.1 pair.2 (ofList pairs) := by
  rw [ofList, List.foldl_append]
  rfl

/-- In the map of a list, the last pair of a name counts. -/
theorem get?_ofList (pairs : List (String × β)) :
    get? name (ofList pairs) = get? name pairs.reverse := by
  induction pairs using List.reverseRecOn with
  | nil => rfl
  | append_singleton rest last ih =>
    rw [ofList_concat, get?_insert, List.reverse_append, List.reverse_singleton,
      List.singleton_append, get?, ih]

/-- Further pairs of other names do not matter. -/
theorem get?_ofList_append {first second : List (String × β)} (h : get? name second = none) :
    get? name (ofList (first ++ second)) = get? name (ofList first) := by
  have hreverse : get? name second.reverse = none := by
    rw [get?_eq_none_iff] at h ⊢
    exact fun pair hpair => h pair (List.mem_reverse.1 hpair)
  rw [get?_ofList, List.reverse_append, get?_append, hreverse, Option.none_or, get?_ofList]

/-- Of two lists, the second one counts where it has a name. -/
theorem get?_ofList_append_or (first second : List (String × β)) :
    get? name (ofList (first ++ second)) =
      (get? name (ofList second)).or (get? name (ofList first)) := by
  rw [get?_ofList, List.reverse_append, get?_append, get?_ofList, get?_ofList]

theorem get?_ofList_eq_none {pairs : List (String × β)} (h : get? name pairs = none) :
    get? name (ofList pairs) = none := by
  have hnil : get? name (ofList ([] ++ pairs)) = get? name (ofList ([] : List (String × β))) :=
    get?_ofList_append h
  exact hnil

theorem get?_ofList_nil : get? name (ofList ([] : List (String × β))) = none := rfl

theorem get?_ofList_singleton (pair : String × β) :
    get? name (ofList [pair]) = if pair.1 = name then some pair.2 else none := rfl

/-- Of two pairs with one name, the later one wins. -/
theorem get?_ofList_cons (pair : String × β) (rest : List (String × β)) :
    get? name (ofList (pair :: rest)) =
      (get? name (ofList rest)).or (if pair.1 = name then some pair.2 else none) := by
  rw [← List.singleton_append, get?_ofList_append_or, get?_ofList_singleton]

/-- In a map, a name has the value that is listed with it. -/
theorem get?_of_mem {entries : Entries β} (h : Ordered entries) {value : β}
    (hmem : (name, value) ∈ entries) : get? name entries = some value := by
  induction entries with
  | nil => cases hmem
  | cons head rest ih =>
    obtain ⟨n, x⟩ := head
    obtain ⟨hhead, hrest⟩ := List.pairwise_cons.1 h
    rcases List.mem_cons.1 hmem with heq | hlater
    · cases heq
      rw [get?, if_pos rfl]
    · have hne : n ≠ name := fun heq => String.lt_irrefl name (heq ▸ hhead _ hlater)
      rw [get?, if_neg hne]
      exact ih hrest hlater

/-- A map is the map of its pairs. -/
theorem ofList_of_ordered {entries : Entries β} (h : Ordered entries) :
    ofList entries = entries := by
  refine ext_of_get? (ordered_ofList _) h fun name => ?_
  rw [get?_ofList]
  cases hfound : get? name entries with
  | none =>
    rw [get?_eq_none_iff] at hfound ⊢
    exact fun pair hpair => hfound pair (List.mem_reverse.1 hpair)
  | some value =>
    -- the only pair of this name is also the last one
    cases hlast : get? name entries.reverse with
    | none =>
      have hmem : (name, value) ∈ entries.reverse := List.mem_reverse.2 (mem_of_get? hfound)
      exact absurd rfl (get?_eq_none_iff.1 hlast _ hmem)
    | some other =>
      have hmem : (name, other) ∈ entries := List.mem_reverse.1 (mem_of_get? hlast)
      exact (get?_of_mem h hmem).symm.trans hfound

/-- Where no name comes twice, each one has the value of its pair. -/
theorem get?_eq_some_iff_mem {pairs : List (String × β)} (h : (pairs.map (·.1)).Nodup) {value : β} :
    get? name pairs = some value ↔ (name, value) ∈ pairs := by
  refine ⟨mem_of_get?, fun hmem => ?_⟩
  cases hfound : get? name pairs with
  | none => exact absurd rfl (get?_eq_none_iff.1 hfound _ hmem)
  | some other =>
    have hsame : (name, other) = (name, value) :=
      List.inj_on_of_nodup_map h (mem_of_get? hfound) hmem rfl
    exact congrArg some (congrArg Prod.snd hsame)

/-- Then the order of the pairs does not matter. -/
theorem ofList_perm {pairs others : List (String × β)} (hperm : pairs.Perm others)
    (h : (pairs.map (·.1)).Nodup) : ofList pairs = ofList others := by
  refine ext_of_get? (ordered_ofList pairs) (ordered_ofList others) fun name => ?_
  have hreverse : pairs.reverse.Perm others.reverse :=
    pairs.reverse_perm.trans (hperm.trans others.reverse_perm.symm)
  have hpairs : (pairs.reverse.map (·.1)).Nodup := (pairs.reverse_perm.map _).nodup_iff.2 h
  have hothers : (others.reverse.map (·.1)).Nodup := (hreverse.map _).nodup_iff.1 hpairs
  rw [get?_ofList, get?_ofList]
  refine Option.ext fun value => ?_
  rw [get?_eq_some_iff_mem hpairs, get?_eq_some_iff_mem hothers, hreverse.mem_iff]

/-- Removing the name of the first pair leaves the others. -/
theorem erase_ofList_cons {pairs : List (String × β)} (value : β) (h : get? name pairs = none) :
    erase name (ofList ((name, value) :: pairs)) = ofList pairs := by
  have hreverse : get? name pairs.reverse = none := by
    rw [get?_eq_none_iff] at h ⊢
    exact fun pair hpair => h pair (List.mem_reverse.1 hpair)
  refine ext_of_get? ((ordered_ofList _).erase name) (ordered_ofList _) fun other => ?_
  rw [get?_erase, get?_ofList, get?_ofList, List.reverse_cons, get?_append]
  by_cases hother : name = other
  · subst hother
    rw [if_pos rfl, hreverse]
  · rw [if_neg hother, get?, if_neg hother]
    exact Option.or_none

/-! ## Leaving pairs out -/

/-- Maps that differ under one name only agree under all others. -/
theorem get?_eq_of_erase {first second : Entries β} {other : String}
    (h : erase other first = erase other second) (hne : name ≠ other) :
    get? name first = get? name second := by
  have herased := congrArg (get? name) h
  rwa [get?_erase, get?_erase, if_neg hne.symm, if_neg hne.symm] at herased

/-- A name that is not there need not be removed. -/
theorem erase_of_get? {entries : Entries β} (h : get? name entries = none) :
    erase name entries = entries :=
  List.filter_eq_self.2 fun pair hpair => decide_eq_true (get?_eq_none_iff.1 h pair hpair)

/-- Of a map, the pairs with certain values: a name has its value there if that is one of them. -/
theorem get?_filter {entries : Entries β} (h : Ordered entries) (keep : β → Bool) :
    get? name (entries.filter fun entry => keep entry.2) = (get? name entries).filter keep := by
  induction entries with
  | nil => rfl
  | cons head rest ih =>
    obtain ⟨n, x⟩ := head
    obtain ⟨hhead, hrest⟩ := List.pairwise_cons.1 h
    by_cases hn : n = name
    · subst hn
      -- the name comes only once, so nothing is found behind a pair that is left out
      have hbehind : get? n (rest.filter fun entry => keep entry.2) = none :=
        get?_eq_none_of_lt fun e he => hhead e (List.mem_filter.1 he).1
      by_cases hkeep : keep x = true
      · simp [get?, Option.filter, hkeep]
      · simp [get?, Option.filter, hkeep, hbehind]
    · by_cases hkeep : keep x = true
      · simpa [get?, hkeep, hn] using ih hrest
      · simpa [get?, hkeep, hn] using ih hrest

/-! ## Names -/

/-- A name is listed exactly where it has a value. -/
theorem mem_names_iff {entries : Entries β} : name ∈ names entries ↔ get? name entries ≠ none := by
  rw [ne_eq, get?_eq_none_iff, names, List.mem_map]
  simp only [not_forall, ne_eq, not_not, exists_prop]

theorem mem_names_insert {other : String} {value : β} {entries : Entries β} :
    name ∈ names (insert other value entries) ↔ name = other ∨ name ∈ names entries := by
  rw [mem_names_iff, mem_names_iff, get?_insert]
  by_cases h : other = name
  · simp [h]
  · simp [h, Ne.symm h]

/-- The names after one insertion for each item of a list. -/
theorem mem_names_foldl_insert {ι : Type u} (label : ι → String) (value : β) (items : List ι)
    (entries : Entries β) :
    name ∈ names (items.foldl (fun entries i => insert (label i) value entries) entries) ↔
      name ∈ names entries ∨ ∃ i ∈ items, label i = name := by
  induction items generalizing entries with
  | nil => simp
  | cons i rest ih =>
    rw [List.foldl_cons, ih, mem_names_insert, or_assoc, or_left_comm, eq_comm (a := name)]
    simp only [List.mem_cons, or_and_right, exists_or, exists_eq_left]

/-! ## Replacing values -/

/-- Replacing values keeps the names. -/
theorem get?_mapValues (f : β → γ) (name : String) (entries : Entries β) :
    get? name (mapValues f entries) = (get? name entries).map f := by
  induction entries with
  | nil => rfl
  | cons head rest ih =>
    obtain ⟨n, x⟩ := head
    by_cases hn : n = name
    · subst hn
      simp [mapValues, get?]
    · simpa [mapValues, get?, hn] using ih

theorem names_mapValues (f : β → γ) (entries : Entries β) :
    names (mapValues f entries) = names entries := by
  rw [names, mapValues, List.map_map]
  rfl

/-- Values may be changed before or after one is inserted. -/
theorem mapValues_insert (f : β → γ) (name : String) (value : β) (entries : Entries β) :
    mapValues f (insert name value entries) = insert name (f value) (mapValues f entries) := by
  induction entries with
  | nil => rfl
  | cons head rest ih =>
    obtain ⟨n, x⟩ := head
    have hcons : mapValues f ((n, x) :: rest) = (n, f x) :: mapValues f rest := rfl
    rw [insert, hcons, insert]
    split
    · rfl
    · split
      · rfl
      · rw [← ih]; rfl

/-- Names stay as they are when values change, and so does their order. -/
theorem Ordered.mapValues {entries : Entries β} (h : Ordered entries) (f : β → γ) :
    Ordered (Entries.mapValues f entries) :=
  List.pairwise_map.2 h

/-- The values of a list may be replaced before or after the map is made. -/
theorem mapValues_ofList (f : β → γ) (pairs : List (String × β)) :
    mapValues f (ofList pairs) = ofList (pairs.map fun pair => (pair.1, f pair.2)) := by
  induction pairs using List.reverseRecOn with
  | nil => rfl
  | append_singleton rest last ih =>
    rw [ofList_concat, mapValues_insert, ih, List.map_append, List.map_singleton, ofList_concat]

/-! ## Walking -/

section Walk

variable {σ τ : Type} {step : σ → String × β → σ} {entries : Entries β}

/-- **A walk over a map, as one view of its result sees it**: if only the pair of one name changes
    what is seen, then what is seen at the end is due to the value under that name. -/
theorem foldl_view (view : σ → τ) (set : β → τ → τ) (h : Ordered entries)
    (own : ∀ value, (name, value) ∈ entries → ∀ s, view (step s (name, value)) = set value (view s))
    (other : ∀ pair ∈ entries, pair.1 ≠ name → ∀ s, view (step s pair) = view s) (s : σ) :
    view (entries.foldl step s) = (get? name entries).elim (view s) fun value =>
      set value (view s) := by
  induction entries generalizing s with
  | nil => rfl
  | cons head rest ih =>
    obtain ⟨n, x⟩ := head
    obtain ⟨hhead, hrest⟩ := List.pairwise_cons.1 h
    have hlater := ih hrest (fun value hvalue => own value (List.mem_cons_of_mem _ hvalue))
      (fun pair hpair => other pair (List.mem_cons_of_mem _ hpair)) (step s (n, x))
    rw [List.foldl_cons, hlater, get?]
    by_cases hn : n = name
    · subst hn
      rw [if_pos rfl, get?_eq_none_of_lt hhead]
      exact own x (List.mem_cons_self ..) s
    · rw [if_neg hn, other (n, x) (List.mem_cons_self ..) hn s]

/-- If the pairs of two names change what is seen, then that of the smaller name does so first. -/
theorem foldl_view_pair {first second : String} (hlt : first < second) (view : σ → τ)
    (setFirst setSecond : β → τ → τ) (h : Ordered entries)
    (ownFirst : ∀ value, (first, value) ∈ entries → ∀ s,
      view (step s (first, value)) = setFirst value (view s))
    (ownSecond : ∀ value, (second, value) ∈ entries → ∀ s,
      view (step s (second, value)) = setSecond value (view s))
    (other : ∀ pair ∈ entries, pair.1 ≠ first → pair.1 ≠ second → ∀ s, view (step s pair) = view s)
    (s : σ) :
    view (entries.foldl step s) =
      let between := (get? first entries).elim (view s) fun value => setFirst value (view s)
      (get? second entries).elim between fun value => setSecond value between := by
  induction entries generalizing s with
  | nil => rfl
  | cons head rest ih =>
    obtain ⟨n, x⟩ := head
    obtain ⟨hhead, hrest⟩ := List.pairwise_cons.1 h
    have hmem : (n, x) ∈ (n, x) :: rest := List.mem_cons_self ..
    have hownSecond : ∀ value, (second, value) ∈ rest → ∀ s,
        view (step s (second, value)) = setSecond value (view s) :=
      fun value hvalue => ownSecond value (List.mem_cons_of_mem _ hvalue)
    rw [List.foldl_cons]
    by_cases hfirst : n = first
    · subst hfirst
      -- behind the smaller name, only the greater one is left
      have hlater := foldl_view view setSecond hrest hownSecond (fun pair hpair hne =>
        other pair (List.mem_cons_of_mem _ hpair)
          (fun heq => String.lt_irrefl n (heq ▸ hhead pair hpair)) hne) (step s (n, x))
      have hsecond : n ≠ second := fun heq => String.lt_irrefl n (heq ▸ hlt)
      rw [hlater, ownFirst x hmem s, get?, get?, if_pos rfl, if_neg hsecond]
      rfl
    · by_cases hsecond : n = second
      · subst hsecond
        -- behind the greater name, none of the two is left
        have hbehind : ∀ pair ∈ rest, first < pair.1 := fun pair hpair =>
          String.lt_trans hlt (hhead pair hpair)
        have hlater := foldl_view view setSecond hrest hownSecond (fun pair hpair hne =>
          other pair (List.mem_cons_of_mem _ hpair)
            (fun heq => String.lt_irrefl first (heq ▸ hbehind pair hpair)) hne) (step s (n, x))
        rw [hlater, get?_eq_none_of_lt hhead, get?, get?, if_neg hfirst, if_pos rfl,
          get?_eq_none_of_lt hbehind]
        exact ownSecond x hmem s
      · have hlater := ih hrest (fun value hvalue => ownFirst value (List.mem_cons_of_mem _ hvalue))
          hownSecond (fun pair hpair => other pair (List.mem_cons_of_mem _ hpair)) (step s (n, x))
        rw [hlater, other (n, x) hmem hfirst hsecond s, get?, get?, if_neg hfirst, if_neg hsecond]

end Walk

end FeatureFlags.Entries

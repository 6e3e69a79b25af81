/-
  ENTRIES — maps from names to values, kept as lists of pairs in the order of their names.

  Wherever the library holds a map whose contents can be listed (the members of a JSON object, the
  attributes of a context, the flags of a store), the map is a list of pairs with STRICTLY
  INCREASING names.  The order of names is the order of strings by code point.

  1. **Operations** — `get?` looks a name up, `insert` adds or replaces, `erase` removes,
     `ofList` inserts pair after pair, so that of two pairs with one name the later one stays.
  2. **Invariant** — `Ordered`: names increase strictly.  `insert`, `erase` and `ofList` keep it.
  3. **View** — `get?` is the view: `get?_insert` and `get?_erase` say what each operation does to
     it, and two ordered lists with the same view are equal (`ext_of_get?`).
-/

namespace FeatureFlags

universe u v

/-- The pairs of a map, listed by increasing name. -/
abbrev Entries (β : Type u) := List (String × β)

namespace Entries

variable {β : Type u} {γ : Type v}

/-! ## Operations -/

/-- The value under a name. -/
def get? (name : String) : Entries β → Option β
  | [] => none
  | (n, x) :: rest => if n = name then some x else get? name rest

/-- Whether a name has a value. -/
def contains (name : String) (entries : Entries β) : Bool := (get? name entries).isSome

/-- Add a pair, in its place, or replace the value under its name. -/
def insert (name : String) (value : β) : Entries β → Entries β
  | [] => [(name, value)]
  | (n, x) :: rest =>
      if name < n then (name, value) :: (n, x) :: rest
      else if n = name then (name, value) :: rest
      else (n, x) :: insert name value rest

/-- Remove a name with its value. -/
def erase (name : String) (entries : Entries β) : Entries β :=
  entries.filter fun entry => entry.1 ≠ name

/-- The map that holds every pair of a list; the LAST pair of each name counts. -/
def ofList (pairs : List (String × β)) : Entries β :=
  pairs.foldl (fun entries pair => insert pair.1 pair.2 entries) []

/-- The names, in order. -/
def names (entries : Entries β) : List String := entries.map (·.1)

/-- Replace every value by its image. -/
def mapValues (f : β → γ) (entries : Entries β) : Entries γ :=
  entries.map fun entry => (entry.1, f entry.2)

/-! ## The invariant: names increase strictly -/

/-- `Ordered entries` — every name is smaller than the names after it. -/
def Ordered (entries : Entries β) : Prop := entries.Pairwise fun a b => a.1 < b.1

theorem ordered_nil : Ordered ([] : Entries β) := List.Pairwise.nil

/-- A name of `insert name value entries` is `name` or a name of `entries`. -/
theorem mem_insert {name : String} {value : β} {entries : Entries β} {e : String × β}
    (h : e ∈ insert name value entries) : e = (name, value) ∨ e ∈ entries := by
  induction entries with
  | nil => simpa [insert] using h
  | cons head rest ih =>
    obtain ⟨n, x⟩ := head
    rw [insert] at h
    split at h
    · simpa using h
    · split at h
      · rcases List.mem_cons.1 h with h | h
        · exact .inl h
        · exact .inr (List.mem_cons_of_mem _ h)
      · rcases List.mem_cons.1 h with h | h
        · exact .inr (h ▸ List.mem_cons_self ..)
        · rcases ih h with h | h
          · exact .inl h
          · exact .inr (List.mem_cons_of_mem _ h)

theorem Ordered.insert {entries : Entries β} (h : Ordered entries) (name : String) (value : β) :
    Ordered (Entries.insert name value entries) := by
  induction entries with
  | nil => simp [Entries.insert, Ordered]
  | cons head rest ih =>
    obtain ⟨n, x⟩ := head
    obtain ⟨hHead, hRest⟩ := List.pairwise_cons.1 h
    rw [Entries.insert]
    split
    · next hlt =>
      refine List.pairwise_cons.2 ⟨fun e he => ?_, h⟩
      rcases List.mem_cons.1 he with rfl | he
      · exact hlt
      · exact String.lt_trans hlt (hHead e he)
    · next hnlt =>
      split
      · next heq =>
        subst heq
        exact List.pairwise_cons.2 ⟨hHead, hRest⟩
      · next hne =>
        refine List.pairwise_cons.2 ⟨fun e he => ?_, ih hRest⟩
        rcases mem_insert he with rfl | he
        · have hle : n ≤ name := String.not_lt.1 hnlt
          rcases Decidable.em (n < name) with hlt | hge
          · exact hlt
          · exact absurd (String.le_antisymm hle (String.not_lt.1 hge)) hne
        · exact hHead e he

theorem Ordered.erase {entries : Entries β} (h : Ordered entries) (name : String) :
    Ordered (Entries.erase name entries) := List.Pairwise.filter _ h

theorem ordered_ofList (pairs : List (String × β)) : Ordered (ofList pairs) := by
  suffices ∀ entries : Entries β, Ordered entries →
      Ordered (pairs.foldl (fun entries pair => insert pair.1 pair.2 entries) entries) from
    this [] ordered_nil
  induction pairs with
  | nil => exact fun _ h => h
  | cons pair rest ih => exact fun entries h => ih _ (h.insert pair.1 pair.2)

/-! ## The view -/

theorem get?_insert (name other : String) (value : β) (entries : Entries β) :
    get? other (insert name value entries) =
      if name = other then some value else get? other entries := by
  induction entries with
  | nil => simp [insert, get?]
  | cons head rest ih =>
    obtain ⟨n, x⟩ := head
    rw [insert]
    split
    · simp [get?]
    · split
      · next heq => subst heq; by_cases h : n = other <;> simp [get?, h]
      · next hne =>
        by_cases h : name = other
        · subst h; simp [get?, hne, ih]
        · simp [get?, ih, h]

theorem get?_erase (name other : String) (entries : Entries β) :
    get? other (erase name entries) = if name = other then none else get? other entries := by
  induction entries with
  | nil => simp [erase, get?]
  | cons head rest ih =>
    obtain ⟨n, x⟩ := head
    by_cases hn : n = name
    · subst hn
      by_cases h : n = other <;> simp_all [erase, get?]
    · by_cases h : name = other
      · subst h; simp_all [erase, get?]
      · simp_all [erase, get?]

/-- A value that is found is listed. -/
theorem mem_of_get? {name : String} {value : β} {entries : Entries β}
    (h : get? name entries = some value) : (name, value) ∈ entries := by
  induction entries with
  | nil => cases h
  | cons head rest ih =>
    obtain ⟨n, x⟩ := head
    rw [get?] at h
    split at h
    · next heq =>
      subst heq
      cases h
      exact List.mem_cons_self ..
    · exact List.mem_cons_of_mem _ (ih h)

/-- A name below all listed names has no value. -/
theorem get?_eq_none_of_lt {name : String} {entries : Entries β}
    (h : ∀ e ∈ entries, name < e.1) : get? name entries = none := by
  induction entries with
  | nil => rfl
  | cons head rest ih =>
    have hlt := h head (List.mem_cons_self ..)
    have hne : head.1 ≠ name := fun heq => String.lt_irrefl name (heq ▸ hlt)
    rw [get?, if_neg hne]
    exact ih fun e he => h e (List.mem_cons_of_mem _ he)

/-- **The view decides the map**: ordered lists of pairs with the same look-ups are equal. -/
theorem ext_of_get? {a b : Entries β} (ha : Ordered a) (hb : Ordered b)
    (h : ∀ name, get? name a = get? name b) : a = b := by
  induction a generalizing b with
  | nil =>
    cases b with
    | nil => rfl
    | cons head rest => have := h head.1; simp [get?] at this
  | cons x xs ih =>
    obtain ⟨hx, hxs⟩ := List.pairwise_cons.1 ha
    cases b with
    | nil => have := h x.1; simp [get?] at this
    | cons y ys =>
      obtain ⟨hy, hys⟩ := List.pairwise_cons.1 hb
      have hname : x.1 = y.1 := by
        rcases Decidable.em (x.1 < y.1) with hlt | hge
        · have hnone : get? x.1 (y :: ys) = none := get?_eq_none_of_lt fun e he => by
            rcases List.mem_cons.1 he with rfl | he
            · exact hlt
            · exact String.lt_trans hlt (hy e he)
          have := h x.1
          rw [hnone, get?, if_pos rfl] at this
          exact absurd this (by simp)
        · rcases Decidable.em (y.1 < x.1) with hlt | hge'
          · have hnone : get? y.1 (x :: xs) = none := get?_eq_none_of_lt fun e he => by
              rcases List.mem_cons.1 he with rfl | he
              · exact hlt
              · exact String.lt_trans hlt (hx e he)
            have := h y.1
            rw [hnone, get?, if_pos rfl] at this
            exact absurd this.symm (by simp)
          · exact String.le_antisymm (String.not_lt.1 hge') (String.not_lt.1 hge)
      have hvalue : x.2 = y.2 := by
        have := h x.1
        rw [get?, if_pos rfl, get?, if_pos hname.symm] at this
        exact Option.some.inj this
      have hrest : xs = ys := ih hxs hys fun name => by
        by_cases hn : x.1 = name
        · subst hn
          rw [get?_eq_none_of_lt hx, get?_eq_none_of_lt (hname ▸ hy)]
        · have := h name
          rwa [get?, if_neg hn, get?, if_neg (hname ▸ hn)] at this
      rw [hrest]
      exact congrArg (· :: ys) (Prod.ext hname hvalue)

end Entries

end FeatureFlags

/-
  KEY SETS — finite sets of texts, kept as strictly increasing lists.

  The order is part of the type, so two sets with the same members are equal (`KeySet.ext`), and the
  list of a set is its sorted listing.
-/

namespace FeatureFlags

/-- A finite set of texts. -/
structure KeySet where
  toList : List String
  increasing : toList.Pairwise (· < ·)
deriving DecidableEq

namespace KeySet

def empty : KeySet := ⟨[], List.Pairwise.nil⟩

instance : Inhabited KeySet := ⟨empty⟩

/-- Put a text in its place in an increasing list. -/
def insertIn (key : String) : List String → List String
  | [] => [key]
  | k :: rest => if key < k then key :: k :: rest else if k = key then k :: rest
    else k :: insertIn key rest

theorem mem_insertIn {key x : String} {keys : List String} :
    x ∈ insertIn key keys ↔ x = key ∨ x ∈ keys := by
  induction keys with
  | nil => simp [insertIn]
  | cons k rest ih =>
    rw [insertIn]
    split
    · simp
    · split
      · next h => subst h; simp
      · simp only [List.mem_cons, ih]
        constructor
        · rintro (h | h | h)
          · exact .inr (.inl h)
          · exact .inl h
          · exact .inr (.inr h)
        · rintro (h | h | h)
          · exact .inr (.inl h)
          · exact .inl h
          · exact .inr (.inr h)

theorem increasing_insertIn {key : String} {keys : List String} (h : keys.Pairwise (· < ·)) :
    (insertIn key keys).Pairwise (· < ·) := by
  induction keys with
  | nil => simp [insertIn]
  | cons k rest ih =>
    obtain ⟨hHead, hRest⟩ := List.pairwise_cons.1 h
    rw [insertIn]
    split
    · next hlt =>
      refine List.pairwise_cons.2 ⟨fun x hx => ?_, h⟩
      rcases List.mem_cons.1 hx with rfl | hx
      · exact hlt
      · exact String.lt_trans hlt (hHead x hx)
    · next hnlt =>
      split
      · exact h
      · next hne =>
        refine List.pairwise_cons.2 ⟨fun x hx => ?_, ih hRest⟩
        rcases mem_insertIn.1 hx with rfl | hx
        · rcases Decidable.em (k < x) with hlt | hge
          · exact hlt
          · exact absurd (String.le_antisymm (String.not_lt.1 hnlt) (String.not_lt.1 hge)) hne
        · exact hHead x hx

def insert (key : String) (s : KeySet) : KeySet :=
  ⟨insertIn key s.toList, increasing_insertIn s.increasing⟩

/-- The set of the members of a list. -/
def ofList (keys : List String) : KeySet := keys.foldr insert empty

def contains (s : KeySet) (key : String) : Bool := s.toList.contains key

theorem mem_toList_insert {key x : String} {s : KeySet} :
    x ∈ (s.insert key).toList ↔ x = key ∨ x ∈ s.toList := mem_insertIn

theorem mem_toList_ofList {x : String} {keys : List String} :
    x ∈ (ofList keys).toList ↔ x ∈ keys := by
  induction keys with
  | nil => simp [ofList, empty]
  | cons k rest ih =>
    rw [ofList, List.foldr_cons, mem_toList_insert, List.mem_cons]
    exact or_congr_right ih

theorem insertIn_of_lt {key : String} {keys : List String} (h : ∀ k ∈ keys, key < k) :
    insertIn key keys = key :: keys := by
  cases keys with
  | nil => rfl
  | cons k rest => rw [insertIn, if_pos (h k (List.mem_cons_self ..))]

/-- **The set of a set's listing** is the set. -/
theorem ofList_toList (s : KeySet) : ofList s.toList = s := by
  obtain ⟨keys, h⟩ := s
  have hlist : (ofList keys).toList = keys := by
    induction keys with
    | nil => rfl
    | cons k rest ih =>
      obtain ⟨hHead, hRest⟩ := List.pairwise_cons.1 h
      show insertIn k (ofList rest).toList = k :: rest
      rw [ih hRest, insertIn_of_lt hHead]
  cases hs : ofList keys
  simp_all

end KeySet

end FeatureFlags

/-
  LOOKING UP IN RECENCY WINDOWS — what the operations of a window do to its view `get?`, and to its
  names.

  1. **Look-ups** — touching a name changes nothing in the view.  Putting a value changes the view
     at one name, and may make other names unknown, since a window forgets what no longer fits; but
     it never gives a name a value that it was not given.
  2. **Names** — what is put in comes first, and what no longer fits is gone (`names_put`).
  3. **Uses** — `latest uses` lists the names that were used, each by its latest use.  A window
     holds the beginning of that list (`latest_put`), so a name is in it exactly if few enough
     others were used since (`mem_take_latest_iff`).
-/
import FeatureFlags.Recency
import Mathlib.Data.List.Dedup
import Mathlib.Data.List.Induction

namespace FeatureFlags.Recency

variable {β : Type} {name other : String}

@[simp] theorem get?_ofCapacity (capacity : Nat) :
    (ofCapacity capacity : Recency β).get? name = none := rfl

/-- Taking one name out does not change what is found under another. -/
theorem find?_others (r : Recency β) (h : name ≠ other) :
    ((r.others name).find? fun item => item.1 = other)
      = r.items.find? fun item => item.1 = other := by
  rw [others, List.find?_filter]
  congr 1
  funext item
  by_cases hitem : item.1 = other
  · simp [hitem, Ne.symm h]
  · simp [hitem]

/-- To use a name again changes the order and no value. -/
@[simp] theorem get?_touch (r : Recency β) : (r.touch name).get? other = r.get? other := by
  rw [touch]
  cases hvalue : r.get? name with
  | none => rfl
  | some value =>
    -- the name that is used moves to the front, with its value; the others keep theirs
    by_cases h : name = other
    · subst h
      rw [hvalue]
      simp [get?]
    · have hfind : ((name, value) :: r.others name).find? (fun item => item.1 = other)
          = r.items.find? fun item => item.1 = other := by
        rw [List.find?_cons_of_neg (by simpa using h), find?_others r h]
      show (List.find? _ ((name, value) :: r.others name)).map _ = _
      rw [hfind]
      rfl

/-- Touching a name without value changes nothing at all. -/
theorem touch_of_get?_eq_none {r : Recency β} (h : r.get? name = none) : r.touch name = r := by
  rw [touch, h]

/-- A window gives back only what was put into it. -/
theorem get?_put_eq_some {r : Recency β} {value found : β}
    (h : (r.put name value).get? other = some found) :
    (name = other ∧ found = value) ∨ r.get? other = some found := by
  obtain ⟨item, hitem, rfl⟩ := Option.map_eq_some_iff.1 h
  have hfind : ((name, value) :: r.others name).find? (fun item => item.1 = other) = some item :=
    (List.take_prefix r.capacity _).find?_eq_some hitem
  by_cases hname : name = other
  · rw [List.find?_cons_of_pos (by simpa using hname)] at hfind
    cases hfind
    exact .inl ⟨hname, rfl⟩
  · rw [List.find?_cons_of_neg (by simpa using hname), find?_others r hname] at hfind
    exact .inr (by rw [get?, hfind]; rfl)

/-! ## Names -/

/-- The names that have a value, the most recent one first. -/
def names (r : Recency β) : List String := r.items.map (·.1)

/-- What is held is what has a name among the items. -/
theorem isSome_get?_iff {r : Recency β} : (r.get? name).isSome = true ↔ name ∈ r.names := by
  rw [get?, Option.isSome_map, List.find?_isSome, names, List.mem_map]
  simp only [decide_eq_true_eq]

theorem names_others (r : Recency β) : (r.others name).map (·.1) = r.names.filter (· ≠ name) := by
  rw [others, names, List.filter_map]
  rfl

/-- What is put in comes first, and what no longer fits is gone. -/
theorem names_put (r : Recency β) (value : β) :
    (r.put name value).names = (name :: r.names.filter (· ≠ name)).take r.capacity := by
  show ((_ :: r.others name).take r.capacity).map (·.1) = _
  rw [List.map_take, List.map_cons, names_others]

/-! ## Uses -/

section Uses

variable {uses after : List String}

/-- **The names that were used**, the one with the latest use first. -/
def latest (uses : List String) : List String :=
  uses.foldl (fun names name => name :: names.filter (· ≠ name)) []

/-- The last use stands first, and the name's earlier uses are forgotten. -/
theorem latest_concat (uses : List String) (name : String) :
    latest (uses ++ [name]) = name :: (latest uses).filter (· ≠ name) := by
  rw [latest, List.foldl_append]
  rfl

/-- Every name that was used is among the latest, however long ago that was. -/
theorem mem_latest : name ∈ latest uses ↔ name ∈ uses := by
  induction uses using List.reverseRecOn with
  | nil => exact Iff.rfl
  | append_singleton uses last ih =>
    rw [latest_concat, List.mem_cons, List.mem_filter, ih, List.mem_append, List.mem_singleton]
    by_cases h : name = last <;> simp [h]

theorem nodup_latest (uses : List String) : (latest uses).Nodup := by
  induction uses using List.reverseRecOn with
  | nil => exact .nil
  | append_singleton uses last ih =>
    rw [latest_concat]
    refine List.nodup_cons.2 ⟨fun hmem => ?_, ih.filter _⟩
    exact of_decide_eq_true (List.mem_filter.1 hmem).2 rfl

/-- Every name that was used is listed once. -/
theorem length_latest (uses : List String) : (latest uses).length = uses.dedup.length := by
  have hperm : (latest uses).Perm uses.dedup := by
    refine (List.perm_ext_iff_of_nodup (nodup_latest uses) (List.nodup_dedup uses)).2 fun name => ?_
    rw [mem_latest, List.mem_dedup]
  exact hperm.length_eq

/-- What was used later comes first, and of what was used before the rest. -/
theorem latest_append (before after : List String) :
    latest (before ++ after) = latest after ++ (latest before).filter (· ∉ after) := by
  induction after using List.reverseRecOn with
  | nil => simp [latest]
  | append_singleton after last ih =>
    rw [← List.append_assoc, latest_concat, latest_concat, ih, List.filter_append,
      List.filter_filter]
    simp [and_comm]

/-- A name that was used has a latest use. -/
theorem exists_latest_use (h : name ∈ uses) :
    ∃ before after, uses = before ++ name :: after ∧ name ∉ after := by
  obtain ⟨after, before, hsplit, hnot⟩ := List.eq_append_cons_of_mem (List.mem_reverse.2 h)
  refine ⟨before.reverse, after.reverse, ?_, fun hmem => hnot (List.mem_reverse.1 hmem)⟩
  have huses := congrArg List.reverse hsplit
  simpa using huses

/-- Where a name stands: behind all that was used after it. -/
theorem latest_split (before : List String) (h : name ∉ after) :
    ∃ rest, latest (before ++ name :: after) = latest after ++ name :: rest := by
  have hlast : latest (before ++ [name]) = name :: (latest before).filter (· ≠ name) :=
    latest_concat before name
  refine ⟨((latest before).filter (· ≠ name)).filter (· ∉ after), ?_⟩
  rw [List.append_cons, latest_append, hlast, List.filter_cons_of_pos (by simpa using h)]

/-- **Few others since**: a name is among the first `n` exactly if it was used, and fewer than `n`
    names were used after its latest use. -/
theorem mem_take_latest_iff {n : Nat} : name ∈ (latest uses).take n ↔
    ∃ before after, uses = before ++ name :: after ∧ name ∉ after ∧ after.dedup.length < n := by
  constructor
  · intro h
    obtain ⟨before, after, rfl, hnot⟩ := exists_latest_use (mem_latest.1 (List.mem_of_mem_take h))
    refine ⟨before, after, rfl, hnot, ?_⟩
    obtain ⟨rest, hlatest⟩ := latest_split before hnot
    rw [hlatest] at h
    rw [← length_latest]
    -- otherwise the first `n` names are all used later
    by_contra hge
    rw [List.take_append_of_le_length (Nat.le_of_not_lt hge)] at h
    exact hnot (mem_latest.1 (List.mem_of_mem_take h))
  · rintro ⟨before, after, rfl, hnot, hlt⟩
    obtain ⟨rest, hlatest⟩ := latest_split before hnot
    rw [← length_latest] at hlt
    obtain ⟨k, hk⟩ := Nat.exists_eq_add_of_lt hlt
    rw [hlatest, hk, Nat.add_assoc, List.take_length_add_append, List.take_succ_cons]
    exact List.mem_append_right _ (List.mem_cons_self ..)

/-- Leaving out one name moves no more than one other name up. -/
theorem take_filter_take {l : List String} (h : l.Nodup) (name : String) (n : Nat) :
    ((l.take (n + 1)).filter (· ≠ name)).take n = (l.filter (· ≠ name)).take n := by
  induction l generalizing n with
  | nil => rfl
  | cons x rest ih =>
    obtain ⟨hnot, hrest⟩ := List.nodup_cons.1 h
    rw [List.take_succ_cons]
    by_cases hx : x = name
    · -- the name stands first and nowhere else
      subst hx
      have hkeep : ∀ l : List String, x ∉ l → l.filter (· ≠ x) = l := fun l hl =>
        List.filter_eq_self.2 fun y hy => decide_eq_true fun heq => hl (heq ▸ hy)
      rw [List.filter_cons_of_neg (by simp), List.filter_cons_of_neg (by simp), hkeep rest hnot,
        hkeep _ fun hmem => hnot (List.mem_of_mem_take hmem), List.take_take, Nat.min_self]
    · rw [List.filter_cons_of_pos (by simpa using hx), List.filter_cons_of_pos (by simpa using hx)]
      cases n with
      | zero => rfl
      | succ n => rw [List.take_succ_cons, List.take_succ_cons, ih hrest]

/-- **A window holds the latest names**, and using one more keeps it so. -/
theorem latest_put {r : Recency β} (h : r.names = (latest uses).take r.capacity) (name : String)
    (value : β) :
    (r.put name value).names = (latest (uses ++ [name])).take r.capacity := by
  rw [names_put, latest_concat, h]
  cases r.capacity with
  | zero => rfl
  | succ n => rw [List.take_succ_cons, List.take_succ_cons, take_filter_take (nodup_latest uses)]

end Uses

end FeatureFlags.Recency

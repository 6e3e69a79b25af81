/-
  PUTTING CONTEXTS TOGETHER IN ANY ORDER.

  Contexts are taken apart into their individuals, which are sorted by kind; two of one kind are an
  error.

  1. **Specification (`Combines`)** — what individuals make together: an error if there are none or
     a kind comes twice, the only one itself, or all of them by strictly increasing kinds.  Of the
     kinds that come twice, the least one is reported (`FirstRepeated`).
  2. **One result for one choice of individuals** — `Combines.unique`: sorting is canonical where
     kinds differ, and of several kinds one is the least; `Combines.perm`: the order of the
     individuals does not matter.
  3. **The crux (`firstRepeated_of_sorted`)** — in a sorted list, the first two neighbours of one
     kind are of the least kind that comes twice.  So `combine` meets the specification
     (`combines_combine`).
  4. **Main result** — contexts in any order, and taken apart or not, make the same context or the
     same error.
-/
import FeatureFlags.Proofs.Context.Built
import FeatureFlags.Proofs.Context.RoundTrip
import Mathlib.Data.List.Duplicate

namespace FeatureFlags.Context

/-! ## Specification -/

/-- **`FirstRepeated kinds k`** — the kind comes twice, and no kind before it does. -/
def FirstRepeated (kinds : List Kind) (k : Kind) : Prop :=
  kinds.Duplicate k ∧ ∀ l, kinds.Duplicate l → k.name ≤ l.name

/-- **`Combines members result`** — what individuals make together. -/
inductive Combines (members : List Individual) : Except ContextError Context → Prop where
  | nobody (none : members = []) : Combines members (.error .noContexts)
  | alone {i : Individual} (one : members = [i]) : Combines members (.ok (.single i))
  | repeated {k : Kind} (first : FirstRepeated (members.map (·.kind)) k) :
      Combines members (.error (.repeatedKind k.name))
  | several {sorted : List Individual} (two : 2 ≤ members.length) (perm : sorted.Perm members)
      (increasing : sorted.Pairwise fun a b => a.kind.name < b.kind.name) :
        Combines members (.ok (.multi sorted))

/-! ## One result for one choice of individuals -/

/-- There is one least kind among those that come twice. -/
theorem FirstRepeated.unique {kinds : List Kind} {k l : Kind} (hk : FirstRepeated kinds k)
    (hl : FirstRepeated kinds l) : k = l :=
  Kind.ext (String.le_antisymm (hk.2 l hl.1) (hl.2 k hk.1))

/-- Which kinds come twice does not depend on the order. -/
theorem FirstRepeated.perm {kinds kinds' : List Kind} {k : Kind} (h : FirstRepeated kinds k)
    (hperm : kinds.Perm kinds') : FirstRepeated kinds' k := by
  have hduplicate : ∀ l, kinds'.Duplicate l ↔ kinds.Duplicate l := fun l => by
    rw [List.duplicate_iff_two_le_count, List.duplicate_iff_two_le_count, hperm.count_eq]
  exact ⟨(hduplicate k).2 h.1, fun l hl => h.2 l ((hduplicate l).1 hl)⟩

namespace Combines

variable {members members' : List Individual} {result result' : Except ContextError Context}

/-- Kinds that increase strictly are different, in any order. -/
theorem nodup_of_increasing {sorted : List Individual} (perm : sorted.Perm members)
    (increasing : sorted.Pairwise fun a b => a.kind.name < b.kind.name) :
    (members.map (·.kind)).Nodup :=
  (perm.map _).nodup_iff.1 (nodup_kinds_of_pairwise increasing)

theorem of_nil (h : Combines [] result) : result = .error .noContexts := by
  cases h with
  | nobody => rfl
  | alone one => cases one
  | repeated first => exact absurd first.1 (List.not_duplicate_nil _)
  | several two => exact absurd two (Nat.not_succ_le_zero 1)

theorem of_singleton {i : Individual} (h : Combines [i] result) : result = .ok (.single i) := by
  cases h with
  | nobody none => cases none
  | alone one =>
    cases one
    rfl
  | repeated first => exact absurd first.1 (List.not_duplicate_singleton _ _)
  | several two => exact absurd two (Nat.not_succ_le_self 1)

/-- The least kind that comes twice is reported. -/
theorem of_firstRepeated {k : Kind} (h : Combines members result)
    (hk : FirstRepeated (members.map (·.kind)) k) :
    result = .error (.repeatedKind k.name) := by
  cases h with
  | nobody none =>
    subst none
    exact absurd hk.1 (List.not_duplicate_nil _)
  | alone one =>
    subst one
    exact absurd hk.1 (List.not_duplicate_singleton _ _)
  | repeated first => rw [first.unique hk]
  | several _ perm increasing => exact absurd (nodup_of_increasing perm increasing) hk.1.not_nodup

/-- At least two of different kinds make a context of all of them. -/
theorem exists_several (h : Combines members result) (two : 2 ≤ members.length)
    (hnodup : (members.map (·.kind)).Nodup) :
    ∃ sorted, result = .ok (.multi sorted) ∧ sorted.Perm members ∧
      sorted.Pairwise fun a b => a.kind.name < b.kind.name := by
  cases h with
  | nobody none =>
    subst none
    exact absurd two (Nat.not_succ_le_zero 1)
  | alone one =>
    subst one
    exact absurd two (Nat.not_succ_le_self 1)
  | repeated first => exact absurd hnodup first.1.not_nodup
  | several _ perm increasing => exact ⟨_, rfl, perm, increasing⟩

/-- **The individuals decide the result.** -/
theorem unique (h : Combines members result) (h' : Combines members result') :
    result = result' := by
  cases h with
  | nobody none =>
    subst none
    exact h'.of_nil.symm
  | alone one =>
    subst one
    exact h'.of_singleton.symm
  | repeated first => exact (h'.of_firstRepeated first).symm
  | several two perm increasing =>
    obtain ⟨sorted', hresult', perm', increasing'⟩ :=
      h'.exists_several two (nodup_of_increasing perm increasing)
    rw [hresult', (perm.trans perm'.symm).eq_of_pairwise
      (fun a b _ _ hab hba => absurd hba (String.lt_asymm hab)) increasing increasing']

/-- **The order of the individuals does not matter.** -/
theorem perm (h : Combines members result) (hperm : members.Perm members') :
    Combines members' result := by
  cases h with
  | nobody none => exact .nobody (List.nil_perm.1 (none ▸ hperm))
  | alone one => exact .alone (List.perm_singleton.1 (one ▸ hperm.symm))
  | repeated first => exact .repeated (first.perm (hperm.map _))
  | several two perm increasing =>
    exact .several (hperm.length_eq ▸ two) (perm.trans hperm) increasing

/-- Where a kind comes twice, the result is an error. -/
theorem exists_error (h : Combines members result) {k : Kind}
    (hk : (members.map (·.kind)).Duplicate k) :
    ∃ e, result = .error e := by
  cases h with
  | nobody none => exact ⟨_, rfl⟩
  | repeated first => exact ⟨_, rfl⟩
  | alone one =>
    subst one
    exact absurd hk (List.not_duplicate_singleton _ _)
  | several _ perm increasing => exact absurd (nodup_of_increasing perm increasing) hk.not_nodup

end Combines

/-! ## Sorted by kind -/

/-- **Of a sorted list, the first two neighbours of one kind are of the least kind that comes
    twice.** -/
theorem firstRepeated_of_sorted {members : List Individual}
    (hsorted : members.Pairwise fun a b => a.kind.name ≤ b.kind.name) {k : Kind}
    (hrepeated : repeatedKind? members = some k) : FirstRepeated (members.map (·.kind)) k := by
  induction members with
  | nil => cases hrepeated
  | cons a rest ih =>
    cases rest with
    | nil => cases hrepeated
    | cons b others =>
      obtain ⟨hfirst, hrest⟩ := List.pairwise_cons.1 hsorted
      rw [repeatedKind?] at hrepeated
      split at hrepeated
      · next hab =>
        cases hrepeated
        refine ⟨List.Mem.duplicate_cons_self (hab ▸ List.mem_cons_self ..), fun l hl => ?_⟩
        obtain ⟨i, hi, rfl⟩ := List.mem_map.1 hl.mem
        rcases List.mem_cons.1 hi with rfl | hi
        · exact String.le_refl _
        · exact hfirst i hi
      · next hab =>
        obtain ⟨hduplicate, hleast⟩ := ih hrest hrepeated
        refine ⟨hduplicate.duplicate_cons _, fun l hl => ?_⟩
        rcases List.duplicate_cons_iff.1 hl with ⟨rfl, hmem⟩ | hl
        · -- the kind of the head comes once: the neighbour is of another kind, and all others come
          -- after that
          obtain ⟨i, hi, hkind⟩ : ∃ i ∈ b :: others, i.kind = a.kind := List.mem_map.1 hmem
          have hba : b.kind.name ≤ a.kind.name := by
            rw [← hkind]
            rcases List.mem_cons.1 hi with rfl | hi
            · exact String.le_refl _
            · exact (List.pairwise_cons.1 hrest).1 i hi
          exact absurd (Kind.ext (String.le_antisymm (hfirst b (List.mem_cons_self ..)) hba)) hab
        · exact hleast l hl

/-- **Putting contexts together** does what is specified for their individuals. -/
theorem combines_combine (contexts : List Context) :
    Combines (contexts.flatMap individuals) (combine contexts) := by
  have hperm : ∀ members, (sortByKind members).Perm members := fun _ => List.mergeSort_perm _ _
  unfold combine
  split
  · next hnone => exact .nobody hnone
  · next i hone => exact .alone hone
  · next members hnone hsingle =>
    simp only
    split
    · next k hrepeated =>
      -- what is reported of the sorted individuals holds of them in any order
      have hfirst := firstRepeated_of_sorted (pairwise_sortByKind _) hrepeated
      exact .repeated (hfirst.perm ((hperm _).map _))
    · next hdistinct =>
      exact .several (two_le_length hnone hsingle) (hperm _)
        (pairwise_lt_of_repeatedKind? (pairwise_sortByKind _) hdistinct)

/-! ## Main result -/

/-- Whatever is specified for the individuals is the result. -/
theorem combine_eq_iff {contexts : List Context} {result : Except ContextError Context} :
    combine contexts = result ↔ Combines (contexts.flatMap individuals) result :=
  ⟨fun h => h ▸ combines_combine contexts, fun h => (combines_combine contexts).unique h⟩

/-- **Contexts of the same individuals make the same**, in whatever order and parts they come. -/
theorem combine_of_perm {contexts others : List Context}
    (h : (contexts.flatMap individuals).Perm (others.flatMap individuals)) :
    combine others = combine contexts :=
  combine_eq_iff.2 ((combines_combine contexts).perm h)

/-- **Contexts are put together in any order.**

    - In another order they make the same: an equal context, or the same error.
    - So they do if one of several individuals, wherever it stands, is replaced by these
      individuals.
    - The result is an error if and only if there is no individual at all or a kind comes twice; it
      then tells which of both, and in the second case the least kind that comes twice.
    - A single individual is itself the result.
    - At least two of different kinds make a context of all of them, by strictly increasing
      kinds. -/
theorem combine_any_order (contexts : List Context) :
    let members := contexts.flatMap individuals
    (∀ others : List Context, others.Perm contexts → combine others = combine contexts) ∧
    (∀ before parts after, contexts = before ++ .multi parts :: after →
      combine (before ++ parts.map .single ++ after) = combine contexts) ∧
    ((∃ e, combine contexts = .error e) ↔ members = [] ∨ ∃ k, (members.map (·.kind)).Duplicate k) ∧
    (combine contexts = .error .noContexts ↔ members = []) ∧
    (∀ name, combine contexts = .error (.repeatedKind name) ↔
      ∃ k, FirstRepeated (members.map (·.kind)) k ∧ k.name = name) ∧
    (∀ i, members = [i] → combine contexts = .ok (.single i)) ∧
    (2 ≤ members.length → (members.map (·.kind)).Nodup →
      ∃ sorted, combine contexts = .ok (.multi sorted) ∧
      sorted.Perm members ∧ sorted.Pairwise fun a b => a.kind.name < b.kind.name) := by
  intro members
  have hcombines : Combines members (combine contexts) := combines_combine contexts
  refine ⟨fun others hperm => ?_, ?_, ?_, ?_, ?_, ?_, ?_⟩
  · exact combine_of_perm (hperm.symm.flatMap_right _)
  · -- taken apart or not, the individuals are the same, in the same order
    rintro before parts after rfl
    refine combine_of_perm (.of_eq ?_)
    have hparts : (parts.map Context.single).flatMap individuals = parts := by
      rw [List.flatMap_map]
      exact List.flatMap_singleton' parts
    simp only [List.flatMap_append, List.flatMap_cons, hparts, List.append_assoc]
    rfl
  · constructor
    · rintro ⟨e, he⟩
      rw [he] at hcombines
      cases hcombines with
      | nobody none => exact .inl none
      | repeated first => exact .inr ⟨_, first.1⟩
    · rintro (hnone | ⟨k, hk⟩)
      · exact ⟨_, combine_eq_iff.2 (.nobody hnone)⟩
      · exact hcombines.exists_error hk
  · refine ⟨fun h => ?_, fun hnone => combine_eq_iff.2 (.nobody hnone)⟩
    rw [h] at hcombines
    cases hcombines with
    | nobody none => exact none
  · intro name
    constructor
    · intro h
      rw [h] at hcombines
      cases hcombines with
      | repeated first => exact ⟨_, first, rfl⟩
    · rintro ⟨k, hk, rfl⟩
      exact combine_eq_iff.2 (.repeated hk)
  · exact fun i hi => combine_eq_iff.2 (.alone hi)
  · exact fun htwo hnodup => hcombines.exists_several htwo hnodup

end FeatureFlags.Context

/-
  PRECEDENCE IS A TOTAL ORDER OF VERSIONS.

  Each comparison is lawful: it turns around when its sides are exchanged, it is transitive, and it
  says `.eq` of equal sides only.  Lawfulness is put together from the parts, as the comparisons
  are.

  1. **Identifiers** — numbers come before words.
  2. **Lists of them** — `orderIdentifiers` is the lexicographic order, and `orderPrerelease` asks
     first which list is empty (`orderPrerelease_eq`).
  3. **Versions** — `order` compares the three numbers and then the pre-release parts (`order_eq`).
-/
import FeatureFlags.Version

namespace FeatureFlags

open Std (TransCmp OrientedCmp LawfulEqCmp TransOrd OrientedOrd)

/-! ## Identifiers -/

namespace Identifier

instance : TransCmp order where
  eq_swap {a b} := by
    cases a with
    | numeric m =>
      cases b with
      | numeric n => exact OrientedOrd.eq_swap (α := Nat)
      | word v => rfl
    | word u =>
      cases b with
      | numeric n => rfl
      | word v => exact OrientedOrd.eq_swap (α := String)
  isLE_trans {a b c} hab hbc := by
    cases a with
    | numeric m =>
      cases b with
      | numeric n =>
        cases c with
        | numeric k => exact TransOrd.isLE_trans (α := Nat) hab hbc
        | word w => rfl
      | word v =>
        cases c with
        | numeric k => cases hbc
        | word w => rfl
    | word u =>
      cases b with
      | numeric n => cases hab
      | word v =>
        cases c with
        | numeric k => cases hbc
        | word w => exact TransOrd.isLE_trans (α := String) hab hbc

instance : LawfulEqCmp order where
  compare_self {a} := by
    cases a with
    | numeric m => exact Std.ReflOrd.compare_self (α := Nat)
    | word u => exact Std.ReflOrd.compare_self (α := String)
  eq_of_compare {a b} h := by
    cases a with
    | numeric m =>
      cases b with
      | numeric n => exact congrArg numeric (Std.LawfulEqOrd.eq_of_compare (α := Nat) h)
      | word v => cases h
    | word u =>
      cases b with
      | numeric n => cases h
      | word v => exact congrArg word (Std.LawfulEqOrd.eq_of_compare (α := String) h)

end Identifier

/-! ## Lists of identifiers -/

namespace Version

/-- Lists are compared as in a dictionary. -/
theorem orderIdentifiers_eq (as bs : List Identifier) :
    orderIdentifiers as bs = List.compareLex Identifier.order as bs := by
  induction as generalizing bs with
  | nil =>
    cases bs with
    | nil => exact List.compareLex_nil_nil.symm
    | cons b bs => exact List.compareLex_nil_cons.symm
  | cons a as ih =>
    cases bs with
    | nil => exact List.compareLex_cons_nil.symm
    | cons b bs => rw [orderIdentifiers, ih, List.compareLex_cons_cons]

/-- The list that is empty comes last; of two that are not, the lexicographic order decides. -/
theorem orderPrerelease_eq (as bs : List Identifier) :
    orderPrerelease as bs =
      compareLex (compareOn List.isEmpty) (List.compareLex Identifier.order) as bs := by
  rw [compareLex, ← orderIdentifiers_eq]
  cases as with
  | nil =>
    cases bs with
    | nil => rfl
    | cons b bs => rfl
  | cons a as =>
    cases bs with
    | nil => rfl
    | cons b bs => rfl

instance : TransCmp orderPrerelease := by
  have heq : orderPrerelease =
      compareLex (compareOn List.isEmpty) (List.compareLex Identifier.order) :=
    funext fun as => funext fun bs => orderPrerelease_eq as bs
  rw [heq]
  infer_instance

/-- Only equal lists are of the same rank. -/
theorem eq_of_orderPrerelease {as bs : List Identifier} (h : orderPrerelease as bs = .eq) :
    as = bs := by
  rw [orderPrerelease_eq, compareLex, Ordering.then_eq_eq] at h
  exact LawfulEqCmp.eq_of_compare h.2

/-! ## Versions -/

/-- Versions by their pre-release parts alone. -/
def orderByPrerelease (a b : Version) : Ordering := orderPrerelease a.prerelease b.prerelease

instance : TransCmp orderByPrerelease where
  eq_swap {a b} := @OrientedCmp.eq_swap _ orderPrerelease _ a.prerelease b.prerelease
  isLE_trans {a b c} :=
    @TransCmp.isLE_trans _ orderPrerelease _ a.prerelease b.prerelease c.prerelease

/-- Major, minor, patch and then the prerelease: the first difference decides. -/
theorem order_eq : order = compareLex (compareOn major) (compareLex (compareOn minor)
    (compareLex (compareOn patch) orderByPrerelease)) := rfl

instance : TransCmp order := by
  rw [order_eq]
  infer_instance

/-- **Only equal versions have equal precedence.** -/
instance : LawfulEqCmp order where
  eq_of_compare {a b} h := by
    rw [order_eq, compareLex, compareLex, compareLex] at h
    simp only [Ordering.then_eq_eq, compareOn, Std.LawfulEqOrd.compare_eq_iff_eq] at h
    obtain ⟨hmajor, hminor, hpatch, hprerelease⟩ := h
    have hidentifiers : a.prerelease = b.prerelease := eq_of_orderPrerelease hprerelease
    cases a
    cases b
    simp_all

end Version

end FeatureFlags

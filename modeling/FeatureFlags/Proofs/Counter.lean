/-
  COUNTERS of 64 bits.

  A counter that is raised past its last value begins at zero again, and nobody notices.  So what
  counters say about `n` things is a number that agrees with `n` up to multiples of 2⁶⁴ and is never
  larger (`Stands`); below 2⁶⁴ it is `n` itself.

  1. **Sums** — what several counters say is added up (`Stands.trans`, `Stands.add`,
     `Stands.of_add`).
  2. **Raising** — one more (`Stands.toNat_succ`), or several at once (`Stands.toNat_add_ofNat`).
-/
import Mathlib.Algebra.Ring.Nat
import Mathlib.Data.Nat.ModEq

namespace FeatureFlags

/-- `Stands c n` — counters of 64 bits that say `c` may stand for `n` things counted. -/
structure Stands (c n : Nat) : Prop where
  modEq : c ≡ n [MOD 2 ^ 64]
  le : c ≤ n

namespace Stands

/-! ## Sums -/

@[simp] theorem refl (n : Nat) : Stands n n := ⟨.refl n, Nat.le_refl n⟩

theorem trans {a b c : Nat} (hab : Stands a b) (hbc : Stands b c) : Stands a c :=
  ⟨hab.modEq.trans hbc.modEq, Nat.le_trans hab.le hbc.le⟩

/-- Two counters added up: each may have wrapped around, and so may the sum. -/
theorem add {a b c d : Nat} (hab : Stands a b) (hcd : Stands c d) : Stands (a + c) (b + d) :=
  ⟨hab.modEq.add hcd.modEq, Nat.add_le_add hab.le hcd.le⟩

/-- What is added on both sides makes no difference. -/
theorem of_add {a b k : Nat} (h : Stands (a + k) (b + k)) : Stands a b :=
  ⟨Nat.ModEq.add_right_cancel' k h.modEq, Nat.le_of_add_le_add_right h.le⟩

/-- Fewer than 2⁶⁴ things are counted exactly. -/
theorem eq_of_lt {c n : Nat} (h : Stands c n) (hn : n < 2 ^ 64) : c = n :=
  h.modEq.eq_of_lt_of_lt (Nat.lt_of_le_of_lt h.le hn) hn

/-! ## Raising -/

/-- One more on a counter. -/
theorem toNat_succ (c : UInt64) : Stands (c + 1).toNat (c.toNat + 1) := by
  rw [UInt64.toNat_add]
  exact ⟨Nat.mod_modEq _ _, Nat.mod_le _ _⟩

/-- Several more on a counter. -/
theorem toNat_add_ofNat (c : UInt64) (n : Nat) : Stands (c + .ofNat n).toNat (c.toNat + n) := by
  rw [UInt64.toNat_add, UInt64.toNat_ofNat']
  have hn : Stands (n % 2 ^ 64) n := ⟨Nat.mod_modEq _ _, Nat.mod_le _ _⟩
  exact trans ⟨Nat.mod_modEq _ _, Nat.mod_le _ _⟩ ((refl c.toNat).add hn)

end Stands

end FeatureFlags

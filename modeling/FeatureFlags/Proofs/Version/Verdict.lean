/-
  THE VERSION OPERATORS ORDER TEXTS.

  1. **Precedence of texts** — of two texts that are read as versions, the operators say what the
     precedence of the versions is; of other texts none of them holds (`holds_iff`).
  2. **Laws** — the verdicts on texts inherit the laws of precedence: it is exactly one
     (`count_verdicts`), it turns around with its sides (`holds_swap`), and texts read as one
     version get the same (`alike_of_ofText?`).
  3. **Main result** — the operators order the texts that are read, and neither build parts nor
     zeros for missing numbers move a text in that order.
-/
import FeatureFlags.Evaluation.Operator
import FeatureFlags.Proofs.Version.Precedence
import FeatureFlags.Proofs.Version.Reading

namespace FeatureFlags.Version

open Std (TransCmp OrientedCmp LawfulEqCmp ReflCmp)

/-! ## Precedence of texts -/

/-- The operator that asks for an outcome. -/
def operatorFor : Ordering → Operator
  | .lt => .versionLessThan
  | .eq => .versionEqual
  | .gt => .versionGreaterThan

/-- Whether the operator for an outcome holds between two texts. -/
def holds (outcome : Ordering) (a b : String) : Bool :=
  (operatorFor outcome).holds (.text a) (.text b)

/-- What the version operators say of two texts. -/
def verdicts (a b : String) : List Bool := [holds .lt a b, holds .eq a b, holds .gt a b]

/-- Texts that no version operator tells apart, on either side. -/
def Alike (a b : String) : Prop := ∀ c, verdicts a c = verdicts b c ∧ verdicts c a = verdicts c b

variable {a b c : String} {outcome : Ordering}

theorem holds_eq (outcome : Ordering) (a b : String) :
    holds outcome a b = match ofText? a, ofText? b with
      | some u, some v => u.order v = outcome
      | _, _ => false := by
  have hoperator : holds outcome a b = Operator.betweenVersions outcome (.text a) (.text b) := by
    cases outcome with
    | lt => rfl
    | eq => rfl
    | gt => rfl
  rw [hoperator, Operator.betweenVersions, Operator.holdsBetween]
  simp only [Document.text?, Option.bind_some]
  cases ofText? a with
  | none => rfl
  | some u =>
    cases ofText? b with
    | none => rfl
    | some v => rfl

/-- An operator holds of two versions in that order, and never of what is no version. -/
theorem holds_iff : holds outcome a b = true ↔
    ∃ u v, ofText? a = some u ∧ ofText? b = some v ∧ u.order v = outcome := by
  rw [holds_eq]
  cases ofText? a with
  | none => simp
  | some u =>
    cases ofText? b with
    | none => simp
    | some v => simp

/-! ## Laws -/

/-- Exactly one operator holds between two versions, and none without them. -/
theorem count_verdicts (a b : String) :
    (verdicts a b).count true = if (ofText? a).isSome ∧ (ofText? b).isSome then 1 else 0 := by
  rw [verdicts, holds_eq, holds_eq, holds_eq]
  cases ofText? a with
  | none => rfl
  | some u =>
    cases ofText? b with
    | none => rfl
    | some v =>
      show List.count true [decide (u.order v = .lt), decide (u.order v = .eq),
          decide (u.order v = .gt)] = 1
      cases u.order v with
      | lt => rfl
      | eq => rfl
      | gt => rfl

/-- To compare the other way round is to turn the outcome around. -/
theorem holds_swap (outcome : Ordering) (a b : String) :
    holds outcome.swap b a = holds outcome a b := by
  rw [Bool.eq_iff_iff, holds_iff, holds_iff]
  constructor
  · rintro ⟨v, u, hv, hu, horder⟩
    exact ⟨u, v, hu, hv, by rw [@OrientedCmp.eq_swap _ order _ u v, horder, Ordering.swap_swap]⟩
  · rintro ⟨u, v, hu, hv, horder⟩
    exact ⟨v, u, hv, hu, by rw [@OrientedCmp.eq_swap _ order _ v u, horder]⟩

theorem less_trans (hab : holds .lt a b = true) (hbc : holds .lt b c = true) :
    holds .lt a c = true := by
  obtain ⟨u, v, hu, hv, huv⟩ := holds_iff.mp hab
  obtain ⟨v', w, hv', hw, hvw⟩ := holds_iff.mp hbc
  rw [hv] at hv'
  cases hv'
  exact holds_iff.mpr ⟨u, w, hu, hw, TransCmp.lt_trans huv hvw⟩

/-- Equal versions are one version. -/
theorem equal_iff : holds .eq a b = true ↔ (ofText? a).isSome ∧ ofText? a = ofText? b := by
  rw [holds_iff]
  constructor
  · rintro ⟨u, v, hu, hv, huv⟩
    cases LawfulEqCmp.eq_of_compare huv
    exact ⟨Option.isSome_of_mem hu, hu.trans hv.symm⟩
  · rintro ⟨hsome, hsame⟩
    obtain ⟨u, hu⟩ := Option.isSome_iff_exists.mp hsome
    exact ⟨u, u, hu, hsame ▸ hu, ReflCmp.compare_self⟩

/-- Verdicts depend on the versions that the texts are read as. -/
theorem alike_of_ofText? (h : ofText? a = ofText? b) : Alike a b := by
  intro c
  simp only [verdicts, holds_eq, h, and_self]

/-! ## Main result -/

/-- **The version operators order the texts that are read as versions.**  Of two such texts exactly
    one operator holds, of others none.  To be less is transitive, and the other side of being
    greater; to be equal is an equivalence, and equal texts are alike in every verdict.  Alike are
    also a text with a build part and the text without it, and a text in which a number is missing
    and the text in which it is written as 0.  A text in the strict form of a version is read as
    that version. -/
theorem operators_order :
    (∀ a b, (verdicts a b).count true = if (ofText? a).isSome ∧ (ofText? b).isSome then 1 else 0) ∧
    (∀ a b c, holds .lt a b = true → holds .lt b c = true → holds .lt a c = true) ∧
    (∀ a b, holds .lt a b = holds .gt b a) ∧
    (∀ a, (ofText? a).isSome → holds .eq a a = true) ∧
    (∀ a b, holds .eq a b = true → holds .eq b a = true) ∧
    (∀ a b c, holds .eq a b = true → holds .eq b c = true → holds .eq a c = true) ∧
    (∀ a b, holds .eq a b = true → Alike a b) ∧
    (∀ core build, (ofText? (core ++ "+" ++ build)).isSome → Alike (core ++ "+" ++ build) core) ∧
    (∀ numbers rest : String, (∀ c ∈ numbers.toList, isNumbersChar c) →
      numbers.toList.count '.' < 2 →
      Stops isNumbersChar rest.toList → Alike (numbers ++ rest) (numbers ++ ".0" ++ rest)) ∧
    (∀ (v : Version) build, v.Proper → ProperBuild build →
      ofText? (String.ofList (v.written build)) = some v) := by
  -- equality of what is read is what all of these come down to
  refine ⟨count_verdicts, fun _ _ _ => less_trans, fun a b => holds_swap .gt b a,
    fun a hsome => equal_iff.mpr ⟨hsome, rfl⟩, ?symm, ?trans, ?alike, ?build, ?zero,
    fun _ _ => ofText?_written⟩
  case symm =>
    intro a b h
    obtain ⟨hsome, hab⟩ := equal_iff.mp h
    exact equal_iff.mpr ⟨hab ▸ hsome, hab.symm⟩
  case trans =>
    intro a b c h h'
    obtain ⟨hsome, hab⟩ := equal_iff.mp h
    obtain ⟨-, hbc⟩ := equal_iff.mp h'
    exact equal_iff.mpr ⟨hsome, hab.trans hbc⟩
  case alike =>
    intro a b h
    exact alike_of_ofText? (equal_iff.mp h).2
  case build =>
    intro core build hsome
    obtain ⟨v, hv⟩ := Option.isSome_iff_exists.mp hsome
    exact alike_of_ofText? (hv.trans (ofText?_of_plus hv).symm)
  case zero =>
    intro numbers rest hnumbers hfew hrest
    exact alike_of_ofText? (ofText?_append_zero hnumbers hfew hrest).symm

/-- A missing number and a build part count for nothing, and 9 is less than 10 also among
    identifiers. -/
example : verdicts "2.1-rc.9" "2.1.0-rc.10+b.1" = [true, false, false] := by decide +kernel

end FeatureFlags.Version

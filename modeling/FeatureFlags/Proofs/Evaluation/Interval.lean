/-
  THE UNIT INTERVAL — where contexts stand, and what that makes of the greatest and the least share.

  1. **Places (`represents_positionOf`)** — of the first 64 bits of a digest the upper 60 count.
     They are rounded to 53 bits, and so is 2⁶⁰ - 1, which becomes 2⁶⁰; dividing by that rounds
     nothing.
  2. **Bounds** — so no place is below 0, and just those are below 1 whose number is not rounded up
     to 2⁶⁰ (`positionOf_lt_one_iff`).
  3. **Contexts** — stand where their digest puts them, and at 0 if nothing is digested.
  4. **Main result (`segment_share_bounds`)** — a rule of a segment with the whole share takes
     whoever satisfies its clauses, and one without a share takes nobody.
-/
import FeatureFlags.Proofs.Evaluation.Membership
import FeatureFlags.Proofs.Evaluation.Selection
import FeatureFlags.Proofs.Rounding

namespace FeatureFlags

open Evaluation (Pass State)
open Rounding (Normal Represents nearest rounded value?)

namespace Bucketing

open Float.Model (Format UnpackedFloat)

/-! ## Places -/

variable {first : UInt64}

/-- 2⁶⁰ - 1 has too many bits, and is rounded up. -/
theorem normal_scale : Normal (2 ^ 52) 8 (0xFFFFFFFFFFFFFFF : UInt64).toFloat.toModel.unpack :=
  ⟨by decide, by decide⟩

/-- Fifteen hexadecimal digits make a number of sixty bits. -/
theorem toNat_shiftRight_lt (first : UInt64) : (first >>> 4).toNat < 2 ^ 60 := by
  have hlt := first.toNat_lt
  have hshift : (first >>> 4).toNat = first.toNat / 16 := by
    rw [UInt64.toNat_shiftRight, Nat.shiftRight_eq_div_pow]
    rfl
  omega

/-- **The place of a number** is the number, rounded to 53 bits, over 2⁶⁰. -/
theorem represents_positionOf (first : UInt64) :
    Represents ((rounded (first >>> 4).toNat : ℚ) / 2 ^ 60) (positionOf first).toModel.unpack := by
  -- zero has no normal form of its own; every other number is rounded once and then divided exactly
  rcases Nat.eq_zero_or_pos (first >>> 4).toNat with hzero | hpos
  · have hshift : first >>> 4 = 0 := UInt64.toNat_inj.1 hzero
    have hrounded : rounded (0 : UInt64).toNat = 0 := by decide
    rw [positionOf, hshift, hrounded, Nat.cast_zero, zero_div]
    exact .zero .positive
  · obtain ⟨m, e, hnumber, hvalue, hlow, hhigh⟩ := Rounding.exists_normal_toFloat hpos
    have hlog : (first >>> 4).toNat.log2 < 60 :=
      (Nat.log2_lt hpos.ne').2 (toNat_shiftRight_lt first)
    obtain ⟨n, e', hquotient, hquotientValue, hlow', hhigh'⟩ :=
      hnumber.exists_div_twoPow normal_scale (by omega)
    have hplace : (rounded (first >>> 4).toNat : ℚ) / 2 ^ 60 = n * 2 ^ e' := by
      rw [hquotientValue, hvalue]
      norm_num
    rw [hplace]
    exact .normal (hquotient.unpack_pack (by omega) (by omega))

/-! ## Bounds -/

theorem represents_zero : Represents 0 (0.0 : Float).toModel.unpack := .zero .positive

/-- The `1.0` of the comparison is the number one, and no rounding is behind it. -/
theorem represents_one : Represents 1 (1.0 : Float).toModel.unpack := by
  have hone : (1 : ℚ) = (2 ^ 52 : Nat) * 2 ^ (-52 : Int) := by norm_num
  rw [hone]
  exact .normal ⟨by decide, by decide⟩

/-- A place is a quotient of numbers that are not negative. -/
theorem zero_le_positionOf (first : UInt64) : 0.0 ≤ positionOf first :=
  (represents_zero.le_iff (represents_positionOf first)).2 (by positivity)

theorem not_positionOf_lt_zero (first : UInt64) : ¬ positionOf first < 0.0 := by
  rw [(represents_positionOf first).lt_iff represents_zero, not_lt]
  positivity

/-- Just the numbers nearest to the end are rounded up to it. -/
theorem rounded_lt_iff {v : Nat} (h : v < 2 ^ 60) : rounded v < 2 ^ 60 ↔ v < 2 ^ 60 - 64 := by
  rcases Nat.lt_or_ge v.log2 59 with hshort | hlong
  · have hrounded : rounded v ≤ 2 ^ 59 :=
      Nat.le_trans (Rounding.rounded_le v) (Nat.pow_le_pow_right (by decide) hshort)
    have hv : v < 2 ^ 59 :=
      Nat.lt_of_lt_of_le Nat.lt_log2_self (Nat.pow_le_pow_right (by decide) hshort)
    omega
  · -- the unit is 128, and the greatest count is odd, so that its half is rounded up
    have hlog : v.log2 = 59 := by
      have hv : v ≠ 0 := by
        rintro rfl
        simp at hlong
      have hlt := (Nat.log2_lt hv).2 h
      omega
    rw [rounded, hlog, nearest]
    split <;> omega

/-- A number of sixty bits is rounded to 53 bits: the last 64 of them go up to `2 ^ 60`, and their
    quotient is one. -/
theorem positionOf_lt_one_iff (first : UInt64) :
    positionOf first < 1.0 ↔ (first >>> 4).toNat < 2 ^ 60 - 64 := by
  rw [(represents_positionOf first).lt_iff represents_one, div_lt_one (by norm_num),
    ← rounded_lt_iff (toNat_shiftRight_lt first)]
  norm_cast

/-! ## Contexts -/

variable {b : Bucketing} {context : Context}

theorem not_position_lt_zero (b : Bucketing) (context : Context) : ¬ b.position context < 0.0 := by
  rw [position]
  split
  · exact not_positionOf_lt_zero _
  · rw [represents_zero.lt_iff represents_zero]
    exact lt_irrefl 0

/-- The place of a context is below one unless its digest is one of those last 64. -/
theorem position_lt_one (h : ∀ first ∈ b.digested? context, (first >>> 4).toNat < 2 ^ 60 - 64) :
    b.position context < 1.0 := by
  rw [position]
  split
  next first hfirst => exact (positionOf_lt_one_iff first).2 (h first hfirst)
  next => exact (represents_zero.lt_iff represents_one).2 one_pos

end Bucketing

/-! ## Main result -/

namespace Evaluator

open Bucketing (positionOf)

variable {context : Context} {isMember : String → Evaluation Bool} {s : Segment}
    {rule : SegmentRule} {u : State}

/-- The greatest weight is a share of exactly one. -/
theorem share_whole : share 100000 = 1.0 := by decide +kernel

theorem share_nothing : share 0 = 0.0 := by decide +kernel

/-- A rule with the whole share takes whoever satisfies its clauses. -/
theorem runFrom_segmentRuleMatches_of_whole (hweight : rule.weight = some 100000)
    (hvalid : (segmentBucketing s rule).reference.isValid = true)
    (hdigest : ∀ first ∈ (segmentBucketing s rule).digested? context,
      (first >>> 4).toNat < 2 ^ 60 - 64)
    {t : State} (hpass : Pass (ClauseGives context isMember) true rule.clauses u t) :
    (segmentRuleMatches context isMember s rule).runFrom u = (.ok true, t) := by
  have hbucket : (segmentBucketing s rule).bucket context = .ok _ :=
    Bucketing.bucket_eq_ok_iff.2 ⟨hvalid, rfl⟩
  have hbelow : (segmentBucketing s rule).position context < share 100000 :=
    share_whole ▸ Bucketing.position_lt_one hdigest
  rw [runFrom_segmentRuleMatches_iff.2 (.share hpass hweight hbucket)]
  exact Prod.ext (congrArg Except.ok (decide_eq_true hbelow)) rfl

/-- A rule without a share takes nobody. -/
theorem runFrom_segmentRuleMatches_of_nothing (hweight : rule.weight = some 0) :
    ((segmentRuleMatches context isMember s rule).runFrom u).1 ≠ .ok true := by
  have hjudges : RuleJudges context isMember s rule u _ := runFrom_segmentRuleMatches_iff.1 rfl
  intro htaken
  generalize (segmentRuleMatches context isMember s rule).runFrom u = r at hjudges htaken
  cases hjudges with
  | clause _ hnot => exact hnot htaken
  | everyone _ hnone => cases hweight.symm.trans hnone
  | @share t weight place hpass hsome hbucket =>
    cases hweight.symm.trans hsome
    have hbelow : place.position < share 0 := of_decide_eq_true (Except.ok.inj htaken)
    rw [share_nothing, (Bucketing.bucket_eq_ok_iff.1 hbucket).2] at hbelow
    exact Bucketing.not_position_lt_zero _ _ hbelow
  | unplaced => cases htaken

/-- **Shares at the bounds.**  For all 64 bits that a digest may begin with, the place is the number
    in the upper 60 of them, rounded to 53 bits, over 2⁶⁰; it is not below 0, and below 1 as long as
    that number is less than 2⁶⁰ - 64.  So a rule of a segment with the whole share, which spreads
    contexts by a valid reference, takes every context that satisfies its clauses and whose digest,
    if it has one, begins with such a number; and a rule without a share takes no context at all,
    from whatever state. -/
theorem segment_share_bounds (context : Context) (isMember : String → Evaluation Bool) (s : Segment)
    (rule : SegmentRule) (u : State) :
    (∀ first : UInt64,
      value? (positionOf first) = some ((rounded (first >>> 4).toNat : ℚ) / 2 ^ 60) ∧
      0.0 ≤ positionOf first ∧
      ((first >>> 4).toNat < 2 ^ 60 - 64 → positionOf first < 1.0)) ∧
    (rule.weight = some 100000 → (segmentBucketing s rule).reference.isValid = true →
      (∀ first ∈ (segmentBucketing s rule).digested? context, (first >>> 4).toNat < 2 ^ 60 - 64) →
      ∀ t, Pass (ClauseGives context isMember) true rule.clauses u t →
        (segmentRuleMatches context isMember s rule).runFrom u = (.ok true, t)) ∧
    (rule.weight = some 0 →
      ((segmentRuleMatches context isMember s rule).runFrom u).1 ≠ .ok true) := by
  refine ⟨fun first => ⟨?_, ?_, ?_⟩, ?_, ?_⟩
  · exact (Bucketing.represents_positionOf first).value?_eq
  · exact Bucketing.zero_le_positionOf first
  · exact (Bucketing.positionOf_lt_one_iff first).2
  · exact fun hweight hvalid hdigest t => runFrom_segmentRuleMatches_of_whole hweight hvalid hdigest
  · exact runFrom_segmentRuleMatches_of_nothing

/-- A rule about one user. -/
def guestRule (weight : UInt32) (bucketBy : Option String) : SegmentRule where
  id := none
  clauses := [⟨some Kind.user, "key", .isIn, [.text "a"], false⟩]
  weight := some weight
  bucketBy := bucketBy
  rolloutContextKind := some Kind.user

theorem guestRule_pass (weight : UInt32) (bucketBy : Option String)
    (isMember : String → Evaluation Bool) (u : State) :
    Pass (ClauseGives loungeGuest isMember) true (guestRule weight bucketBy).clauses u u := by
  refine .cons ?_ .nil
  rw [ClauseGives, clauseHolds, if_neg (by decide), Evaluation.runFrom_ofExcept]
  rfl

/-- The guest is taken by the whole share, and not without a share. -/
theorem segment_share_bounds_guest :
    let s := Segment.ofKey "club"
    let u := State.start (.ofSettings .standard)
    let isMember := fun _ => (pure false : Evaluation Bool)
    ((segmentBucketing s (guestRule 100000 none)).digested? loungeGuest).isSome = true ∧
    positionOf 0xFFFFFFFFFFFFFBFF < 1.0 ∧
    (segmentRuleMatches loungeGuest isMember s (guestRule 100000 none)).runFrom u = (.ok true, u) ∧
    ((segmentRuleMatches loungeGuest isMember s (guestRule 0 none)).runFrom u).1 ≠ .ok true := by
  intro s u isMember
  obtain ⟨hplaces, hwhole, -⟩ :=
    segment_share_bounds loungeGuest isMember s (guestRule 100000 none) u
  obtain ⟨-, -, hnothing⟩ := segment_share_bounds loungeGuest isMember s (guestRule 0 none) u
  have hdigest : ∀ first ∈ (segmentBucketing s (guestRule 100000 none)).digested? loungeGuest,
      (first >>> 4).toNat < 2 ^ 60 - 64 := by
    have hall : ((segmentBucketing s (guestRule 100000 none)).digested? loungeGuest).all
        (fun first : UInt64 => decide ((first >>> 4).toNat < 2 ^ 60 - 64)) = true := by
      decide +kernel
    exact fun first hfirst => of_decide_eq_true ((Option.all_eq_true _ _).1 hall first hfirst)
  refine ⟨by decide +kernel, (hplaces _).2.2 (by decide), ?_, hnothing rfl⟩
  exact hwhole rfl (by decide +kernel) hdigest u (guestRule_pass 100000 none isMember u)

/-- **The end is reached** by the greatest numbers, which a whole share leaves out; and a reference
    that is not valid is a fault of the rule, whatever its share. -/
theorem not_segment_share_bounds :
    positionOf 0xFFFFFFFFFFFFFC00 = 1.0 ∧ ¬ positionOf 0xFFFFFFFFFFFFFC00 < 1.0 ∧
    ¬ positionOf 0xFFFFFFFFFFFFFC00 < share 100000 ∧
    (let s := Segment.ofKey "club"
     let u := State.start (.ofSettings .standard)
     let isMember := fun _ => (pure false : Evaluation Bool)
     let rule := guestRule 100000 (some "")
     Pass (ClauseGives loungeGuest isMember) true rule.clauses u u ∧
       (segmentRuleMatches loungeGuest isMember s rule).runFrom u =
         (.error .malformedFlag, u)) := by
  refine ⟨by decide +kernel, by decide +kernel, by decide +kernel, ?_⟩
  have hpass :=
    guestRule_pass 100000 (some "") (fun _ => pure false) (State.start (.ofSettings .standard))
  -- an invalid attribute reference leaves the context without a place
  have hbucket :=
    Bucketing.bucket_eq
      (segmentBucketing (Segment.ofKey "club") (guestRule 100000 (some ""))) loungeGuest
  rw [if_neg (by decide +kernel)] at hbucket
  exact ⟨hpass, runFrom_segmentRuleMatches_iff.2 (.unplaced hpass rfl hbucket)⟩

end Evaluator

end FeatureFlags

/-
  ROUNDING — floating-point numbers as the rational numbers that they stand for.

  1. **Nearest even** — `nearest unit n` counts how many units are nearest to `n`; of two counts
     that are equally near, it is the even one.  `rounded n` is `n` rounded so to 53 bits, which
     never goes beyond the next power of two (`rounded_le`).
  2. **Normal numbers** — with a mantissa of 53 bits.  They survive packing (`Normal.unpack_pack`).
     Like zero, each of them `Represents` a rational number, and they are ordered as these
     (`Represents.lt_iff`).
  3. **Rounding** — the round bit and the sticky bit together decide as `nearest` does
     (`roundedMantissa_shiftRight`), so a natural number is taken to the number that stands for
     `rounded n` (`exists_normal_toFloat`).
  4. **Division by a power of two** rounds nothing (`Normal.exists_div_twoPow`).
-/
import FeatureFlags.Proofs.Json.Finite
import Mathlib.Algebra.Order.Field.Power
import Mathlib.Data.Nat.Log
import Mathlib.Order.Compare
import Mathlib.Tactic.FieldSimp
import Mathlib.Tactic.Linarith
import Mathlib.Tactic.NormNum
import Mathlib.Tactic.Positivity
import Mathlib.Tactic.Ring

namespace FeatureFlags.Rounding

open Float.Model (Format UnpackedFloat)
open Float.Model.UnpackedFloat

/-! ## Nearest even -/

/-- How many units are nearest to `n`; of two counts that are equally near, the even one. -/
def nearest (unit n : Nat) : Nat :=
  if 2 * (n % unit) < unit ∨ 2 * (n % unit) = unit ∧ n / unit % 2 = 0 then
    n / unit else n / unit + 1

/-- **The number with 53 bits that is nearest to `n`**, or of two such numbers the one that is an
    even multiple. -/
def rounded (n : Nat) : Nat := nearest (2 ^ (n.log2 - 52)) n * 2 ^ (n.log2 - 52)

theorem nearest_one (n : Nat) : nearest 1 n = n := by
  rw [nearest, Nat.mod_one, if_pos (by omega), Nat.div_one]

/-- A multiple of the unit is its own nearest. -/
theorem nearest_mul {unit : Nat} (h : 0 < unit) (n : Nat) : nearest unit (n * unit) = n := by
  rw [nearest, Nat.mul_mod_left, if_pos (by omega), Nat.mul_div_cancel n h]

/-- The nearest count is the quotient or the next one. -/
theorem nearest_bounds (unit n : Nat) :
    n / unit ≤ nearest unit n ∧ nearest unit n ≤ n / unit + 1 := by
  rw [nearest]
  split <;> omega

/-- Numbers of at most 53 bits are not rounded. -/
theorem rounded_of_log2_le {n : Nat} (h : n.log2 ≤ 52) : rounded n = n := by
  have hunit : n.log2 - 52 = 0 := by omega
  rw [rounded, hunit, Nat.pow_zero, nearest_one, Nat.mul_one]

/-- What is longer than 53 bits is cut to 53 bits, or rounded up to the next power of two. -/
theorem nearest_twoPow_bounds {n : Nat} (h : 52 ≤ n.log2) :
    2 ^ 52 ≤ nearest (2 ^ (n.log2 - 52)) n ∧ nearest (2 ^ (n.log2 - 52)) n ≤ 2 ^ 53 := by
  have hn : n ≠ 0 := by
    rintro rfl
    simp at h
  have hunit : 0 < 2 ^ (n.log2 - 52) := Nat.two_pow_pos _
  -- what is left of `n` in units of the last bit kept has 53 bits
  have hlow : 2 ^ 52 ≤ n / 2 ^ (n.log2 - 52) := by
    rw [Nat.le_div_iff_mul_le hunit, ← Nat.pow_add, Nat.add_sub_cancel' h]
    exact Nat.log2_self_le hn
  have hhigh : n / 2 ^ (n.log2 - 52) < 2 ^ 53 := by
    rw [Nat.div_lt_iff_lt_mul hunit, ← Nat.pow_add]
    have hexponent : 53 + (n.log2 - 52) = n.log2 + 1 := by omega
    rw [hexponent]
    exact Nat.lt_log2_self
  have hnearest := nearest_bounds (2 ^ (n.log2 - 52)) n
  omega

/-- Rounding does not go beyond the next power of two. -/
theorem rounded_le (n : Nat) : rounded n ≤ 2 ^ (n.log2 + 1) := by
  rcases Nat.le_total n.log2 52 with hshort | hlong
  · rw [rounded_of_log2_le hshort]
    exact Nat.le_of_lt Nat.lt_log2_self
  · calc rounded n ≤ 2 ^ 53 * 2 ^ (n.log2 - 52) :=
      Nat.mul_le_mul_right _ (nearest_twoPow_bounds hlong).2
      _ = 2 ^ (n.log2 + 1) := by rw [← Nat.pow_add]; congr 1; omega

/-! ## Normal numbers -/

/-- **The rational number that a floating-point number stands for**, if it is finite. -/
def value? (x : Float) : Option ℚ :=
  match x.toModel.unpack with
  | .zero _ => some 0
  | .finite sign m e _ => some (sign.apply m * 2 ^ e)
  | .infinity _ | .notANumber => none

/-- **The positive number `m · 2 ^ e`**, with a mantissa of 53 bits. -/
inductive Normal (m : Nat) (e : Int) : UnpackedFloat → Prop
  | intro (hpos : 0 < m) : m.log2 = 52 → Normal m e (.finite .positive m e hpos)

variable {m m' : Nat} {e e' : Int} {u u' : UnpackedFloat}

theorem log2_eq_52_iff : m.log2 = 52 ↔ 2 ^ 52 ≤ m ∧ m < 2 ^ 53 := by
  by_cases hm : m = 0
  · subst hm
    decide
  · exact Nat.log2_eq_iff hm

/-- A normal number uses all the bits of its mantissa. -/
theorem Normal.bounds (h : Normal m e u) : 2 ^ 52 ≤ m ∧ m < 2 ^ 53 := by
  obtain ⟨_, hlog⟩ := h
  exact log2_eq_52_iff.1 hlog

theorem unpackSign_packComponents {spec : Format} {sign exponent mantissa} :
    unpackSign (packComponents spec sign exponent mantissa) = sign.toBitVec := by
  ext i hi
  obtain rfl : i = 0 := by omega
  show (BitVec.extractLsb _ _ (_ ++ _ ++ _)).getLsbD 0 = _
  simp [BitVec.getLsbD_append, BitVec.getElem_append]

/-- The bit that is left out when a mantissa of 53 bits is packed is put back when it is
    unpacked. -/
theorem toNat_one_append (hlow : 2 ^ 52 ≤ m) (hhigh : m < 2 ^ 53) :
    (1#1 ++ BitVec.ofNat 52 m).toNat = m := by
  have hone : (1#1 : BitVec 1).toNat = 1 := rfl
  have hrest : (BitVec.ofNat 52 m).toNat = m - 2 ^ 52 := by
    rw [BitVec.toNat_ofNat]
    omega
  rw [BitVec.toNat_append, ← Nat.shiftLeft_add_eq_or_of_lt (BitVec.isLt _), Nat.shiftLeft_eq, hone,
    hrest]
  omega

/-- Exponents between the least and the greatest are not those of zeros and infinities. -/
theorem ofNat_biased {k : Nat} (hpos : 0 < k) (hlt : k < 2047) :
    (BitVec.ofNat 11 k).toNat = k ∧ BitVec.ofNat 11 k ≠ 0#11 ∧ BitVec.ofNat 11 k ≠ -1#11 := by
  have hk : (BitVec.ofNat 11 k).toNat = k := by
    rw [BitVec.toNat_ofNat]
    omega
  refine ⟨hk, ?_, ?_⟩
  · intro hzero
    have h := congrArg BitVec.toNat hzero
    rw [hk, BitVec.toNat_zero] at h
    omega
  · intro hall
    have h := congrArg BitVec.toNat hall
    have hones : (-1#11 : BitVec 11).toNat = 2047 := rfl
    omega

theorem finite_congr {sign sign' : Sign} {hpos : 0 < m} {hpos' : 0 < m'} (hsign : sign = sign')
    (hm : m = m') (he : e = e') :
    UnpackedFloat.finite sign m e hpos = .finite sign' m' e' hpos' := by
  subst hsign hm he
  rfl

/-- **Normal numbers survive packing.** -/
theorem Normal.unpack_pack (h : Normal m e u) (hlow : -1074 ≤ e) (hhigh : e ≤ 971) :
    Normal m e (unpack Format.binary64 (pack Format.binary64 u)) := by
  obtain ⟨hmlow, hmhigh⟩ := h.bounds
  obtain ⟨hpos, hlog⟩ := h
  have hbias : (Format.binary64.exponentBias : Int) +
      Format.binary64.mantissaBitsWithoutImplicit = 1075 := rfl
  obtain ⟨hbiased, hnotZero, hnotAll⟩ := @ofNat_biased (e + 1075).toNat (by omega) (by omega)
  -- the exponent is in range, and the leading bit of the mantissa is not written
  have hpacked : pack Format.binary64 (.finite .positive m e hpos) =
      packComponents Format.binary64 .positive (BitVec.ofNat 11 (e + 1075).toNat)
        (BitVec.ofNat 52 m) := by
    unfold pack
    dsimp only
    rw [Int.add_assoc, hbias, if_neg (by show ¬ 2 ^ 11 ≤ _; omega), if_pos (by rw [hlog]; rfl)]
  have hunpacked : unpack Format.binary64 (pack Format.binary64 (.finite .positive m e hpos)) =
      .finite .positive m e hpos := by
    rw [hpacked]
    unfold unpack
    dsimp only
    rw [if_neg (by rw [unpackExponent_packComponents]; exact hnotAll),
      if_neg (by rw [unpackExponent_packComponents]; exact hnotZero)]
    refine finite_congr ?_ ?_ ?_
    · rw [unpackSign_packComponents]
      rfl
    · rw [unpackMantissa_packComponents]
      exact toNat_one_append hmlow hmhigh
    · rw [unpackExponent_packComponents, hbiased, hbias]
      omega
  rw [hunpacked]
  exact ⟨hpos, hlog⟩

/-- Of two mantissas with 53 bits, the one with the greater exponent stands for more. -/
theorem scaled_lt_of_exponent_lt (hm : m < 2 ^ 53) (hm' : 2 ^ 52 ≤ m') (h : e < e') :
    (m : ℚ) * 2 ^ e < m' * 2 ^ e' := by
  have hpos : (0 : ℚ) < 2 ^ e := by positivity
  have hm : (m : ℚ) < 2 ^ 53 := by exact_mod_cast hm
  have hm' : (2 : ℚ) ^ 52 ≤ m' := by exact_mod_cast hm'
  calc (m : ℚ) * 2 ^ e < 2 ^ 53 * 2 ^ e := mul_lt_mul_of_pos_right hm hpos
    _ = 2 ^ 52 * 2 ^ (e + 1) := by rw [zpow_add_one₀ two_ne_zero]; ring
    _ ≤ 2 ^ 52 * 2 ^ e' :=
      mul_le_mul_of_nonneg_left (zpow_le_zpow_right₀ one_le_two h) (by positivity)
    _ ≤ m' * 2 ^ e' := mul_le_mul_of_nonneg_right hm' (by positivity)

/-- **Normal numbers compare as the rational numbers that they stand for.** -/
theorem Normal.compare_eq (h : Normal m e u) (h' : Normal m' e' u') :
    u.compare u' = some (compare ((m : ℚ) * 2 ^ e) ((m' : ℚ) * 2 ^ e')) := by
  obtain ⟨hlow, hhigh⟩ := h.bounds
  obtain ⟨hlow', hhigh'⟩ := h'.bounds
  obtain ⟨hpos, -⟩ := h
  obtain ⟨hpos', -⟩ := h'
  refine congrArg some (?_ : (compare e e').then (compare m m') = _)
  rcases lt_trichotomy e e' with hlt | rfl | hgt
  · -- the lower exponent makes the lesser number, whatever the mantissas
    have hvalue := scaled_lt_of_exponent_lt hhigh hlow' hlt
    rw [compare_lt_iff_lt.2 hlt, compare_lt_iff_lt.2 hvalue]
    rfl
  · -- with one exponent, the mantissas decide
    have hpow : (0 : ℚ) < 2 ^ e := by positivity
    have hmono : StrictMono fun k : Nat => (k : ℚ) * 2 ^ e :=
      fun a b hab => mul_lt_mul_of_pos_right (Nat.cast_lt.2 hab) hpow
    rw [compare_eq_iff_eq.2 rfl, ← cmp_eq_compare, ← cmp_eq_compare]
    exact (hmono.cmp_map_eq m m').symm
  · have hvalue := scaled_lt_of_exponent_lt hhigh' hlow hgt
    rw [compare_gt_iff_gt.2 hgt, compare_gt_iff_gt.2 hvalue]
    rfl

/-- **What represents a rational number**: zero, or a normal number. -/
inductive Represents : ℚ → UnpackedFloat → Prop
  | zero (sign : Sign) : Represents 0 (.zero sign)
  | normal {m : Nat} {e : Int} {u} : Normal m e u → Represents (m * 2 ^ e) u

variable {q q' : ℚ}

/-- Numbers compare as what they represent. -/
theorem Represents.compare_eq (h : Represents q u) (h' : Represents q' u') :
    u.compare u' = some (compare q q') := by
  have hpos : ∀ {m e u}, Normal m e u → (0 : ℚ) < m * 2 ^ e := by
    intro m e u hnormal
    obtain ⟨hpos, -⟩ := hnormal
    positivity
  cases h with
  | zero =>
    -- zero is below every normal number, both here and as a rational number
    cases h' with
    | zero => exact congrArg some (compare_eq_iff_eq.2 rfl).symm
    | normal hnormal =>
      have hlt := compare_lt_iff_lt.2 (hpos hnormal)
      obtain ⟨-, -⟩ := hnormal
      exact congrArg some hlt.symm
  | normal hnormal =>
    cases h' with
    | zero =>
      have hgt := compare_gt_iff_gt.2 (hpos hnormal)
      obtain ⟨-, -⟩ := hnormal
      exact congrArg some hgt.symm
    | normal hnormal' => exact hnormal.compare_eq hnormal'

variable {x y : Float}

theorem Represents.value?_eq (h : Represents q x.toModel.unpack) : value? x = some q := by
  obtain ⟨u, hu⟩ : ∃ u, x.toModel.unpack = u := ⟨_, rfl⟩
  rw [value?, hu]
  rw [hu] at h
  cases h with
  | zero => rfl
  | normal hnormal =>
    obtain ⟨-, -⟩ := hnormal
    rfl

/-- **Floating-point numbers are ordered as what they represent.** -/
theorem Represents.lt_iff (h : Represents q x.toModel.unpack)
    (h' : Represents q' y.toModel.unpack) :
    x < y ↔ q < q' := by
  have hunpack : x < y ↔ x.toModel.unpack.lt y.toModel.unpack = true := by
    show decide (x.toModel < y.toModel) = true ↔ _
    rw [decide_eq_true_iff]
    exact Iff.rfl
  rw [hunpack, UnpackedFloat.lt, h.compare_eq h', beq_iff_eq, Option.some.injEq, compare_lt_iff_lt]

/-- The order of the program is the order of the rational numbers. -/
theorem Represents.le_iff (h : Represents q x.toModel.unpack)
    (h' : Represents q' y.toModel.unpack) :
    x ≤ y ↔ q ≤ q' := by
  have hunpack : x ≤ y ↔ x.toModel.unpack.le y.toModel.unpack = true := by
    show decide (x.toModel ≤ y.toModel) = true ↔ _
    rw [decide_eq_true_iff]
    exact Iff.rfl
  rw [hunpack, UnpackedFloat.le, h.compare_eq h']
  exact Ordering.isLE_iff_ne_gt.trans compare_le_iff_le

/-! ## Rounding -/

/-- What a shift leaves: the quotient, its next bit, and whether any bit after that is set. -/
theorem exact_shiftRight (n k : Nat) :
    ExtendedMantissa.ofMantissaAndAccuracy n .exact >>> (k + 1) =
      ⟨n / 2 ^ (k + 1), n / 2 ^ k % 2 != 0, n % 2 ^ k != 0⟩ := by
  show (k + 1).repeat ExtendedMantissa.shiftRightOne _ = _
  induction k with
  | zero =>
    simp [Nat.repeat, ExtendedMantissa.ofMantissaAndAccuracy, ExtendedMantissa.shiftRightOne,
      Nat.mod_one]
  | succ k ih =>
    rw [Nat.repeat, ih, ExtendedMantissa.shiftRightOne]
    have hhalf : n / 2 ^ (k + 1) / 2 = n / 2 ^ (k + 1 + 1) := by
      rw [Nat.div_div_eq_div_mul, ← Nat.pow_succ]
    have hrest : n % 2 ^ (k + 1) = n % 2 ^ k + 2 ^ k * (n / 2 ^ k % 2) := Nat.mod_pow_succ
    -- the bit that is shifted out joins those that were shifted out before
    have hsticky : (n / 2 ^ k % 2 != 0 || n % 2 ^ k != 0) = (n % 2 ^ (k + 1) != 0) := by
      rw [hrest]
      rcases Nat.mod_two_eq_zero_or_one (n / 2 ^ k) with hbit | hbit
      · simp [hbit]
      · simp [hbit]
    simp only [hhalf, hsticky]

/-- Half a unit and more is rounded up, but exactly half a unit only if that makes the count
    even. -/
theorem roundedMantissa_eq (q : Nat) (round sticky : Bool) :
    (ExtendedMantissa.mk q round sticky).roundedMantissa =
      if round = true ∧ (sticky = true ∨ q % 2 = 1) then q + 1 else q := by
  cases round <;> cases sticky <;>
    simp only [ExtendedMantissa.roundedMantissa, ExtendedMantissa.accuracy,
      Accuracy.roundToNearestEven] <;>
    grind

/-- **The round bit and the sticky bit decide which count of units is nearest.** -/
theorem roundedMantissa_shiftRight (n k : Nat) :
    (ExtendedMantissa.ofMantissaAndAccuracy n .exact >>> k).roundedMantissa =
      nearest (2 ^ k) n := by
  cases k with
  | zero => exact (nearest_one n).symm
  | succ k =>
    have hunit : 2 ^ (k + 1) = 2 * 2 ^ k := by rw [Nat.pow_succ, Nat.mul_comm]
    have hrest : n % 2 ^ (k + 1) = n % 2 ^ k + 2 ^ k * (n / 2 ^ k % 2) := Nat.mod_pow_succ
    have hlow : n % 2 ^ k < 2 ^ k := Nat.mod_lt _ (Nat.two_pow_pos k)
    rw [exact_shiftRight, roundedMantissa_eq, nearest, hrest, hunit]
    simp only [bne_iff_ne, ne_eq]
    rcases Nat.mod_two_eq_zero_or_one (n / 2 ^ k) with hbit | hbit
    · -- the rest is less than half a unit
      rw [hbit, if_neg (by omega), if_pos (by omega)]
    · rw [hbit]
      split <;> split <;> omega

/-- Shifting to the right is division by a power of two; what is shifted out goes to the round and
    sticky bits. -/
theorem mantissa_shiftRight (n k : Nat) :
    (ExtendedMantissa.ofMantissaAndAccuracy n .exact >>> k).mantissa = n / 2 ^ k := by
  cases k with
  | zero => exact (Nat.div_one n).symm
  | succ k => rw [exact_shiftRight]

/-- A mantissa that is too long is shifted to 53 bits. -/
theorem shiftToTargetExponent_eq {n : Nat} (hn : 52 ≤ n.log2)
    (he : -1074 ≤ e + (n.log2 - 52 : Nat)) :
    shiftToTargetExponent Format.binary64 n e .exact =
      (ExtendedMantissa.ofMantissaAndAccuracy n .exact >>> (n.log2 - 52),
        e + (n.log2 - 52 : Nat)) := by
  have htarget : ∀ t : Int, Format.binary64.targetExponent t = max (t - 53) (-1074) := fun _ => rfl
  have hshift : (max ((n.log2 : Int) + 1 + e - 53) (-1074) - e).toNat = n.log2 - 52 := by omega
  simp only [shiftToTargetExponent, shiftToExponent, htarget, Float.Model.totalExponent, hshift]

/-- Rounding shifts a second time, which takes off the bit that rounding may have filled. -/
theorem normal_roundWithAccuracy {n q : Nat} {em em' : ExtendedMantissa} {e e' e'' : Int}
    (hfirst : shiftToTargetExponent Format.binary64 n e .exact = (em, e'))
    (hrounded : em.roundedMantissa = q)
    (hsecond : shiftToTargetExponent Format.binary64 q e' .exact = (em', e''))
    (hlog : em'.mantissa.log2 = 52) :
    Normal em'.mantissa e'' (roundWithAccuracy Format.binary64 .positive n e .exact) := by
  have hmantissa : em'.mantissa ≠ 0 := by
    intro hzero
    rw [hzero] at hlog
    cases hlog
  have hround : roundWithAccuracy Format.binary64 .positive n e .exact =
      .finite .positive em'.mantissa e'' (Nat.pos_of_ne_zero hmantissa) := by
    unfold roundWithAccuracy
    rw [hfirst]
    dsimp only
    rw [hrounded, hsecond]
    exact dif_neg hmantissa
  rw [hround]
  exact ⟨_, hlog⟩

/-- **Rounding a mantissa that is long enough** gives the normal number that stands for what is
    nearest. -/
theorem exists_normal_roundWithAccuracy {n : Nat} (hn : 52 ≤ n.log2)
    (he : -1074 ≤ e + (n.log2 - 52 : Nat)) :
    ∃ m e', Normal m e' (roundWithAccuracy Format.binary64 .positive n e .exact) ∧
      (m : ℚ) * 2 ^ e' = rounded n * 2 ^ e ∧
      e + (n.log2 - 52 : Nat) ≤ e' ∧ e' ≤ e + (n.log2 - 52 : Nat) + 1 := by
  obtain ⟨hlow, hhigh⟩ := nearest_twoPow_bounds hn
  obtain ⟨q, hq⟩ : ∃ q, nearest (2 ^ (n.log2 - 52)) n = q := ⟨_, rfl⟩
  rw [hq] at hlow hhigh
  -- rounding may have filled one more bit, which the second shift takes off
  have hlog : q.log2 = 52 ∨ q = 2 ^ 53 := by
    rcases Nat.lt_or_eq_of_le hhigh with hlt | heq
    · exact .inl (log2_eq_52_iff.2 ⟨hlow, hlt⟩)
    · exact .inr heq
  have hvalue : (rounded n : ℚ) * 2 ^ e = q * 2 ^ (e + (n.log2 - 52 : Nat)) := by
    rw [rounded, hq, zpow_add₀ two_ne_zero, zpow_natCast]
    push_cast
    ring
  have hqlog : 52 ≤ q.log2 := by
    rcases hlog with hlog | rfl
    · omega
    · decide
  have hfirst := shiftToTargetExponent_eq hn he
  have hrounded := (roundedMantissa_shiftRight n (n.log2 - 52)).trans hq
  have hsecond := shiftToTargetExponent_eq (n := q) (e := e + (n.log2 - 52 : Nat)) hqlog (by omega)
  rw [hvalue]
  rcases hlog with hlog | rfl
  · have hsame :
        (ExtendedMantissa.ofMantissaAndAccuracy q .exact >>> (q.log2 - 52)).mantissa = q := by
      rw [mantissa_shiftRight, hlog, Nat.sub_self, Nat.pow_zero, Nat.div_one]
    refine ⟨_, _, normal_roundWithAccuracy hfirst hrounded hsecond (by rw [hsame, hlog]),
      ?_, by omega, by omega⟩
    rw [hsame, hlog, Nat.sub_self, Nat.cast_zero, add_zero]
  · have hlog : (2 ^ 53).log2 - 52 = 1 := by decide
    have hhalf :
        (ExtendedMantissa.ofMantissaAndAccuracy (2 ^ 53) .exact >>> ((2 ^ 53).log2 - 52)).mantissa =
        2 ^ 52 := by
      rw [mantissa_shiftRight, hlog]
      decide
    refine ⟨_, _, normal_roundWithAccuracy hfirst hrounded hsecond (by rw [hhalf]; decide),
      ?_, by omega, by omega⟩
    rw [hhalf, hlog, Nat.cast_one, zpow_add_one₀ two_ne_zero]
    push_cast
    ring

/-- A short mantissa is moved up to 53 bits. -/
theorem log2_shiftLeft_eq {n : Nat} (hn : 0 < n) (h : n.log2 ≤ 52) :
    (n <<< (52 - n.log2)).log2 = 52 := by
  have hlow : 2 ^ n.log2 ≤ n := Nat.log2_self_le hn.ne'
  have hhigh : n < 2 ^ (n.log2 + 1) := Nat.lt_log2_self
  have hpos : 0 < 2 ^ (52 - n.log2) := Nat.two_pow_pos _
  rw [Nat.shiftLeft_eq, log2_eq_52_iff]
  constructor
  · calc 2 ^ 52 = 2 ^ n.log2 * 2 ^ (52 - n.log2) := by rw [← Nat.pow_add, Nat.add_sub_cancel' h]
      _ ≤ n * 2 ^ (52 - n.log2) := Nat.mul_le_mul_right _ hlow
  · calc n * 2 ^ (52 - n.log2) < 2 ^ (n.log2 + 1) * 2 ^ (52 - n.log2) :=
      Nat.mul_lt_mul_of_pos_right hhigh hpos
      _ = 2 ^ 53 := by rw [← Nat.pow_add]; congr 1; omega

/-- **Natural numbers are rounded to 53 bits.** -/
theorem exists_normal_round {n : Nat} (hn : 0 < n) :
    ∃ m e, Normal m e (UnpackedFloat.round Format.binary64 .positive n 0) ∧
      (m : ℚ) * 2 ^ e = rounded n ∧
      (n.log2 : Int) - 52 ≤ e ∧ e ≤ n.log2 - 51 := by
  have htarget : ∀ t : Int, Format.binary64.targetExponent t = max (t - 53) (-1074) := fun _ => rfl
  have hshift : (0 - max ((n.log2 : Int) + 1 + 0 - 53) (-1074)).toNat = 52 - n.log2 := by omega
  unfold UnpackedFloat.round decreaseExponent
  simp only [htarget, Float.Model.totalExponent, hshift]
  rcases Nat.lt_or_ge 52 n.log2 with hlong | hshort
  · -- too long for 53 bits: rounded as it is
    have hnone : 52 - n.log2 = 0 := by omega
    rw [hnone, Nat.shiftLeft_zero]
    obtain ⟨m, e, hnormal, hvalue, hlow, hhigh⟩ :=
      exists_normal_roundWithAccuracy (n := n) (e := 0 - (0 : Nat)) (by omega) (by omega)
    refine ⟨m, e, hnormal, ?_, by omega, by omega⟩
    rw [hvalue]
    simp
  · -- short enough: shifted up to 53 bits first, which rounds nothing
    have hlog := log2_shiftLeft_eq hn hshort
    obtain ⟨m, e, hnormal, hvalue, hlow, hhigh⟩ :=
      exists_normal_roundWithAccuracy (n := n <<< (52 - n.log2)) (e := 0 - (52 - n.log2 : Nat))
        (by omega) (by omega)
    refine ⟨m, e, hnormal, ?_, by omega, by omega⟩
    rw [hvalue, rounded_of_log2_le hlog.le, rounded_of_log2_le hshort, Nat.shiftLeft_eq, zero_sub,
      zpow_neg, zpow_natCast]
    push_cast
    field_simp

/-- **Numbers of 64 bits as floating-point** stand for what they are rounded to. -/
theorem exists_normal_toFloat {n : UInt64} (hn : 0 < n.toNat) :
    ∃ m e, Normal m e n.toFloat.toModel.unpack ∧ (m : ℚ) * 2 ^ e = rounded n.toNat ∧
      (n.toNat.log2 : Int) - 52 ≤ e ∧ e ≤ n.toNat.log2 - 51 := by
  obtain ⟨m, e, hnormal, hvalue, hlow, hhigh⟩ := exists_normal_round hn
  have hlog : n.toNat.log2 < 64 := (Nat.log2_lt hn.ne').2 n.toNat_lt
  have hround : UnpackedFloat.ofUInt64 Format.binary64 n =
      UnpackedFloat.round Format.binary64 .positive n.toNat 0 := by
    show UnpackedFloat.normalize Format.binary64 (n.toNat : Int) 0 .positive = _
    unfold UnpackedFloat.normalize
    rw [Int.compare_eq_gt.2 (by omega)]
    rfl
  rw [← hround] at hnormal
  exact ⟨m, e, hnormal.unpack_pack (by omega) (by omega), hvalue, hlow, hhigh⟩

/-! ## Division by a power of two -/

/-- Dividing by a power of two leaves no remainder. -/
theorem divCore_twoPow {f : Int} (hm : m.log2 = 52) (h : -1021 ≤ e - f) :
    divCore Format.binary64 m e (2 ^ 52) f = (m * 2, e - f - 53, .exact) := by
  have htarget : ∀ t : Int, Format.binary64.targetExponent t = max (t - 53) (-1074) := fun _ => rfl
  have hdivisor : (2 ^ 52).log2 = 52 := by decide
  have hexponent :
      min (e - f) (max ((52 : Nat) + 1 + e - ((52 : Nat) + 1 + f) - 53) (-1074)) = e - f - 53 := by
    omega
  have hshift : (e - f - (e - f - 53)).toNat = 53 := by omega
  have hmantissa : m <<< 53 = m * 2 * 2 ^ 52 := by rw [Nat.shiftLeft_eq]; ring
  simp only [divCore, htarget, Float.Model.totalExponent, hm, hdivisor, hexponent, hshift,
    hmantissa, Nat.mul_div_cancel _ (Nat.two_pow_pos 52), Nat.mul_mod_left]
  rfl

/-- **Dividing by a power of two rounds nothing.** -/
theorem Normal.exists_div_twoPow {f : Int} (h : Normal m e u) (h' : Normal (2 ^ 52) f u')
    (he : -1021 ≤ e - f) :
    ∃ n e', Normal n e' (UnpackedFloat.div Format.binary64 u u') ∧
      (n : ℚ) * 2 ^ e' = m * 2 ^ e / (2 ^ 52 * 2 ^ f) ∧ e - f - 52 ≤ e' ∧ e' ≤ e - f - 51 := by
  obtain ⟨hlow, hhigh⟩ := h.bounds
  obtain ⟨hpos, hlog⟩ := h
  obtain ⟨hpos', -⟩ := h'
  have hdouble : (m * 2).log2 = 53 := (Nat.log2_eq_iff (by omega)).2 ⟨by omega, by omega⟩
  -- the quotient has 54 bits, and the last of them is zero
  have hrounded : rounded (m * 2) = m * 2 := by
    rw [rounded, hdouble]
    exact congrArg (· * 2) (nearest_mul Nat.two_pos m)
  obtain ⟨n, e', hnormal, hvalue, hfrom, hto⟩ :=
    exists_normal_roundWithAccuracy (n := m * 2) (e := e - f - 53) (by omega) (by omega)
  have hdiv : UnpackedFloat.div Format.binary64 (.finite .positive m e hpos)
      (.finite .positive (2 ^ 52) f hpos') =
      roundWithAccuracy Format.binary64 .positive (m * 2) (e - f - 53) .exact := by
    show roundWithAccuracy Format.binary64 .positive (divCore Format.binary64 m e (2 ^ 52) f).1
      (divCore Format.binary64 m e (2 ^ 52) f).2.1 (divCore Format.binary64 m e (2 ^ 52) f).2.2 = _
    rw [divCore_twoPow hlog he]
  rw [hdiv]
  refine ⟨n, e', hnormal, ?_, by omega, by omega⟩
  rw [hvalue, hrounded, zpow_sub₀ two_ne_zero, zpow_sub₀ two_ne_zero]
  push_cast
  field_simp
  norm_num

end FeatureFlags.Rounding

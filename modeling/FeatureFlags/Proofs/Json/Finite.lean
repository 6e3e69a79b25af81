/-
  NUMBERS OF DATA — as floating-point they are finite, so values that are read from data are.

  1. **Small numbers** — a number is `Small bits top` if it is zero or has a mantissa of so many
     bits and an exponent up to `top`.  Rounding may lengthen the mantissa by a bit and raise the
     exponent, but by no more than twice the bits of the mantissa (`small_round`).  An exponent far
     below the greatest one survives packing (`small_unpack_pack`).
  2. **Integers** of 64 bits are small as floating-point, so the numbers of data are finite
     (`Proper.isFinite_toFloat`).
  3. **Readers** — `Gives read P`: what is read from data satisfies `P`.
-/
import FeatureFlags.Json.Record
import FeatureFlags.Proofs.Document
import Mathlib.Algebra.Ring.Int.Defs
import Mathlib.Algebra.Ring.Nat

namespace FeatureFlags

namespace Number

open Float.Model (Format UnpackedFloat)
open Float.Model.UnpackedFloat

/-- Zero, or a number with a mantissa of so many bits and an exponent up to `top`. -/
inductive Small (bits : Nat) (top : Int) : UnpackedFloat → Prop
  | zero (sign : Sign) : Small bits top (.zero sign)
  | finite {sign : Sign} {mantissa : Nat} {exponent : Int} (hpos : 0 < mantissa) :
    mantissa < 2 ^ bits → exponent ≤ top → Small bits top (.finite sign mantissa exponent hpos)

variable {bits : Nat} {top : Int} {u : UnpackedFloat}

/-- A small number is far from overflow. -/
theorem Small.isFinite (h : Small bits top u) : u.isFinite = true := by
  cases h <;> rfl

theorem Small.mono {top' : Int} (h : Small bits top u) (htop : top ≤ top') : Small bits top' u := by
  cases h with
  | zero sign => exact .zero sign
  | finite hpos hmantissa hexponent => exact .finite hpos hmantissa (Int.le_trans hexponent htop)

theorem Small.neg (h : Small bits top u) : Small bits top u.neg := by
  cases h with
  | zero sign => exact .zero _
  | finite hpos hmantissa hexponent => exact .finite hpos hmantissa hexponent

/-- A choice between two numbers. -/
theorem Small.dite {p : Prop} [Decidable p] {v : p → UnpackedFloat} {w : ¬ p → UnpackedFloat}
    (hv : ∀ h, Small bits top (v h)) (hw : ∀ h, Small bits top (w h)) :
    Small bits top (if h : p then v h else w h) := by
  by_cases h : p
  · rw [dif_pos h]
    exact hv h
  · rw [dif_neg h]
    exact hw h

/-! ## Rounding -/

theorem mantissa_shiftRight_le (em : ExtendedMantissa) (n : Nat) :
    (em >>> n).mantissa ≤ em.mantissa := by
  show (n.repeat ExtendedMantissa.shiftRightOne em).mantissa ≤ em.mantissa
  induction n with
  | zero => exact Nat.le_refl _
  | succ n ih => exact Nat.le_trans (Nat.div_le_self _ 2) ih

/-- Rounding adds at most one to the mantissa. -/
theorem roundedMantissa_le (em : ExtendedMantissa) : em.roundedMantissa ≤ em.mantissa + 1 := by
  obtain ⟨mantissa, roundBit, stickyBit⟩ := em
  cases roundBit <;> cases stickyBit <;>
    simp only [ExtendedMantissa.roundedMantissa, ExtendedMantissa.accuracy,
      Accuracy.roundToNearestEven] <;> omega

theorem log2_le_of_lt {n : Nat} (h : n < 2 ^ bits) : n.log2 ≤ bits := by
  by_cases hn : n = 0
  · subst hn
    exact Nat.zero_le bits
  · exact Nat.le_of_lt ((Nat.log2_lt hn).2 h)

/-- A shift drops bits of the mantissa and raises the exponent as far as the bits allow. -/
theorem shiftToTargetExponent_le {mantissa : Nat} {exponent : Int} (hmantissa : mantissa < 2 ^ bits)
    (hexponent : exponent ≤ top) (htop : 0 ≤ top) :
    (shiftToTargetExponent Format.binary64 mantissa exponent .exact).1.mantissa ≤ mantissa ∧
      (shiftToTargetExponent Format.binary64 mantissa exponent .exact).2 ≤ top + bits := by
  refine ⟨mantissa_shiftRight_le _ _, ?_⟩
  have hlog := log2_le_of_lt hmantissa
  have htarget : ∀ t : Int, Format.binary64.targetExponent t = max (t - 53) (-1074) := fun _ => rfl
  simp only [shiftToTargetExponent, shiftToExponent, htarget, Float.Model.totalExponent]
  omega

/-- Rounding costs one bit, and the bound on the exponent grows with the bits that it may shift
    out. -/
theorem small_round {sign : Sign} {mantissa : Nat} {exponent : Int}
    (hmantissa : mantissa < 2 ^ bits) (hexponent : exponent ≤ top) (htop : 0 ≤ top) :
    Small (bits + 1) (top + bits + (bits + 1))
      (roundWithAccuracy Format.binary64 sign mantissa exponent .exact) := by
  obtain ⟨hfirst, hraised⟩ := shiftToTargetExponent_le hmantissa hexponent htop
  have hrounded :=
    roundedMantissa_le (shiftToTargetExponent Format.binary64 mantissa exponent .exact).1
  have hlonger : 2 ^ (bits + 1) = 2 ^ bits + 2 ^ bits := by rw [Nat.pow_succ]; omega
  have hpos : 0 < 2 ^ bits := Nat.two_pow_pos bits
  have hbits : (shiftToTargetExponent Format.binary64 mantissa exponent .exact).1.roundedMantissa <
      2 ^ (bits + 1) := by omega
  obtain ⟨hsecond, hfinal⟩ := shiftToTargetExponent_le hbits hraised (by omega)
  unfold roundWithAccuracy
  refine .dite (fun _ => .zero sign) fun _ => ?_
  exact .finite _ (Nat.lt_of_le_of_lt hsecond hbits) (by exact_mod_cast hfinal)

/-! ## Packing -/

/-- A packed number whose exponent bits are not all set. -/
theorem small_unpack {packed : BitVec Format.binary64.numBits}
    (hexponent : (unpackExponent packed).toNat < 2047)
    (hle : ((unpackExponent packed).toNat : Int) ≤ top + 1075) (htop : 0 ≤ top) :
    Small 53 top (unpack Format.binary64 packed) := by
  have hnotAll : unpackExponent packed ≠ -1#11 := by
    intro hall
    rw [hall] at hexponent
    exact absurd hexponent (by decide)
  have hbias : (Format.binary64.exponentBias : Int) +
      Format.binary64.mantissaBitsWithoutImplicit = 1075 := rfl
  unfold unpack
  dsimp only
  rw [if_neg hnotAll]
  refine .dite (fun hzero => .dite (fun _ => .zero _) fun _ => ?_) fun _ => ?_
  · -- a number below the normal ones has no leading bit
    have hlt : (unpackMantissa packed).toNat < 2 ^ 52 := (unpackMantissa packed).isLt
    have hexponentZero : (unpackExponent packed).toNat = 0 := congrArg BitVec.toNat hzero
    exact .finite _ (by omega) (by rw [hbias]; omega)
  · exact .finite _ (1#1 ++ unpackMantissa packed).isLt (by rw [hbias]; omega)

/-- What is read from the bits of a finite number is small. -/
theorem small_unpack_packComponents {sign : Sign} {exponent : BitVec 11} {mantissa : BitVec 52}
    (hexponent : exponent.toNat < 2047) (hle : (exponent.toNat : Int) ≤ top + 1075)
    (htop : 0 ≤ top) :
    Small 53 top
      (unpack Format.binary64 (packComponents Format.binary64 sign exponent mantissa)) := by
  have hunpacked :
      unpackExponent (packComponents Format.binary64 sign exponent mantissa) = exponent :=
    unpackExponent_packComponents
  refine small_unpack ?_ ?_ htop
  · rw [hunpacked]
    exact hexponent
  · rw [hunpacked]
    exact hle

/-- Packing keeps what is small enough. -/
theorem small_unpack_pack (h : Small bits top u) (htop : 0 ≤ top) (hroom : top ≤ 970) :
    Small 53 top (unpack Format.binary64 (pack Format.binary64 u)) := by
  cases h with
  | zero sign => exact small_unpack_packComponents (by decide) (by simp; omega) htop
  | @finite sign mantissa exponent hpos _ hexponent =>
    have hbiased : (exponent + (Format.binary64.exponentBias : Int) +
        Format.binary64.mantissaBitsWithoutImplicit).toNat = (exponent + 1075).toNat := by
      rw [Int.add_assoc]
      rfl
    unfold pack
    dsimp only
    rw [hbiased, if_neg (by show ¬ 2 ^ 11 ≤ _; omega)]
    split
    · -- the exponent is small enough for its eleven bits
      have hexponentBits : (BitVec.ofNat 11 (exponent + 1075).toNat).toNat =
          (exponent + 1075).toNat := by
        rw [BitVec.toNat_ofNat]
        omega
      exact small_unpack_packComponents (by omega) (by omega) htop
    · exact small_unpack_packComponents (by decide) (by simp; omega) htop

/-! ## Integers -/

/-- A product has the bits of both factors, and one more for rounding. -/
theorem small_mul {bits' : Nat} {v : UnpackedFloat} (hu : Small bits top u) (hv : Small bits' 0 v)
    (htop : 0 ≤ top) :
    Small (bits + bits' + 1) (top + 0 + (bits + bits' : Nat) + ((bits + bits' : Nat) + 1))
      (mul Format.binary64 u v) := by
  cases hu with
  | zero sign => cases hv <;> exact .zero _
  | finite hpos hmantissa hexponent =>
    cases hv with
    | zero sign' => exact .zero _
    | finite hpos' hmantissa' hexponent' =>
      have hproduct := Nat.mul_lt_mul'' hmantissa hmantissa'
      rw [← Nat.pow_add] at hproduct
      exact small_round hproduct (Int.add_le_add hexponent hexponent') (by omega)

/-- An integer as it is computed from its 64 bits. -/
theorem small_ofUInt64 (n : UInt64) : Small 117 233 (ofUInt64 Format.binary64 n) := by
  have hlt : n.toNat < 2 ^ 64 := n.toNat_lt
  have htarget : ∀ t : Int, Format.binary64.targetExponent t = max (t - 53) (-1074) := fun _ => rfl
  -- the mantissa is moved up by 52 bits at most
  have hround : Small 117 233 (UnpackedFloat.round Format.binary64 .positive n.toNat 0) := by
    unfold UnpackedFloat.round decreaseExponent
    simp only [htarget, Float.Model.totalExponent]
    have hshift : (0 - max ((n.toNat.log2 : Int) + 1 + 0 - 53) (-1074)).toNat ≤ 52 := by omega
    have hmoved : n.toNat <<< (0 - max ((n.toNat.log2 : Int) + 1 + 0 - 53) (-1074)).toNat <
        2 ^ (64 + 52) := by
      rw [Nat.shiftLeft_eq, Nat.pow_add]
      exact Nat.mul_lt_mul_of_lt_of_le hlt (Nat.pow_le_pow_right (by decide) hshift) (by decide)
    exact small_round hmoved (by omega) (Int.le_refl 0)
  show Small 117 233 (UnpackedFloat.normalize Format.binary64 (n.toNat : Int) 0 .positive)
  unfold UnpackedFloat.normalize
  split
  · next hcompare =>
    rw [Int.compare_eq_lt] at hcompare
    omega
  · exact .zero _
  · exact hround

/-- A number of 64 bits is rounded to one with a mantissa of 53 bits. -/
theorem small_ofNat {n : Nat} (h : n < 2 ^ 64) : Small 53 970 (Float.ofNat n).toModel.unpack := by
  show Small 53 970 (Float.ofScientific n false 0).toModel.unpack
  unfold Float.ofScientific
  split
  · -- a short number is multiplied with one
    have hone : Small 53 0 (.finite .positive (2 ^ 52) (-52) (by decide)) :=
      .finite _ (by decide) (by decide)
    have hpower : Small 53 0 (Float.ofBits 0x3FF0000000000000).toModel.unpack := hone
    have hn := small_unpack_pack (small_ofUInt64 n.toUInt64) (by decide) (by decide)
    have hproduct := small_mul hn hpower (by decide)
    exact (small_unpack_pack hproduct (by decide) (by decide)).mono (by decide)
  · next hlong =>
    -- a long one is multiplied with one after its mantissa was moved up by 53 bits
    have hn : n ≠ 0 := by
      rintro rfl
      exact hlong (by decide)
    have hmoved : n <<< 53 < 2 ^ 117 := by
      rw [Nat.shiftLeft_eq]
      omega
    have hpos : 0 < n <<< 53 := by
      rw [Nat.shiftLeft_eq]
      omega
    have hscientific : ofScientific Format.binary64 n 0 =
        mul Format.binary64 (.finite .positive (n <<< 53) (-53) hpos)
          (.finite .positive (10 ^ Int.toNat 0) 0 (by decide)) := by
      have hpower : (2 : Int) ^ Format.binary64.exponentBits = 2048 := rfl
      have hlarge : ¬ (0 : Int) < -(2 ^ Format.binary64.exponentBits + (n.log2 : Int)) := by omega
      unfold ofScientific
      rw [dif_neg hn, if_neg (by decide), if_neg hlarge, if_pos (by decide)]
      rfl
    show Small 53 970
        (unpack Format.binary64 (pack Format.binary64 (ofScientific Format.binary64 n 0)))
    rw [hscientific]
    have hfactor : Small 117 0 (.finite .positive (n <<< 53) (-53) hpos) :=
      .finite hpos hmoved (by decide)
    have hten : Small 1 0 (.finite .positive (10 ^ Int.toNat 0) 0 (by decide)) :=
      .finite _ (by decide) (Int.le_refl 0)
    have hproduct := small_mul hfactor hten (by decide)
    exact (small_unpack_pack hproduct (by decide) (by decide)).mono (by decide)

/-! ## Numbers of data -/

/-- **A number as data hold it**: an integer of 64 bits, with a sign or without, or a finite
    floating-point number. -/
def Proper : Number → Prop
  | .int i => -2 ^ 63 ≤ i ∧ i < 2 ^ 64
  | .float x => x.isFinite = true

/-- **Numbers of data are finite as floating-point.** -/
theorem Proper.isFinite_toFloat {n : Number} (h : n.Proper) : n.toFloat.isFinite = true := by
  cases n with
  | float x => exact h
  | int i =>
    obtain ⟨hlow, hhigh⟩ := h
    cases i with
    | ofNat n => exact (small_ofNat (Int.ofNat_lt.1 hhigh)).isFinite
    | negSucc n =>
      have hsmall := (@small_ofNat (n + 1) (by omega)).neg
      exact (small_unpack_pack hsmall (by decide) (by decide)).isFinite

end Number

/-! ## Readers -/

namespace Json

open Entries (get?)

/-- Data whose numbers are as data hold them, at any depth. -/
def Proper (j : Json) : Prop := ∀ n ∈ j.numbers, n.Proper

/-- Read as values, data have finite numbers. -/
theorem Proper.finite_toAttribute {j : Json} (h : j.Proper) : j.toAttribute.Finite := by
  intro x hx
  rw [toAttribute, Document.numbers_bind] at hx
  obtain ⟨n, hn, rfl⟩ := List.mem_map.1 hx
  exact (h n hn).isFinite_toFloat

theorem Proper.item {items : List Json} (h : Proper (.list items)) {j : Json} (hj : j ∈ items) :
    j.Proper := by
  intro n hn
  refine h n ?_
  show n ∈ Document.numbersOfItems items
  rw [Document.numbersOfItems_eq_flatMap]
  exact List.mem_flatMap.2 ⟨j, hj, hn⟩

theorem Proper.field {fields : Entries Json} (h : Proper (.object fields)) {name : String}
    {value : Json} (hget : get? name fields = some value) : value.Proper := by
  intro n hn
  refine h n ?_
  show n ∈ Document.numbersOfFields fields
  rw [Document.numbersOfFields_eq_flatMap]
  exact List.mem_flatMap.2 ⟨_, Entries.mem_of_get? hget, hn⟩

/-- Members are as proper as their record, be it an object or a list. -/
theorem Proper.member {j : Json} (h : j.Proper) {names : List String} {fields : Entries Json}
    (hfields : record? names j = some fields) {name : String} {value : Json}
    (hget : get? name fields = some value) : value.Proper := by
  cases j with
  | object members =>
    obtain rfl : members = fields := Option.some.inj hfields
    exact h.field hget
  | list items =>
    rw [record?, Option.ite_none_right_eq_some] at hfields
    obtain ⟨-, hzip⟩ := hfields
    obtain rfl : names.zip items = fields := Option.some.inj hzip
    exact h.item (List.of_mem_zip (Entries.mem_of_get? hget)).2
  | _ => cases hfields

variable {α : Type} {read : Json → Option α} {P : α → Prop}

/-- What the reader gives for proper data satisfies `P`. -/
def Gives (read : Json → Option α) (P : α → Prop) : Prop := ∀ j a, j.Proper → read j = some a → P a

/-- Each item of a list that is read was read. -/
theorem exists_of_mem_mapM {items : List Json} {l : List α} (h : items.mapM read = some l) {a : α}
    (ha : a ∈ l) : ∃ j ∈ items, read j = some a := by
  induction items generalizing l with
  | nil =>
    cases h
    cases ha
  | cons j rest ih =>
    rw [List.mapM_cons] at h
    obtain ⟨first, hfirst, h⟩ := Option.bind_eq_some_iff.1 h
    obtain ⟨others, hothers, h⟩ := Option.bind_eq_some_iff.1 h
    cases h
    rcases List.mem_cons.1 ha with rfl | ha
    · exact ⟨j, List.mem_cons_self .., hfirst⟩
    · obtain ⟨j', hj', hread⟩ := ih hothers ha
      exact ⟨j', List.mem_cons_of_mem _ hj', hread⟩

theorem Gives.listOf (h : Gives read P) : Gives (listOf? read) fun l => ∀ a ∈ l, P a := by
  intro j l hj hl
  obtain ⟨items, hitems, hread⟩ := Option.bind_eq_some_iff.1 hl
  cases j with
  | list others =>
    obtain rfl : others = items := Option.some.inj hitems
    intro a ha
    obtain ⟨item, hitem, hgives⟩ := exists_of_mem_mapM hread ha
    exact h item a (hj.item hitem) hgives
  | _ => cases hitems

/-- A member, or the default in its place. -/
theorem Gives.orDefault {fields : Entries Json} {name : String} {default a : α} (h : Gives read P)
    (hfields : ∀ value, get? name fields = some value → value.Proper) (hdefault : P default)
    (hread : Json.orDefault fields name default read = some a) : P a := by
  rw [Json.orDefault] at hread
  cases hget : get? name fields with
  | none =>
    rw [hget] at hread
    cases hread
    exact hdefault
  | some value =>
    rw [hget] at hread
    exact h value a (hfields value hget) hread

/-- A member that is a list, of which none is an empty one. -/
theorem Gives.listMember {fields : Entries Json} {name : String} {l : List α} (h : Gives read P)
    (hfields : ∀ value, get? name fields = some value → value.Proper)
    (hread : Json.orDefault fields name [] (Json.listOf? read) = some l) : ∀ a ∈ l, P a :=
  h.listOf.orDefault hfields (fun _ ha => absurd ha List.not_mem_nil) hread

end Json

end FeatureFlags

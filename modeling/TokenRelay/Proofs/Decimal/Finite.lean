import Mathlib
import TokenRelay.Decimal.Real

/-!
# Integers of 64 bits as doubles

An integer of 64 bits is no infinity when it is taken as a double.  Rounding adds at most
one to a mantissa and so raises the exponent by little more than the mantissa has bits; the
bounds are coarse, but far below the largest exponent there is.
-/

namespace TokenRelay.Real

open Float.Model.UnpackedFloat

/-- Zero, or a finite number whose mantissa has so many bits and whose exponent is bounded. -/
inductive Modest (bits : Nat) (bound : Int) : Float.Model.UnpackedFloat → Prop where
  | zero (sign : Sign) : Modest bits bound (.zero sign)
  | finite {sign : Sign} {mantissa : Nat} {exponent : Int} {positive : 0 < mantissa}
      (narrow : mantissa < 2 ^ bits) (below : exponent ≤ bound) :
      Modest bits bound (.finite sign mantissa exponent positive)

theorem Modest.mono {bits more : Nat} {bound larger : Int}
    {value : Float.Model.UnpackedFloat} (modest : Modest bits bound value)
    (wider : bits ≤ more) (higher : bound ≤ larger) : Modest more larger value := by
  cases modest with
  | zero sign => exact .zero sign
  | finite narrow below =>
      exact .finite (narrow.trans_le (Nat.pow_le_pow_right (by omega) wider))
        (below.trans higher)

theorem Modest.neg {bits : Nat} {bound : Int} {value : Float.Model.UnpackedFloat}
    (modest : Modest bits bound value) : Modest bits bound value.neg := by
  cases modest with
  | zero sign => exact .zero _
  | finite narrow below => exact .finite narrow below

/-! ## Rounding -/

theorem mantissa_shiftRight (found : ExtendedMantissa) (count : Nat) :
    (found >>> count).mantissa ≤ found.mantissa := by
  induction count with
  | zero => exact Nat.le_refl _
  | succ count induction => exact (Nat.div_le_self _ 2).trans induction

theorem roundedMantissa_le (found : ExtendedMantissa) :
    found.roundedMantissa ≤ found.mantissa + 1 := by
  obtain ⟨mantissa, round, sticky⟩ := found
  cases round <;> cases sticky <;>
    simp [ExtendedMantissa.roundedMantissa, ExtendedMantissa.accuracy,
      Accuracy.roundToNearestEven]
  omega

/-- What a shift makes of a number: no larger mantissa, and an exponent that is bounded. -/
theorem shiftToTargetExponent_le {mantissa bits : Nat} {exponent bound : Int}
    (accuracy : Accuracy) (narrow : mantissa < 2 ^ bits) (below : exponent ≤ bound)
    (low : -1074 ≤ bound) :
    (shiftToTargetExponent .binary64 mantissa exponent accuracy).1.mantissa ≤ mantissa ∧
      (shiftToTargetExponent .binary64 mantissa exponent accuracy).2 ≤ bound + bits := by
  have width : mantissa.log2 ≤ bits := by
    by_cases zero : mantissa = 0
    · simp [zero]
    · exact ((Nat.log2_lt zero).2 narrow).le
  have target : Float.Model.Format.binary64.targetExponent
      (Float.Model.totalExponent mantissa exponent) =
        max ((mantissa.log2 : Int) + 1 + exponent - 53) (-1074) := rfl
  simp only [shiftToTargetExponent, shiftToExponent, target]
  constructor
  · refine (mantissa_shiftRight _ _).trans_eq ?_
    cases accuracy with
    | exact => rfl
    | inexact order => cases order <;> rfl
  · omega

theorem modest_roundWithAccuracy {mantissa bits : Nat} {exponent bound : Int} (sign : Sign)
    (accuracy : Accuracy) (narrow : mantissa < 2 ^ bits) (below : exponent ≤ bound)
    (low : -1074 ≤ bound) :
    Modest (bits + 1) (bound + 2 * bits + 1)
      (roundWithAccuracy .binary64 sign mantissa exponent accuracy) := by
  have first := shiftToTargetExponent_le accuracy narrow below low
  unfold roundWithAccuracy
  generalize shiftToTargetExponent .binary64 mantissa exponent accuracy = shifted at first ⊢
  obtain ⟨found, after⟩ := shifted
  have rounded : found.roundedMantissa < 2 ^ (bits + 1) := by
    have grown := roundedMantissa_le found
    have room : 2 ^ (bits + 1) = 2 ^ bits + 2 ^ bits := by ring
    simp only at first
    omega
  have second := shiftToTargetExponent_le .exact rounded first.2 (by omega)
  simp only
  split
  · exact .zero sign
  · exact .finite (second.1.trans_lt rounded) (by push_cast at second; omega)

/-! ## Packing -/

theorem modest_unpack_packComponents {sign : Sign} {exponent : BitVec 11}
    {mantissa : BitVec 52} (notTop : exponent ≠ -1#11) :
    Modest 53 (max ((exponent.toNat : Int) - 1075) (-1074))
      (Float.Model.UnpackedFloat.unpack .binary64
        (packComponents .binary64 sign exponent mantissa)) := by
  have bias : (Float.Model.Format.binary64.exponentBias : Int) + 52 = 1075 := by decide
  have narrow := mantissa.isLt
  simp only [Float.Model.UnpackedFloat.unpack, unpackExponent_packComponents,
    unpackMantissa_packComponents, Nat.cast_ofNat, bias, if_neg notTop]
  split_ifs with least empty
  · exact .zero _
  · refine .finite (by omega) ?_
    have zero : exponent.toNat = 0 := by rw [least]; rfl
    omega
  · refine .finite (BitVec.isLt _) (le_max_left _ _)

/-- A number whose exponent is not too large is still there when it is taken out again. -/
theorem Modest.unpack_pack {bits : Nat} {bound : Int} {value : Float.Model.UnpackedFloat}
    (modest : Modest bits bound value) (low : -1074 ≤ bound) (high : bound ≤ 970) :
    Modest 53 bound (Float.Model.pack value).unpack := by
  have unfolded : (Float.Model.pack value).unpack = Float.Model.UnpackedFloat.unpack .binary64
      (Float.Model.UnpackedFloat.pack .binary64 value) := rfl
  rw [unfolded]
  cases modest with
  | zero sign =>
      rw [Float.Model.UnpackedFloat.pack, unpack_packedZero]
      exact .zero sign
  | @finite sign mantissa exponent positive narrow below =>
      have bias : (Float.Model.Format.binary64.exponentBias : Int) = 1023 := by decide
      have fits : ¬ 2048 ≤ (exponent + 1023 + 52).toNat + 1 := by omega
      have notTop : ∀ field : Nat, field + 1 < 2048 → BitVec.ofNat 11 field ≠ -1#11 := by
        intro field room same
        have value := congrArg BitVec.toNat same
        rw [BitVec.toNat_ofNat, Nat.mod_eq_of_lt (by omega)] at value
        have top : (-1#11 : BitVec 11).toNat = 2047 := by decide
        omega
      have field : (BitVec.ofNat 11 (exponent + 1023 + 52).toNat).toNat =
          (exponent + 1023 + 52).toNat := by
        rw [BitVec.toNat_ofNat, Nat.mod_eq_of_lt (by omega)]
      simp only [Float.Model.UnpackedFloat.pack, bias, Nat.cast_ofNat]
      rw [if_neg fits]
      split
      · refine (modest_unpack_packComponents (notTop _ (by omega))).mono (Nat.le_refl _) ?_
        omega
      · refine (modest_unpack_packComponents (by decide)).mono (Nat.le_refl _) ?_
        simpa using low

/-- The exponent of a modest number is not that of the infinities. -/
theorem isFinite_of_modest {bits : Nat} {bound : Int} {value : Float}
    (modest : Modest bits bound value.toModel.unpack) : isFinite value = true := by
  rw [isFinite, decide_eq_true_iff]
  intro top
  have field : @unpackExponent .binary64 value.toBits.toBitVec = -1#11 := by
    apply BitVec.eq_of_toNat_eq
    rw [unpackExponent_def, BitVec.extractLsb'_toNat, Nat.shiftRight_eq_div_pow]
    exact top
  have unpacked : value.toModel.unpack =
      Float.Model.UnpackedFloat.unpack .binary64 value.toBits.toBitVec := rfl
  rw [unpacked, Float.Model.UnpackedFloat.unpack] at modest
  simp only [field, if_true] at modest
  split at modest <;> cases modest

/-! ## Integers -/

theorem Modest.mul {bits more : Nat} {bound other : Int}
    {first second : Float.Model.UnpackedFloat} (one : Modest bits bound first)
    (two : Modest more other second) (low : -1074 ≤ bound + other) :
    Modest (bits + more + 1) (bound + other + 2 * (bits + more) + 1)
      (Float.Model.UnpackedFloat.mul .binary64 first second) := by
  cases one with
  | zero sign => cases two <;> exact .zero _
  | finite narrow below =>
      cases two with
      | zero sign => exact .zero _
      | finite narrowToo belowToo =>
          have product := Nat.mul_lt_mul_of_lt_of_lt narrow narrowToo
          rw [← Nat.pow_add] at product
          exact (modest_roundWithAccuracy _ .exact product
            (Int.add_le_add below belowToo) low).mono (Nat.le_refl _) (by push_cast; omega)

/-- A mantissa that is moved up to its full width has at most twice as many bits. -/
theorem modest_round {mantissa : Nat} (sign : Sign) (narrow : mantissa < 2 ^ 53) :
    Modest 107 213 (Float.Model.UnpackedFloat.round .binary64 sign mantissa 0) := by
  have target : Float.Model.Format.binary64.targetExponent
      (Float.Model.totalExponent mantissa 0) =
        max ((mantissa.log2 : Int) + 1 + 0 - 53) (-1074) := rfl
  rw [Float.Model.UnpackedFloat.round, target, decreaseExponent]
  have few : (0 - max ((mantissa.log2 : Int) + 1 + 0 - 53) (-1074)).toNat ≤ 53 := by omega
  generalize (0 - max ((mantissa.log2 : Int) + 1 + 0 - 53) (-1074)).toNat = count at few
  have shifted : mantissa <<< count < 2 ^ 106 := by
    rw [Nat.shiftLeft_eq]
    calc
      mantissa * 2 ^ count < 2 ^ 53 * 2 ^ count :=
        Nat.mul_lt_mul_of_pos_right narrow (by positivity)
      _ ≤ 2 ^ 53 * 2 ^ 53 := Nat.mul_le_mul_left _ (Nat.pow_le_pow_right (by omega) few)
      _ = 2 ^ 106 := by norm_num
  have exponent : 0 - (count : Int) ≤ 0 := by omega
  exact modest_roundWithAccuracy sign .exact shifted exponent (by omega)

theorem modest_toFloat {number : UInt64} (narrow : number.toNat < 2 ^ 53) :
    Modest 53 213 number.toFloat.toModel.unpack := by
  have unfolded : number.toFloat.toModel = Float.Model.pack
      (Float.Model.UnpackedFloat.normalize .binary64 (number.toNat : Int) 0 .positive) := rfl
  rw [unfolded]
  suffices modest : Modest 107 213
      (Float.Model.UnpackedFloat.normalize .binary64 (number.toNat : Int) 0 .positive) from
    modest.unpack_pack (by decide) (by decide)
  rw [Float.Model.UnpackedFloat.normalize]
  split
  · exact modest_round _ (by omega)
  · exact .zero _
  · exact modest_round _ (by omega)

/-- A small integer is the product of a double and one. -/
theorem modest_ofNat_of_lt {number : Nat} (narrow : number < 2 ^ 53) :
    Modest 53 970 (Float.ofNat number).toModel.unpack := by
  have scaled : Float.ofNat number =
      number.toUInt64.toFloat * Float.ofBits 4607182418800017408 := by
    change Float.ofScientific number false 0 = _
    rw [Float.ofScientific, dif_pos ⟨narrow, Nat.zero_le _⟩]
    rfl
  have product : (Float.ofNat number).toModel = Float.Model.pack
      (Float.Model.UnpackedFloat.mul .binary64 number.toUInt64.toFloat.toModel.unpack
        (Float.ofBits 4607182418800017408).toModel.unpack) := by
    rw [scaled]
    rfl
  have one : (Float.ofBits 4607182418800017408).toModel.unpack =
      .finite .positive (2 ^ 52) (-52) (by decide) := rfl
  have small : number.toUInt64.toNat < 2 ^ 53 := (Nat.mod_le _ _).trans_lt narrow
  have oneModest : Modest 53 (-52) (.finite .positive (2 ^ 52) (-52) (by decide)) :=
    .finite (by norm_num) (Int.le_refl _)
  rw [product, one]
  exact (((modest_toFloat small).mul oneModest (by norm_num)).mono (Nat.le_refl _)
    (by norm_num)).unpack_pack (by norm_num) (Int.le_refl _)

theorem modest_ofNat {number : Nat} (inBounds : number < 2 ^ 64) :
    Modest 53 970 (Float.ofNat number).toModel.unpack := by
  by_cases narrow : number < 2 ^ 53
  · exact modest_ofNat_of_lt narrow
  · have scaled : Float.ofNat number = ⟨Float.Model.ofScientific number 0⟩ := by
      change Float.ofScientific number false 0 = _
      rw [Float.ofScientific, dif_neg fun both => narrow both.1]
      rfl
    have there : number ≠ 0 := by omega
    have notSmall : ¬ (0 : Int) <
        -(2 ^ Float.Model.Format.binary64.exponentBits + (number.log2 : Int)) :=
      not_lt.2 (neg_nonpos.2 (by positivity))
    have positive : 0 < number <<< 53 := by
      rw [Nat.shiftLeft_eq]
      omega
    have wide : number <<< 53 < 2 ^ 117 := by
      rw [Nat.shiftLeft_eq]
      omega
    rw [scaled, Float.Model.ofScientific, Float.Model.UnpackedFloat.ofScientific,
      dif_neg there, if_neg (by norm_num), if_neg notSmall, if_pos (Int.le_refl _)]
    have shifted : Modest 117 (-53) (.finite .positive (number <<< 53) (-53) positive) :=
      .finite wide (Int.le_refl _)
    have one : Modest 1 0 (.finite .positive (10 ^ (0 : Int).toNat) 0 (by norm_num)) :=
      .finite (by norm_num) (Int.le_refl _)
    exact ((shifted.mul one (by norm_num)).mono (Nat.le_refl _)
      (by norm_num)).unpack_pack (by norm_num) (Int.le_refl _)

/-- An integer of 64 bits, with a sign or without, is finite as a double. -/
theorem isFinite_ofInt {number : Int} (low : -2 ^ 63 ≤ number) (high : number < 2 ^ 64) :
    isFinite (Float.ofInt number) = true := by
  cases number with
  | ofNat number => exact isFinite_of_modest (modest_ofNat (by simpa using high))
  | negSucc number =>
      have negated : (Float.ofInt (.negSucc number)).toModel =
          Float.Model.pack (Float.ofNat number.succ).toModel.unpack.neg := rfl
      have modest : Modest 53 970 (Float.ofInt (.negSucc number)).toModel.unpack := by
        rw [negated]
        exact (modest_ofNat (by omega)).neg.unpack_pack (by decide) (by decide)
      exact isFinite_of_modest modest

end TokenRelay.Real

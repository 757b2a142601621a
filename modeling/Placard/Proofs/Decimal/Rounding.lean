import Mathlib
import Placard.Json.Reader
import Placard.Proofs.Decimal.Numeral

/-! Floating-point products: how far rounding moves them, and when they stay finite. -/

namespace Placard.Decimal

open Float.Model Float.Model.UnpackedFloat

/-- The number that a binary magnitude stands for. -/
def Binary.value (binary : Binary) : ℚ := binary.significand * 2 ^ binary.exponent

/-- A positive floating-point number with all of its bits, at most a bound and at least `2 ^ -1`. -/
structure AtMost (value : Float) (bound : ℚ) (binary : Binary) : Prop where
  positive : 0 < binary.significand
  unpacks : value.toModel.unpack = .finite .positive binary.significand binary.exponent positive
  full : 2 ^ 52 ≤ binary.significand ∧ binary.significand < 2 ^ 53
  low : -53 ≤ binary.exponent
  bounded : binary.value ≤ bound

/-! ### Rounding -/

/-- Shifting a significand drops its last bits. -/
theorem shiftRight_mantissa (extended : ExtendedMantissa) (count : Nat) :
    (extended >>> count).mantissa = extended.mantissa / 2 ^ count := by
  induction count with
  | zero => exact (Nat.div_one _).symm
  | succ count ih =>
    have step : (extended >>> (count + 1)).mantissa = (extended >>> count).mantissa / 2 := rfl
    rw [step, ih, Nat.div_div_eq_div_mul, Nat.pow_succ]

/-- Rounding keeps a significand or takes the next one. -/
theorem roundedMantissa_bounds (extended : ExtendedMantissa) :
    extended.mantissa ≤ extended.roundedMantissa ∧ extended.roundedMantissa ≤ extended.mantissa + 1 := by
  obtain ⟨mantissa, round, sticky⟩ := extended
  cases round <;> cases sticky <;>
    simp only [ExtendedMantissa.roundedMantissa, ExtendedMantissa.accuracy, Accuracy.roundToNearestEven] <;> omega

/-- A significand of at least 53 bits gets an exponent at which 53 bits are left. -/
theorem shiftToTargetExponent_eq {mantissa : Nat} {exponent : Int} (long : 52 ≤ mantissa.log2)
    (above : -1074 ≤ exponent) :
    shiftToTargetExponent .binary64 mantissa exponent .exact =
      ((⟨mantissa, false, false⟩ : ExtendedMantissa) >>> (mantissa.log2 - 52),
        exponent + (mantissa.log2 - 52 : Nat)) := by
  have target : (Format.binary64.targetExponent (totalExponent mantissa exponent) - exponent).toNat =
      mantissa.log2 - 52 := by
    simp only [Format.targetExponent, totalExponent, Format.mantissaBits, Format.minExponent]
    omega
  rw [shiftToTargetExponent, shiftToExponent, target]
  rfl

/-- The first 53 bits of a number stand for all but less than one unit in the last place. -/
theorem shifted_bounds {mantissa : Nat} (long : 52 ≤ mantissa.log2) :
    2 ^ 52 ≤ mantissa / 2 ^ (mantissa.log2 - 52) ∧ mantissa / 2 ^ (mantissa.log2 - 52) < 2 ^ 53 := by
  have nonzero : mantissa ≠ 0 := by
    rintro rfl
    simp at long
  have low := Nat.log2_self_le nonzero
  have high := @Nat.lt_log2_self mantissa
  have parted : mantissa.log2 = 52 + (mantissa.log2 - 52) := by omega
  generalize mantissa.log2 - 52 = count at parted
  rw [parted] at low high
  constructor
  · rw [Nat.le_div_iff_mul_le (Nat.two_pow_pos count), ← Nat.pow_add]
    exact low
  · rw [Nat.div_lt_iff_lt_mul (Nat.two_pow_pos count), ← Nat.pow_add]
    rwa [Nat.add_right_comm] at high

/-- Rounding shifts twice, for the first rounding may add a bit. -/
theorem roundWithAccuracy_eq {mantissa : Nat} {exponent middle last : Int} {first second : ExtendedMantissa}
    (once : shiftToTargetExponent .binary64 mantissa exponent .exact = (first, middle))
    (twice : shiftToTargetExponent .binary64 first.roundedMantissa middle .exact = (second, last))
    (positive : 0 < second.mantissa) :
    roundWithAccuracy .binary64 .positive mantissa exponent .exact =
      .finite .positive second.mantissa last positive := by
  simp only [roundWithAccuracy, once, twice, dif_neg positive.ne']

/-- A number of at least 53 bits is rounded to 53 bits, and moves up by one unit in the last place at most. -/
theorem roundWithAccuracy_bounds {mantissa : Nat} {exponent : Int} (long : 52 ≤ mantissa.log2)
    (above : -1074 ≤ exponent) :
    ∃ (rounded : Binary) (positive : 0 < rounded.significand),
      roundWithAccuracy .binary64 .positive mantissa exponent .exact =
        .finite .positive rounded.significand rounded.exponent positive ∧
      (2 ^ 52 ≤ rounded.significand ∧ rounded.significand < 2 ^ 53) ∧ exponent ≤ rounded.exponent ∧
      rounded.value ≤ mantissa * 2 ^ exponent * (1 + 1 / 2 ^ 52) := by
  have once := shiftToTargetExponent_eq long above
  obtain ⟨least, most⟩ := shifted_bounds long
  have near := roundedMantissa_bounds
    ((⟨mantissa, false, false⟩ : ExtendedMantissa) >>> (mantissa.log2 - 52))
  rw [shiftRight_mantissa] at near
  generalize ((⟨mantissa, false, false⟩ : ExtendedMantissa) >>> (mantissa.log2 - 52)) = first at once near
  generalize mantissa.log2 - 52 = count at once least most near
  simp only [] at near
  generalize floor : mantissa / 2 ^ count = whole at near least most
  -- What is rounded is larger by one part in `2 ^ 52` at most.
  have grown : (first.roundedMantissa : ℚ) * 2 ^ (exponent + count) ≤
      mantissa * 2 ^ exponent * (1 + 1 / 2 ^ 52) := by
    have below : whole * 2 ^ count ≤ mantissa := floor ▸ Nat.div_mul_le_self mantissa (2 ^ count)
    have below' : (whole : ℚ) * 2 ^ count ≤ mantissa := by exact_mod_cast below
    have least' : (2 : ℚ) ^ 52 ≤ whole := by exact_mod_cast least
    have near' : (first.roundedMantissa : ℚ) ≤ whole + 1 := by exact_mod_cast near.2
    have ratio : (first.roundedMantissa : ℚ) ≤ whole * (1 + 1 / 2 ^ 52) := by
      rw [mul_add, mul_one_div, mul_one]
      exact near'.trans (by gcongr; rwa [le_div_iff₀ (by positivity), one_mul])
    rw [zpow_add₀ (by norm_num), zpow_natCast]
    calc (first.roundedMantissa : ℚ) * (2 ^ exponent * 2 ^ count)
        ≤ whole * (1 + 1 / 2 ^ 52) * (2 ^ exponent * 2 ^ count) := by gcongr
      _ = whole * 2 ^ count * 2 ^ exponent * (1 + 1 / 2 ^ 52) := by ring
      _ ≤ mantissa * 2 ^ exponent * (1 + 1 / 2 ^ 52) := by gcongr
  have twice {size : Nat} (long : 52 ≤ size.log2) :=
    @shiftToTargetExponent_eq size (exponent + count) long (by omega)
  have nonzero : first.roundedMantissa ≠ 0 := by omega
  -- Rounding may reach the next power of two, and then one more bit goes away, which is zero.
  rcases Nat.lt_or_ge first.roundedMantissa (2 ^ 53) with small | large
  · have bits : first.roundedMantissa.log2 = 52 := (Nat.log2_eq_iff nonzero).mpr ⟨by omega, small⟩
    have again : shiftToTargetExponent .binary64 first.roundedMantissa (exponent + count) .exact =
        (⟨first.roundedMantissa, false, false⟩, exponent + count) := by
      rw [twice bits.ge, bits, Nat.sub_self, Nat.cast_zero, add_zero]
      rfl
    exact ⟨⟨first.roundedMantissa, exponent + count⟩, Nat.pos_of_ne_zero nonzero,
      roundWithAccuracy_eq once again (Nat.pos_of_ne_zero nonzero), ⟨near.1.trans' least, small⟩,
      Int.le_add_of_nonneg_right (Int.natCast_nonneg count), grown⟩
  · have reached : first.roundedMantissa = 2 ^ 53 := by omega
    have again := @twice (2 ^ 53) (by rw [Nat.log2_two_pow]; decide)
    rw [Nat.log2_two_pow, ← reached] at again
    have kept : 0 < 2 ^ 52 ∧ (2 ^ 52 ≤ 2 ^ 52 ∧ 2 ^ 52 < 2 ^ 53) := by decide
    refine ⟨⟨2 ^ 52, exponent + count + 1⟩, kept.1, ?_, kept.2, by simp only []; omega, ?_⟩
    · rw [roundWithAccuracy_eq once again (by rw [reached]; decide)]
      simp only [reached]
      rfl
    rw [reached] at grown
    refine le_trans (le_of_eq ?_) grown
    simp only [Binary.value]
    rw [zpow_add₀ (by norm_num : (2 : ℚ) ≠ 0) (exponent + count)]
    norm_num
    ring

/-! ### Packing -/

/-- The sign is the first of the bits that are packed. -/
theorem unpackSign_packComponents (spec : Format) (sign : Sign) (exponent : BitVec spec.exponentBits)
    (significand : BitVec spec.mantissaBitsWithoutImplicit) :
    unpackSign (packComponents spec sign exponent significand) = sign.toBitVec := by
  apply BitVec.eq_of_getLsbD_eq
  intro place within
  have first : place = 0 := by omega
  subst first
  simp [unpackSign, packComponents, BitVec.getLsbD_append, BitVec.getElem_append]

/-- A number of 53 bits whose exponent the format has room for is packed and unpacked as it is. -/
theorem unpack_pack {significand : Nat} {exponent : Int} (positive : 0 < significand)
    (full : 2 ^ 52 ≤ significand ∧ significand < 2 ^ 53) (low : -1074 ≤ exponent) (high : exponent ≤ 971) :
    (Float.Model.pack (.finite .positive significand exponent positive)).unpack =
      .finite .positive significand exponent positive := by
  obtain ⟨biased, shifted⟩ : ∃ biased : Nat, (biased : Int) = exponent + 1023 + 52 :=
    ⟨(exponent + 1023 + 52).toNat, by omega⟩
  have bits : significand.log2 = 52 := (Nat.log2_eq_iff positive.ne').mpr full
  have bias : Format.binary64.exponentBias = 1023 := by decide
  have packed : UnpackedFloat.pack .binary64 (.finite .positive significand exponent positive) =
      packComponents .binary64 .positive (BitVec.ofNat 11 biased) (BitVec.ofNat 52 significand) := by
    have same : (exponent + (1023 : Nat) + (52 : Nat)).toNat = biased := by omega
    rw [UnpackedFloat.pack]
    simp only [bias, same, bits]
    rw [if_neg (by omega), if_pos (by decide)]
  -- The field of the exponent is neither empty nor full, so the leading bit is implied.
  have field : (BitVec.ofNat 11 biased).toNat = biased := by
    rw [BitVec.toNat_ofNat]
    exact Nat.mod_eq_of_lt (by omega)
  have notFull : BitVec.ofNat 11 biased ≠ -1#11 := by
    intro same
    have full := congrArg BitVec.toNat same
    rw [field] at full
    have all : (-1#11 : BitVec 11).toNat = 2047 := by decide
    omega
  have notEmpty : BitVec.ofNat 11 biased ≠ 0#11 := by
    intro same
    have empty := congrArg BitVec.toNat same
    rw [field, BitVec.toNat_zero] at empty
    omega
  have whole : (1#1 ++ BitVec.ofNat 52 significand).toNat = significand := by
    rw [BitVec.toNat_append, ← Nat.shiftLeft_add_eq_or_of_lt (BitVec.isLt _), Nat.shiftLeft_eq,
      BitVec.toNat_ofNat, BitVec.toNat_ofNat]
    omega
  rw [Float.Model.unpack, Float.Model.pack]
  simp only [packed, UnpackedFloat.unpack, unpackMantissa_packComponents, unpackExponent_packComponents,
    unpackSign_packComponents, if_neg notFull, if_neg notEmpty, whole, field, bias]
  congr 1
  omega

/-! ### Products -/

/-- A number below `2 ^ 1024` with 53 bits has an exponent that the format has room for. -/
theorem Binary.exponent_le {binary : Binary} (full : 2 ^ 52 ≤ binary.significand)
    (small : binary.value < 2 ^ 1024) : binary.exponent ≤ 971 := by
  by_contra! large
  have bits : (2 : ℚ) ^ 52 ≤ binary.significand := by exact_mod_cast full
  have power : (2 : ℚ) ^ (972 : Int) ≤ 2 ^ binary.exponent := zpow_le_zpow_right₀ (by norm_num) large
  have product : (2 : ℚ) ^ 52 * 2 ^ (972 : Int) ≤ binary.value := mul_le_mul bits power (by positivity) (by positivity)
  have whole : (2 : ℚ) ^ 52 * 2 ^ (972 : Int) = 2 ^ 1024 := by
    rw [← zpow_natCast, ← zpow_natCast, ← zpow_add₀ (by norm_num)]
    norm_num
  exact absurd small (not_lt.mpr (whole ▸ product))

/-- What is rounded to at most a bound below `2 ^ 1024` is packed and unpacked without loss. -/
theorem unpack_round {value : Float} {mantissa : Nat} {exponent : Int} {bound : ℚ}
    (made : value.toModel = .pack (roundWithAccuracy .binary64 .positive mantissa exponent .exact))
    (long : 52 ≤ mantissa.log2) (above : -1074 ≤ exponent)
    (bounded : mantissa * 2 ^ exponent * (1 + 1 / 2 ^ 52) ≤ bound) (small : bound < 2 ^ 1024) :
    ∃ (binary : Binary) (positive : 0 < binary.significand),
      value.toModel.unpack = .finite .positive binary.significand binary.exponent positive ∧
      (2 ^ 52 ≤ binary.significand ∧ binary.significand < 2 ^ 53) ∧ exponent ≤ binary.exponent ∧
      binary.value ≤ bound := by
  obtain ⟨rounded, positive, same, full, low, moved⟩ := roundWithAccuracy_bounds long above
  have most := moved.trans bounded
  have high := Binary.exponent_le full.1 (most.trans_lt small)
  refine ⟨rounded, positive, ?_, full, low, most⟩
  rw [made, same, unpack_pack positive full (above.trans low) high]

/-- Zeros behind a number add to its bits. -/
theorem log2_shiftLeft {size : Nat} (positive : 0 < size) (count : Nat) :
    (size <<< count).log2 = size.log2 + count := by
  rw [Nat.shiftLeft_eq, Nat.log2_eq_iff (by positivity)]
  have low := Nat.log2_self_le positive.ne'
  have high := @Nat.lt_log2_self size
  rw [Nat.pow_add, Nat.add_right_comm, Nat.pow_add]
  exact ⟨Nat.mul_le_mul_right _ low, Nat.mul_lt_mul_of_pos_right high (Nat.two_pow_pos count)⟩

/-- The floating-point number of a whole number is a little more than it at most. -/
theorem atMost_toFloat {size : Nat} (positive : 0 < size) (word : size < 2 ^ 64) :
    ∃ binary, AtMost size.toUInt64.toFloat (size * (1 + 1 / 2 ^ 52)) binary := by
  have kept : size.toUInt64.toNat = size := UInt64.toNat_ofNat_of_lt' word
  -- A short number gets zeros behind it first, so that it has 53 bits.
  obtain ⟨count, filled⟩ : ∃ count, 52 - size.log2 = count := ⟨_, rfl⟩
  have made : size.toUInt64.toFloat.toModel =
      .pack (roundWithAccuracy .binary64 .positive (size <<< count) (-(count : Int)) .exact) := by
    have target : (-Format.binary64.targetExponent (totalExponent size 0)).toNat = count := by
      simp only [Format.targetExponent, totalExponent, Format.mantissaBits, Format.minExponent]
      omega
    have order : compare (size : Int) 0 = .gt := by
      rw [compare_gt_iff_gt]
      omega
    have made : size.toUInt64.toFloat.toModel = .pack (UnpackedFloat.ofNat .binary64 size.toUInt64.toNat) := rfl
    rw [made, kept, UnpackedFloat.ofNat, UnpackedFloat.ofInt, UnpackedFloat.normalize, order]
    simp only [UnpackedFloat.round, decreaseExponent, Int.toNat_natCast, zero_sub, target]
  have long : 52 ≤ (size <<< count).log2 := by
    rw [log2_shiftLeft positive]
    omega
  have same : ((size <<< count : Nat) : ℚ) * 2 ^ (-(count : Int)) = size := by
    rw [Nat.shiftLeft_eq, Nat.cast_mul, Nat.cast_pow, Nat.cast_ofNat, mul_assoc, ← zpow_natCast,
      ← zpow_add₀ (by norm_num), add_neg_cancel, zpow_zero, mul_one]
  have small : (size : ℚ) * (1 + 1 / 2 ^ 52) < 2 ^ 1024 := by
    have less : (size : ℚ) < 2 ^ 64 := by exact_mod_cast word
    calc (size : ℚ) * (1 + 1 / 2 ^ 52) ≤ 2 ^ 64 * (1 + 1 / 2 ^ 52) := by gcongr
      _ ≤ 2 ^ 65 := by norm_num
      _ < 2 ^ 1024 := pow_lt_pow_right₀ (by norm_num) (by decide)
  obtain ⟨binary, positive, unpacks, full, low, most⟩ :=
    unpack_round made long (by omega) (by rw [same]) small
  exact ⟨binary, positive, unpacks, full, by omega, most⟩

/-- Whether a floating-point number is a power of ten exactly. -/
def isTenTo (power : Nat) (value : Float) : Bool :=
  match value.toModel.unpack with
  | .finite .positive significand exponent _ =>
    2 ^ 52 ≤ significand && significand < 2 ^ 53 && -53 ≤ exponent &&
      significand * 2 ^ exponent.toNat == 10 ^ power * 2 ^ (-exponent).toNat
  | _ => false

/-- A power of two as a fraction of whole numbers. -/
theorem zpow_eq_div (exponent : Int) : (2 : ℚ) ^ exponent = 2 ^ exponent.toNat / 2 ^ (-exponent).toNat := by
  rw [← zpow_natCast, ← zpow_natCast, ← zpow_sub₀ (by norm_num)]
  congr 1
  omega

/-- A power of ten that is computed is rounded once. -/
theorem tenTo_eq {power : Nat} (large : 22 < power) (small : power ≤ 308) :
    (Json.tenTo power).toModel =
      .pack (roundWithAccuracy .binary64 .positive (1 <<< 53 * 10 ^ power) (-53 + 0) .exact) := by
  have slow : ¬(1 < 2 ^ 53 ∧ power ≤ 22) := by omega
  have some_ : ¬(Int.ofNat power > 2 ^ 11) := by
    rw [Int.ofNat_eq_natCast]
    omega
  have enough : ¬(Int.ofNat power < -((2 ^ 11 : Int) + (1 : Nat).log2)) := by
    rw [Int.ofNat_eq_natCast]
    omega
  have up : (0 : Int) ≤ Int.ofNat power := Int.natCast_nonneg power
  have made : Json.tenTo power = .ofModel (.ofScientific 1 (Int.ofNat power)) := by
    rw [Json.tenTo, Float.ofScientific, dif_neg slow]
    rfl
  rw [made, Float.Model.ofScientific, UnpackedFloat.ofScientific, dif_neg (by decide), if_neg some_,
    if_neg enough, if_pos up]
  rfl

/-- The stored powers of ten are a little more than them at most. -/
theorem atMost_tenTo {power : Nat} (small : power ≤ 308) :
    ∃ binary, AtMost (Json.tenTo power) (10 ^ power * (1 + 1 / 2 ^ 52)) binary := by
  rcases Nat.lt_or_ge 22 power with large | little
  · have long : 52 ≤ (1 <<< 53 * 10 ^ power).log2 := by
      rw [Nat.le_log2 (Nat.mul_pos (by decide) (by positivity)).ne']
      exact le_trans (by decide) (Nat.mul_le_mul_left (1 <<< 53) (Nat.one_le_pow power 10 (by decide)))
    have same : ((1 <<< 53 * 10 ^ power : Nat) : ℚ) * 2 ^ (-53 + 0 : Int) = 10 ^ power := by
      rw [Nat.cast_mul, Nat.cast_pow, Nat.cast_ofNat, mul_right_comm, Nat.shiftLeft_eq]
      norm_num
    have below : (10 : ℚ) ^ power * (1 + 1 / 2 ^ 52) < 2 ^ 1024 := by
      have bound : 10 ^ 308 * (2 ^ 52 + 1) < 2 ^ 1024 * 2 ^ 52 := by decide +kernel
      have bound' : (10 : ℚ) ^ 308 * (2 ^ 52 + 1) < 2 ^ 1024 * 2 ^ 52 := by exact_mod_cast bound
      have less : (10 : ℚ) ^ power ≤ 10 ^ 308 := pow_le_pow_right₀ (by norm_num) small
      refine (mul_le_mul_of_nonneg_right less (by norm_num)).trans_lt ?_
      rwa [one_add_div (by norm_num), ← mul_div_assoc, div_lt_iff₀ (by norm_num)]
    obtain ⟨binary, positive, unpacks, full, low, most⟩ :=
      unpack_round (tenTo_eq large small) long (by decide) (by rw [same]) below
    exact ⟨binary, positive, unpacks, full, low, most⟩
  · -- The small powers stand in a table, and each of them is exact.
    have all : ∀ power : Fin 23, isTenTo power (Json.tenTo power) = true := by decide +kernel
    have stored := all ⟨power, by omega⟩
    simp only [isTenTo] at stored
    split at stored
    · rename_i significand exponent positive unpacks
      simp only [Bool.and_eq_true, decide_eq_true_eq, beq_iff_eq] at stored
      obtain ⟨⟨⟨least, most⟩, low⟩, same⟩ := stored
      refine ⟨⟨significand, exponent⟩, positive, unpacks, ⟨least, most⟩, low, ?_⟩
      have same' : (significand : ℚ) * 2 ^ exponent.toNat = 10 ^ power * 2 ^ (-exponent).toNat := by
        exact_mod_cast same
      rw [Binary.value, zpow_eq_div, ← mul_div_assoc, same', mul_div_cancel_right₀ _ (by positivity)]
      exact le_mul_of_one_le_right (by positivity) (by norm_num)
    · cases stored

/-- A product that stays below `2 ^ 1024` when it is rounded up is not infinite. -/
theorem AtMost.isInf_mul {left right : Float} {first second : ℚ} {binary other : Binary}
    (here : AtMost left first binary) (there : AtMost right second other)
    (small : first * second * (1 + 1 / 2 ^ 52) < 2 ^ 1024) : (left * right).isInf = false := by
  obtain ⟨positive, unpacks, full, low, bounded⟩ := here
  obtain ⟨positive', unpacks', full', low', bounded'⟩ := there
  have made : (left * right).toModel = .pack (roundWithAccuracy .binary64 .positive
      (binary.significand * other.significand) (binary.exponent + other.exponent) .exact) := by
    have made : (left * right).toModel =
        .pack (UnpackedFloat.mul .binary64 left.toModel.unpack right.toModel.unpack) := rfl
    rw [made, unpacks, unpacks']
    rfl
  have long : 52 ≤ (binary.significand * other.significand).log2 := by
    have product := Nat.mul_le_mul full.1 full'.1
    rw [Nat.le_log2 (by positivity)]
    exact le_trans (by decide) product
  have most : ((binary.significand * other.significand : Nat) : ℚ) * 2 ^ (binary.exponent + other.exponent) ≤
      first * second := by
    have regrouped : ((binary.significand * other.significand : Nat) : ℚ) *
        2 ^ (binary.exponent + other.exponent) = binary.value * other.value := by
      rw [Binary.value, Binary.value, zpow_add₀ (by norm_num), Nat.cast_mul]
      ring
    have nonnegative : 0 ≤ other.value := by
      rw [Binary.value]
      positivity
    have enough : 0 ≤ first := le_trans (by rw [Binary.value]; positivity) bounded
    rw [regrouped]
    exact mul_le_mul bounded bounded' nonnegative enough
  obtain ⟨rounded, above, same, -⟩ := unpack_round made long (by omega) (by gcongr) small
  show (left * right).toModel.unpack.isInf = false
  rw [same]
  rfl

/-! ### The shortest digits -/

/-- The number that decimal digits stand for. -/
def Digits.value (decimal : Digits) : ℚ := decimal.digits * 10 ^ decimal.exponent

/-- A fraction is the number times the power of its base. -/
theorem fraction_value (value : Nat) {base : Nat} (positive : 0 < base) (exponent : Int) :
    ((fraction value base exponent).1 : ℚ) = value * base ^ exponent * (fraction value base exponent).2 := by
  have nonzero : (base : ℚ) ≠ 0 := by positivity
  cases exponent with
  | ofNat up => simp [fraction]
  | negSucc down =>
    rw [zpow_negSucc, mul_assoc]
    simp [fraction, nonzero]

/-- What lies below an end of an interval is smaller as a number. -/
theorem Digits.value_le {decimal : Digits} {binary : Binary} {strict : Bool}
    (below : decimal.le binary strict = true) : decimal.value ≤ binary.value := by
  obtain ⟨down, -⟩ := fraction_pos decimal.digits 10 (by decide) decimal.exponent
  obtain ⟨down', -⟩ := fraction_pos binary.significand 2 (by decide) binary.exponent
  have crossed : (fraction decimal.digits 10 decimal.exponent).1 * (fraction binary.significand 2 binary.exponent).2 ≤
      (fraction binary.significand 2 binary.exponent).1 * (fraction decimal.digits 10 decimal.exponent).2 := by
    unfold Digits.le at below
    cases strict with
    | true => exact (of_decide_eq_true below).le
    | false => exact of_decide_eq_true below
  have crossed' : ((fraction decimal.digits 10 decimal.exponent).1 : ℚ) *
      (fraction binary.significand 2 binary.exponent).2 ≤
      (fraction binary.significand 2 binary.exponent).1 * (fraction decimal.digits 10 decimal.exponent).2 := by
    exact_mod_cast crossed
  rw [fraction_value _ (by decide), fraction_value _ (by decide)] at crossed'
  have both : (0 : ℚ) < (fraction decimal.digits 10 decimal.exponent).2 *
      (fraction binary.significand 2 binary.exponent).2 := by
    positivity
  refine le_of_mul_le_mul_right ?_ both
  calc _ = _ := ?_
    _ ≤ _ := crossed'
    _ = _ := ?_
  · rw [Digits.value]; push_cast; ring
  · rw [Binary.value]; push_cast; ring

/-- Zeros that are taken away from the end go into the exponent. -/
theorem strip_value (decimal : Digits) (fuel : Nat) : (decimal.strip fuel).value = decimal.value := by
  induction fuel generalizing decimal with
  | zero => rfl
  | succ fuel ih =>
    rw [Digits.strip]
    split
    · rename_i ends
      rw [ih, Digits.value, Digits.value, zpow_add_one₀ (by norm_num)]
      simp only [Bool.and_eq_true, beq_iff_eq, bne_iff_ne] at ends
      have whole : decimal.digits / 10 * 10 = decimal.digits := Nat.div_mul_cancel (Nat.dvd_of_mod_eq_zero ends.1)
      have whole' : ((decimal.digits / 10 : Nat) : ℚ) * 10 = decimal.digits := by exact_mod_cast whole
      rw [← whole']
      ring
    · rfl

/-- The reals that round to a number end half a step above it. -/
theorem Binary.value_high (binary : Binary) :
    binary.interval.high.value = (2 * binary.significand + 1) * 2 ^ (binary.exponent - 1) := by
  rw [Binary.interval, Binary.value]
  push_cast
  rfl

/-- The digits of a number are no more than the end of the reals that round to it. -/
theorem shortest_value_le (binary : Binary) :
    binary.shortest.value ≤ (2 * binary.significand + 1) * 2 ^ (binary.exponent - 1) := by
  rw [← Binary.value_high]
  unfold Binary.shortest
  split
  · rename_i decimal found
    obtain ⟨count, -, answered⟩ := List.exists_of_findSome?_eq_some found
    have held := onGrid?_holds answered
    rw [Interval.holds, Bool.and_eq_true] at held
    rw [strip_value]
    exact Digits.value_le held.2
  · -- Without an answer, the whole part is given, which is at most the number itself.
    obtain ⟨down, -⟩ := fraction_pos binary.significand 2 (by decide) binary.exponent
    have whole : binary.steps 0 * (fraction binary.significand 2 binary.exponent).2 ≤
        (fraction binary.significand 2 binary.exponent).1 := by
      have steps : binary.steps 0 = (fraction binary.significand 2 binary.exponent).1 /
          (fraction binary.significand 2 binary.exponent).2 := by simp [Binary.steps, fraction]
      rw [steps]
      exact Nat.div_mul_le_self _ _
    have whole' : (binary.steps 0 : ℚ) * (fraction binary.significand 2 binary.exponent).2 ≤
        (fraction binary.significand 2 binary.exponent).1 := by exact_mod_cast whole
    rw [fraction_value _ (by decide)] at whole'
    have less := le_of_mul_le_mul_right whole' (by exact_mod_cast down)
    rw [Binary.value_high, Digits.value, zpow_zero, mul_one, zpow_sub_one₀ (by norm_num)]
    have scale : (0 : ℚ) < 2 ^ binary.exponent := by positivity
    push_cast at less
    linarith

/-- The field of the exponent in the bits of a number. -/
theorem unpackExponent_toNat (bits : UInt64) :
    (@unpackExponent .binary64 bits.toBitVec).toNat = bits.toNat / 0x10_0000_0000_0000 % 0x800 := by
  simp [unpackExponent, BitVec.extractLsb_toNat, Nat.shiftRight_eq_div_pow]

/-- A finite number has a size of 53 bits, and an exponent below the one of what is infinite. -/
theorem magnitude_bounds {value : Float} (defined : value.isNaN = false) (bounded : value.isInf = false) :
    (magnitude value).significand < 2 ^ 53 ∧ (magnitude value).exponent ≤ 971 := by
  have field : value.toBits.toNat / 0x10_0000_0000_0000 % 0x800 ≠ 2047 := by
    intro full
    -- With all bits of its exponent set, a number is infinite or undefined.
    have set : @unpackExponent .binary64 value.toModel.toBits.toBitVec = -1#11 := by
      apply BitVec.eq_of_toNat_eq
      rw [unpackExponent_toNat]
      exact full
    change value.toModel.unpack.isNaN = false at defined
    change value.toModel.unpack.isInf = false at bounded
    rw [Float.Model.unpack, UnpackedFloat.unpack] at defined bounded
    simp only [set, if_true] at defined bounded
    split at defined
    · rename_i infinite
      rw [if_pos infinite] at bounded
      cases bounded
    · cases defined
  unfold magnitude
  simp only []
  split
  · simp only []
    omega
  · simp only [Int.ofNat_eq_natCast]
    omega

end Placard.Decimal

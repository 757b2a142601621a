import Placard.Proofs.Decimal.Rounding
import Placard.Proofs.Json.Literals

/-! Floating-point numbers in JSON text: what is written for a finite number is never too large to be read. -/

namespace Placard.Json

open Decimal (Binary Digits)

/-! ### Scaling -/

/-- Nothing is too large when it is scaled down. -/
theorem isSome_scaled_neg {exponent : Int} (negative : exponent < 0) (fuel : Nat) (value : Float) :
    (scaled fuel value exponent).isSome = true := by
  induction fuel generalizing value exponent with
  | zero => rfl
  | succ fuel ih =>
    have below : ¬ 0 ≤ exponent := by omega
    rw [scaled]
    by_cases near : exponent.natAbs ≤ 308
    · rw [if_pos near, if_neg below]
      rfl
    · rw [if_neg near]
      split
      · rfl
      · exact ih (by omega) _

/-- Zero can be scaled up by any power. -/
theorem isSome_scaled_zero (power fuel : Nat) :
    (scaled (fuel + 1) (0 : Nat).toUInt64.toFloat power).isSome = true := by
  have zero : ((0 : Nat).toUInt64.toFloat == 0.0) = true := by decide
  have up : (0 : Int) ≤ power := Int.natCast_nonneg power
  rw [scaled, Int.natAbs_natCast]
  by_cases near : power ≤ 308
  · -- Zero times a finite number is zero.
    obtain ⟨binary, positive, unpacks, -⟩ := Decimal.atMost_tenTo near
    have finite : ((0 : Nat).toUInt64.toFloat * tenTo power).isInf = false := by
      have nothing : (0 : Nat).toUInt64.toFloat.toModel.unpack = .zero .positive := rfl
      have made : ((0 : Nat).toUInt64.toFloat * tenTo power).toModel = .pack (.mul .binary64
        (0 : Nat).toUInt64.toFloat.toModel.unpack (tenTo power).toModel.unpack) := rfl
      have product : Float.Model.UnpackedFloat.mul .binary64 (.zero .positive)
          (.finite .positive binary.significand binary.exponent positive) = .zero .positive := rfl
      show Float.Model.isInf _ = false
      rw [made, nothing, unpacks, product]
      rfl
    rw [if_pos near, if_pos up]
    simp only [finite, Bool.false_eq_true, if_false, Option.isSome_some]
  · rw [if_neg near, if_pos zero]
    rfl

/-- A whole number of 64 bits can be scaled up as long as it stays clearly below the largest number. -/
theorem isSome_scaled {size power : Nat} (word : size ≤ maxWord)
    (small : (size : ℚ) * 10 ^ power ≤ (2 ^ 54 - 15) * 2 ^ 970) (fuel : Nat) :
    (scaled (fuel + 1) size.toUInt64.toFloat power).isSome = true := by
  rcases Nat.eq_zero_or_pos size with rfl | positive
  · exact isSome_scaled_zero power fuel
  have up : (0 : Int) ≤ power := Int.natCast_nonneg power
  have fits : size < 2 ^ 64 := by
    have bound : maxWord < 2 ^ 64 := by decide
    omega
  have near : power ≤ 308 := by
    -- The next power of ten is already beyond all numbers.
    by_contra! far
    have bound : 2 ^ 1024 < 10 ^ 309 := by decide +kernel
    have bound' : (2 : ℚ) ^ 1024 < 10 ^ 309 := by exact_mod_cast bound
    have least : (1 : ℚ) ≤ size := by exact_mod_cast positive
    refine absurd small (not_le.mpr ?_)
    calc ((2 : ℚ) ^ 54 - 15) * 2 ^ 970 < 2 ^ 54 * 2 ^ 970 := by gcongr; norm_num
      _ = 2 ^ 1024 := (pow_add 2 54 970).symm
      _ < 10 ^ 309 := bound'
      _ ≤ 10 ^ power := pow_le_pow_right₀ (by norm_num) far
      _ ≤ size * 10 ^ power := le_mul_of_one_le_left (by positivity) least
  obtain ⟨binary, here⟩ := Decimal.atMost_toFloat positive fits
  obtain ⟨other, there⟩ := Decimal.atMost_tenTo near
  have finite := here.isInf_mul there (by
    calc (size : ℚ) * (1 + 1 / 2 ^ 52) * (10 ^ power * (1 + 1 / 2 ^ 52)) * (1 + 1 / 2 ^ 52)
        = size * 10 ^ power * (1 + 1 / 2 ^ 52) ^ 3 := by ring
      _ ≤ (2 ^ 54 - 15) * 2 ^ 970 * (1 + 1 / 2 ^ 52) ^ 3 := by gcongr
      _ = (2 ^ 54 - 15) * (1 + 1 / 2 ^ 52) ^ 3 * 2 ^ 970 := mul_right_comm _ _ _
      _ < 2 ^ 54 * 2 ^ 970 := by gcongr; norm_num
      _ = 2 ^ 1024 := (pow_add 2 54 970).symm)
  rw [scaled, Int.natAbs_natCast, if_pos near, if_pos up]
  simp only [finite, Bool.false_eq_true, if_false, Option.isSome_some]

/-! ### Digits -/

/-- Digits behind a number make it larger by a power of ten at least. -/
theorem mul_pow_le_natural (value : Nat) (digits : List Char) :
    value * 10 ^ digits.length ≤ Decimal.natural value digits := by
  induction digits generalizing value with
  | nil => simp [Decimal.natural]
  | cons c digits ih =>
    have next : Decimal.natural value (c :: digits) =
        Decimal.natural (value * 10 + (c.toNat - '0'.toNat)) digits := rfl
    rw [next, List.length_cons, Nat.pow_succ', ← Nat.mul_assoc]
    exact (Nat.mul_le_mul_right _ (Nat.le_add_right _ _)).trans (ih _)

/-- Digits make a number that has no more digits. -/
theorem natural_lt (value : Nat) {digits : List Char} (all : ∀ c ∈ digits, c.isDigit = true) :
    Decimal.natural value digits < (value + 1) * 10 ^ digits.length := by
  induction digits generalizing value with
  | nil => simp [Decimal.natural]
  | cons c digits ih =>
    obtain ⟨digit, others⟩ := List.forall_mem_cons.mp all
    obtain ⟨small, -⟩ := Decimal.digitChar_of_isDigit digit
    have next : Decimal.natural value (c :: digits) =
        Decimal.natural (value * 10 + (c.toNat - '0'.toNat)) digits := rfl
    rw [next, List.length_cons, Nat.pow_succ', ← Nat.mul_assoc]
    exact (ih _ others).trans_le (Nat.mul_le_mul_right _ (by omega))

/-- The digits that are kept have 64 bits, and with zeros for the others they make no more than all of them. -/
theorem takeDigits_le {value : Nat} (word : value ≤ maxWord) (digits : List Char) :
    (takeDigits value digits).1 ≤ maxWord ∧
      (takeDigits value digits).1 * 10 ^ (takeDigits value digits).2.length ≤ Decimal.natural value digits := by
  induction digits generalizing value with
  | nil => exact ⟨word, (mul_pow_le_natural value []).trans (Nat.le_refl _)⟩
  | cons c digits ih =>
    rw [takeDigits]
    split
    · rename_i fits
      rw [Bool.and_eq_true, decide_eq_true_eq] at fits
      exact ih fits.2
    · exact ⟨word, mul_pow_le_natural value (c :: digits)⟩

/-- The first digit is always kept. -/
theorem takeDigits_first {c : Char} (digit : c.isDigit = true) (others : List Char) :
    takeDigits 0 (c :: others) = takeDigits (c.toNat - '0'.toNat) others := by
  obtain ⟨small, -⟩ := Decimal.digitChar_of_isDigit digit
  have fits : c.toNat - '0'.toNat ≤ maxWord := by
    have bound : 9 ≤ maxWord := by decide
    omega
  rw [takeDigits]
  simp only [digit, fits, Nat.zero_mul, Nat.zero_add, decide_true, Bool.and_self, if_true]

/-- Behind a number no more digits are left than were there. -/
theorem length_takeDigits_le (value : Nat) (digits : List Char) :
    (takeDigits value digits).2.length ≤ digits.length := by
  obtain ⟨taken, same, -⟩ := takeDigits_append value digits
  have parted := congrArg List.length same
  rw [List.length_append] at parted
  omega

/-- Digits that are read and scaled do not make a number that is too large. -/
def Scalable (decimal : Digits) : Prop :=
  let kept := takeDigits 0 (Nat.toDigits 10 decimal.digits)
  0 ≤ decimal.exponent + kept.2.length →
    (scaled 8 kept.1.toUInt64.toFloat (decimal.exponent + kept.2.length)).isSome = true

/-- Below the largest eight numbers, the reals that round to a number are clearly below the end of all of them. -/
theorem high_le {binary : Binary} (bits : binary.significand < 2 ^ 53) (high : binary.exponent ≤ 971)
    (below : ¬(binary.exponent = 971 ∧ 2 ^ 53 - 8 ≤ binary.significand)) :
    ((2 * binary.significand + 1) * 2 ^ (binary.exponent - 1) : ℚ) ≤ (2 ^ 54 - 15) * 2 ^ 970 := by
  rcases Int.lt_or_eq_of_le high with lower | top
  · -- A smaller exponent leaves more than enough room.
    have half : (2 : ℚ) ^ (binary.exponent - 1) * 2 ≤ 2 ^ 970 := by
      rw [← zpow_add_one₀ (by norm_num), sub_add_cancel, ← zpow_natCast]
      exact zpow_le_zpow_right₀ (by norm_num) (by omega)
    have size : (2 * binary.significand + 1 : ℚ) ≤ (2 ^ 54 - 15) * 2 := by
      have whole : (2 * binary.significand + 1 : ℚ) < 2 * 2 ^ 53 := by
        have step : 2 * binary.significand + 1 < 2 * 2 ^ 53 := by omega
        exact_mod_cast step
      exact whole.le.trans (by norm_num)
    calc (2 * binary.significand + 1 : ℚ) * 2 ^ (binary.exponent - 1)
        ≤ (2 ^ 54 - 15) * 2 * 2 ^ (binary.exponent - 1) := by gcongr
      _ = (2 ^ 54 - 15) * (2 ^ (binary.exponent - 1) * 2) := by ring
      _ ≤ (2 ^ 54 - 15) * 2 ^ 970 := mul_le_mul_of_nonneg_left half (by norm_num)
  · have power : (2 : ℚ) ^ (binary.exponent - 1) = 2 ^ 970 := by
      rw [top, ← zpow_natCast]
      rfl
    have size : (2 * binary.significand + 1 : ℚ) ≤ 2 ^ 54 - 15 := by
      have whole : (2 * binary.significand + 1 + 15 : ℚ) ≤ 2 ^ 54 := by
        have step : 2 * binary.significand + 1 + 15 ≤ 2 ^ 54 := by omega
        exact_mod_cast step
      linarith
    rw [power]
    exact mul_le_mul_of_nonneg_right size (by positivity)

/-- The shortest digits of every number of 53 bits can be read and scaled. -/
theorem scalable_shortest {binary : Binary} (bits : binary.significand < 2 ^ 53) (high : binary.exponent ≤ 971) :
    Scalable binary.shortest := by
  -- The largest eight numbers are looked at one by one: for them, a bound would have to be sharper than rounding.
  by_cases last : binary.exponent = 971 ∧ 2 ^ 53 - 8 ≤ binary.significand
  · have all : ∀ less : Fin 8, Scalable (Binary.shortest ⟨2 ^ 53 - 1 - less, 971⟩) := by
      unfold Scalable
      decide +kernel
    obtain ⟨top, large⟩ := last
    have found := all ⟨2 ^ 53 - 1 - binary.significand, by omega⟩
    have same : 2 ^ 53 - 1 - (2 ^ 53 - 1 - binary.significand) = binary.significand := by omega
    rwa [same, ← top] at found
  · intro up
    obtain ⟨word, less⟩ := takeDigits_le (Nat.zero_le maxWord) (Nat.toDigits 10 binary.shortest.digits)
    rw [Decimal.natural_toDigits] at less
    generalize takeDigits 0 (Nat.toDigits 10 binary.shortest.digits) = kept at up word less ⊢
    obtain ⟨power, same⟩ := Int.eq_ofNat_of_zero_le up
    rw [same]
    refine isSome_scaled word ?_ 7
    have less' : (kept.1 : ℚ) * 10 ^ kept.2.length ≤ binary.shortest.digits := by exact_mod_cast less
    have scale : (0 : ℚ) < 10 ^ binary.shortest.exponent := by positivity
    -- What is kept is no more than the digits, and they are no more than the end of the interval.
    calc (kept.1 : ℚ) * 10 ^ power = kept.1 * 10 ^ kept.2.length * 10 ^ binary.shortest.exponent := by
          rw [← zpow_natCast, show (power : Int) = _ from same.symm, zpow_add₀ (by norm_num), zpow_natCast]
          ring
      _ ≤ binary.shortest.value := mul_le_mul_of_nonneg_right less' scale.le
      _ ≤ (2 * binary.significand + 1) * 2 ^ (binary.exponent - 1) := Decimal.shortest_value_le binary
      _ ≤ (2 ^ 54 - 15) * 2 ^ 970 := high_le bits high last

/-- The point of the shortest digits never stands far behind them. -/
theorem shortest_point_le {binary : Binary} (bits : binary.significand < 2 ^ 53) (high : binary.exponent ≤ 971)
    (positive : 0 < binary.significand) :
    binary.shortest.exponent + (Nat.toDigits 10 binary.shortest.digits).length ≤ 400 := by
  by_cases zero : binary.shortest.digits = 0
  · rw [Decimal.shortest_digits positive zero, zero]
    decide
  by_contra! far
  obtain ⟨places, long⟩ := Nat.exists_eq_add_of_le' (@Nat.length_toDigits_pos 10 binary.shortest.digits)
  -- The digits stand for the power of ten at the place of the first one at least.
  have least : 10 ^ places ≤ binary.shortest.digits := by
    rcases Nat.eq_zero_or_pos places with rfl | several
    · exact Nat.pos_of_ne_zero zero
    · by_contra! less
      have fewer := (Nat.length_toDigits_le_iff (by decide) several).mpr less
      omega
  have least' : (10 : ℚ) ^ places ≤ binary.shortest.digits := by exact_mod_cast least
  have bound : 2 ^ 1024 < 10 ^ 309 := by decide +kernel
  have bound' : (2 : ℚ) ^ 1024 < 10 ^ 309 := by exact_mod_cast bound
  have size : (2 * binary.significand + 1 : ℚ) ≤ 2 ^ 54 := by
    have step : 2 * binary.significand + 1 ≤ 2 ^ 54 := by omega
    exact_mod_cast step
  have power : (2 : ℚ) ^ (binary.exponent - 1) ≤ 2 ^ 970 := by
    rw [← zpow_natCast]
    exact zpow_le_zpow_right₀ (by norm_num) (by omega)
  refine absurd (Decimal.shortest_value_le binary) (not_le.mpr ?_)
  calc (2 * binary.significand + 1 : ℚ) * 2 ^ (binary.exponent - 1) ≤ 2 ^ 54 * 2 ^ 970 := by gcongr
    _ = 2 ^ 1024 := by rw [← pow_add]
    _ < 10 ^ 309 := bound'
    _ ≤ 10 ^ (places + binary.shortest.exponent : Int) := by
      rw [← zpow_natCast]
      exact zpow_le_zpow_right₀ (by norm_num) (by omega)
    _ = 10 ^ places * 10 ^ binary.shortest.exponent := by rw [zpow_add₀ (by norm_num), zpow_natCast]
    _ ≤ binary.shortest.value := mul_le_mul_of_nonneg_right least' (by positivity)

/-! ### Literals -/

variable {negative : Bool}

/-- A text is read as one number, whatever ends the number behind it. -/
def ReadsNumber (read : List Char → Except Fault (Number × List Char)) (text : List Char) : Prop :=
  ∃ number, ∀ rest, Ended rest → read (text ++ rest) = .ok (number, rest)

/-- What is read alike everywhere is read everywhere if it is read alone. -/
theorem ReadAlike.reads {read : List Char → Except Fault (Number × List Char)} {text : List Char}
    (alike : ReadAlike read text) (alone : (read text).isOk = true) : ReadsNumber read text := by
  obtain ⟨number?, each⟩ := alike
  have first := each [] ended_nil
  rw [List.append_nil] at first
  cases number? with
  | none =>
    rw [Option.map_none] at first
    cases found : read text with
    | ok value =>
      rw [found] at first
      cases first
    | error fault =>
      rw [found] at alone
      cases alone
  | some number => exact ⟨number, fun rest ended => toOption_eq_some_iff.mp (each rest ended)⟩

/-- A number whose digits can be scaled is read. -/
theorem isOk_floatOf {size : Nat} {exponent : Int}
    (scales : (scaled 8 size.toUInt64.toFloat exponent).isSome = true) (rest : List Char) :
    (floatOf negative size exponent rest).isOk = true := by
  obtain ⟨value, found⟩ := Option.isSome_iff_exists.mp scales
  rw [floatOf, found]
  rfl

/-- With a point in it, a number of few digits is read. -/
theorem readsNumber_point {front behind : List Char} (whole : Decimal.IsWhole front)
    (numeral : Decimal.IsNumeral behind) (short : front.length ≤ 16) :
    ReadsNumber (readNumber negative) (front ++ '.' :: behind) := by
  have alike := @readNumber_alike negative _ _ _ whole (.inr ⟨behind, rfl, numeral⟩) (.inl rfl)
  rw [List.append_nil] at alike
  refine alike.reads ?_
  -- All digits before the point are kept, and at least one behind it, so the number is scaled down.
  have small : Decimal.natural 0 front < 10 ^ 16 := by
    have less := natural_lt 0 whole.numeral.2
    rw [Nat.zero_add, Nat.one_mul] at less
    exact less.trans_le (Nat.pow_le_pow_right (by decide) short)
  have fits : Decimal.natural 0 front * 10 + 9 ≤ maxWord := by
    have bound : 10 ^ 16 * 10 + 9 ≤ maxWord := by decide
    omega
  have kept := takeDigits_natural whole.numeral.2 (show Decimal.natural 0 front ≤ maxWord by omega)
  obtain ⟨c, others, front_⟩ := List.exists_cons_of_ne_nil numeral.1
  have digit := numeral.2 c (front_ ▸ List.mem_cons_self)
  obtain ⟨size, -⟩ := Decimal.digitChar_of_isDigit digit
  have down : 0 - ((behind.length -
      (takeDigits (Decimal.natural 0 front) behind).2.length : Nat) : Int) < 0 := by
    have next : Decimal.natural 0 front * 10 + (c.toNat - '0'.toNat) ≤ maxWord := by omega
    rw [front_, takeDigits]
    simp only [digit, next, decide_true, Bool.and_self, if_true]
    have shorter := length_takeDigits_le (Decimal.natural 0 front * 10 + (c.toNat - '0'.toNat)) others
    rw [List.length_cons]
    omega
  have fraction := @readFraction_eq negative (Decimal.natural 0 front) 0 behind [] numeral (by simp [NoDigit])
  rw [List.append_nil] at fraction
  rw [readNumber_eq whole (noDigit_cons rfl behind), kept]
  show (readFraction negative (Decimal.natural 0 front) 0 behind).isOk = true
  rw [fraction]
  exact isOk_floatOf (isSome_scaled_neg down 8 _) []

/-- A point behind the first of several digits only counts the digits that are kept behind it. -/
theorem readNumber_marked {c : Char} {others : List Char} (all : ∀ d ∈ c :: others, d.isDigit = true)
    (tail : List Char) :
    readNumber negative (c :: ((if others = [] then [] else '.' :: others) ++ 'e' :: tail)) =
      readExponent negative (takeDigits 0 (c :: others)).1
        (0 - ((others.length - (takeDigits 0 (c :: others)).2.length : Nat) : Int)) tail := by
  obtain ⟨digit, rest⟩ := List.forall_mem_cons.mp all
  have lone : Decimal.IsWhole [c] := ⟨⟨by simp, by simpa using digit⟩, fun zero => by simpa using zero⟩
  have stop : NoDigit ('e' :: tail) := noDigit_cons rfl tail
  rw [takeDigits_first digit others]
  by_cases single : others = []
  · have whole := @readNumber_eq negative _ _ lone stop
    rw [takeDigits_first digit []] at whole
    rw [single, if_pos rfl]
    exact whole
  · have whole := @readNumber_eq negative _ _ lone (noDigit_cons rfl (others ++ 'e' :: tail) : NoDigit ('.' :: _))
    rw [takeDigits_first digit []] at whole
    rw [if_neg single, List.cons_append]
    exact whole.trans (readFraction_eq ⟨single, rest⟩ stop)

/-- With an exponent, the first digit stands before the point, and the exponent has a sign. -/
theorem scientificText_json (c : Char) (others : List Char) (point : Int) :
    (Decimal.scientificText Decimal.json (c :: others) point).toList =
      c :: ((if others = [] then [] else '.' :: others) ++
        'e' :: ([if point - 1 < 0 then '-' else '+'] ++ Nat.toDigits 10 (point - 1).natAbs)) := by
  have written : (toString (point - 1).natAbs).toList = Nat.toDigits 10 (point - 1).natAbs := Nat.toList_repr
  have signs : Decimal.json.signsExponent = true := rfl
  unfold Decimal.scientificText
  simp only [String.toList_append, String.toList_ofList, written, signs, if_true]
  by_cases single : others = [] <;> by_cases below : point - 1 < 0 <;>
    simp [single, below]

/-- A number with an exponent is read in the same way whatever stands behind it. -/
theorem scientific_alike {c : Char} {others : List Char} (all : ∀ d ∈ c :: others, d.isDigit = true)
    (below : Prop) [Decidable below] (size : Nat) :
    ReadAlike (readNumber negative) (c :: ((if others = [] then [] else '.' :: others) ++
      'e' :: ([if below then '-' else '+'] ++ Nat.toDigits 10 size))) := by
  obtain ⟨digit, rest⟩ := List.forall_mem_cons.mp all
  have lone : Decimal.IsWhole [c] := ⟨⟨by simp, by simpa using digit⟩, fun zero => by simpa using zero⟩
  have broken : FractionText (if others = [] then [] else '.' :: others) := by
    by_cases single : others = []
    · exact .inl (if_pos single)
    · exact .inr ⟨others, if_neg single, single, rest⟩
  have scales : ExponentText ('e' :: ([if below then '-' else '+'] ++ Nat.toDigits 10 size)) := by
    refine .inr ⟨'e', [if below then '-' else '+'], Nat.toDigits 10 size, rfl, .inl rfl, ?_,
      Decimal.isNumeral_toDigits size⟩
    split
    · exact .inr (.inr rfl)
    · exact .inr (.inl rfl)
  exact readNumber_alike lone broken scales

/-- Digits that can be scaled are read with their exponent behind them. -/
theorem readsNumber_scientific {decimal : Digits} (scalable : Scalable decimal)
    (near : decimal.exponent + (Nat.toDigits 10 decimal.digits).length ≤ 400) :
    ReadsNumber (readNumber negative) (Decimal.scientificText Decimal.json (Nat.toDigits 10 decimal.digits)
      (decimal.exponent + (Nat.toDigits 10 decimal.digits).length)).toList := by
  obtain ⟨some_, all⟩ := Decimal.isNumeral_toDigits decimal.digits
  unfold Scalable at scalable
  generalize Nat.toDigits 10 decimal.digits = digits at *
  obtain ⟨c, others, rfl⟩ := List.exists_cons_of_ne_nil some_
  have shorter : (takeDigits 0 (c :: others)).2.length ≤ others.length := by
    rw [takeDigits_first (all c List.mem_cons_self)]
    exact length_takeDigits_le _ others
  rw [List.length_cons] at near
  rw [scientificText_json, List.length_cons]
  refine (scientific_alike all _ _).reads ?_
  rw [readNumber_marked all]
  generalize (takeDigits 0 (c :: others)) = kept at *
  generalize place : decimal.exponent + ((others.length + 1 : Nat) : Int) = point at near ⊢
  have numeral := Decimal.isNumeral_toDigits (point - 1).natAbs
  have denoted := Decimal.natural_toDigits (point - 1).natAbs
  have read (turn : List Char) (sign : turn = [] ∨ turn = ['+'] ∨ turn = ['-']) (start : Int) :=
    @readExponent_eq negative kept.1 start turn (Nat.toDigits 10 (point - 1).natAbs) [] sign numeral (by simp [NoDigit])
  simp only [List.append_nil, denoted] at read
  by_cases below : point - 1 < 0
  · -- A negative exponent makes the number smaller, however far it goes.
    rw [if_pos below, read ['-'] (.inr (.inr rfl))]
    simp only [beq_self_eq_true, if_true, Bool.not_true, Bool.and_false, Bool.false_eq_true, if_false]
    split
    · rfl
    · exact isOk_floatOf (isSome_scaled_neg (by omega) 8 _) []
  · -- What is kept of the digits is scaled by what is left of the exponent.
    have near' : ¬0x8000_0000 ≤ (point - 1).natAbs := by omega
    have plus : (['+'] == ['-']) = false := rfl
    have scale : min (0 - ((others.length - kept.2.length : Nat) : Int) + (point - 1).natAbs) 0x7FFF_FFFF =
        decimal.exponent + kept.2.length := by
      omega
    rw [if_neg below, read ['+'] (.inr (.inl rfl)), if_neg near']
    simp only [plus, Bool.false_eq_true, if_false, scale]
    refine isOk_floatOf ?_ []
    by_cases up : 0 ≤ decimal.exponent + (kept.2.length : Int)
    · exact scalable up
    · exact isSome_scaled_neg (by omega) 8 _

/-- The size of every finite number is read where it is written. -/
theorem readsNumber_magnitude {value : Float} (defined : value.isNaN = false) (bounded : value.isInf = false) :
    ReadsNumber (readNumber negative) (Decimal.magnitudeText Decimal.json value).toList := by
  obtain ⟨bits, high⟩ := Decimal.magnitude_bounds defined bounded
  unfold Decimal.magnitudeText
  split
  · exact readsNumber_point Decimal.isWhole_zero Decimal.isWhole_zero.numeral (by decide)
  · rename_i nonzero
    have positive : 0 < (Decimal.magnitude value).significand := by
      simp only [beq_iff_eq] at nonzero
      omega
    obtain ⟨front, behind, spelled, whole, numeral, short⟩ := Decimal.positionalText_shortest positive
    simp only [Decimal.json]
    split
    · -- The point stands near the digits, and at most sixteen of them stand before it.
      rename_i near
      simp only [Bool.and_eq_true, decide_eq_true_eq] at near
      exact (congrArg (ReadsNumber _) spelled).mpr (readsNumber_point whole numeral (by omega))
    · exact readsNumber_scientific (scalable_shortest bits high) (shortest_point_le bits high positive)

/-- What is read as a number begins with a digit. -/
theorem isDigit_of_readNumber {text rest : List Char} {number : Number}
    (read : readNumber negative text = .ok (number, rest)) : ∃ c others, text = c :: others ∧ c.isDigit = true := by
  unfold readNumber at read
  split at read
  · cases read
  · exact ⟨_, _, rfl, rfl⟩
  · rename_i c others _
    split at read
    · cases read
    · rename_i digit
      exact ⟨c, others, rfl, by simpa using digit⟩

/-- Every finite number is read where it is written, and what is read is a number. -/
theorem readValue_float {value : Float} (defined : value.isNaN = false) (bounded : value.isInf = false) :
    ∃ number, ∀ (fuel depth : Nat) (rest : List Char), Ended rest →
      readValue (fuel + 1) depth ((Number.float value).write.toList ++ rest) = .ok (.number number, rest) := by
  obtain ⟨number, read⟩ := @readsNumber_magnitude (Decimal.isNegative value) value defined bounded
  have written : (Number.float value).write.toList =
      (if Decimal.isNegative value then ['-'] else []) ++ (Decimal.magnitudeText Decimal.json value).toList := by
    rw [Number.write, defined, bounded, Decimal.Layout.write, defined, bounded]
    simp only [Bool.or_self, Bool.false_eq_true, if_false, String.toList_append]
    split <;> rfl
  refine ⟨number, fun fuel depth rest ended => ?_⟩
  have here := read rest ended
  rw [written, List.append_assoc]
  generalize (Decimal.magnitudeText Decimal.json value).toList = text at read here
  cases negative : Decimal.isNegative value with
  | true =>
    rw [negative] at here
    rw [if_pos rfl, List.singleton_append, readValue, skipSpace_solid (solid_cons rfl)]
    simp only [here, map_ok]
  | false =>
    rw [negative] at here
    -- Without a sign, the first digit shows that a number is read.
    obtain ⟨c, others, front, digit⟩ := isDigit_of_readNumber here
    rw [if_neg Bool.false_ne_true, List.nil_append, front, readValue_digit digit, ← front]
    simp only [here, map_ok]

end Placard.Json

import Mathlib.Data.List.Induction
import Placard.Decimal.Layout
import Placard.Decimal.Reading

/-! Decimal numerals: the digits of written numbers, and the finite numbers with a point. -/

namespace Placard.Decimal

/-- Digits in a row, at least one. -/
def IsNumeral (digits : List Char) : Prop := digits ≠ [] ∧ ∀ c ∈ digits, c.isDigit = true

/-- The digits of a whole number: a zero in front stands alone. -/
structure IsWhole (digits : List Char) : Prop where
  numeral : IsNumeral digits
  lone : digits.head? = some '0' → digits = ['0']

/-! ### Whole numbers -/

/-- The digits of a positive number do not begin with a zero. -/
theorem head?_toDigits {value : Nat} (positive : 0 < value) :
    (Nat.toDigits 10 value).head? ≠ some '0' := by
  -- The first digit stays the same while the number has more than one.
  induction value using Nat.strongRecOn with
  | _ value ih =>
    by_cases single : value < 10
    · rw [Nat.toDigits_of_lt_base single]
      simp only [List.head?_cons, ne_eq, Option.some.injEq, Nat.digitChar_eq_zero]
      omega
    · have front := ih (value / 10) (by omega) (by omega)
      rw [Nat.toDigits_of_base_le (by decide) (by omega), List.head?_append]
      cases digits : Nat.toDigits 10 (value / 10) with
      | nil => exact absurd digits Nat.toDigits_ne_nil
      | cons c others => simpa [digits] using front

/-- A number is written with digits. -/
theorem isNumeral_toDigits (value : Nat) : IsNumeral (Nat.toDigits 10 value) :=
  ⟨Nat.toDigits_ne_nil, fun _ => Nat.isDigit_of_mem_toDigits (by decide) (by decide)⟩

/-- A number is written as a whole number. -/
theorem isWhole_toDigits (value : Nat) : IsWhole (Nat.toDigits 10 value) := by
  refine ⟨isNumeral_toDigits value, fun front => ?_⟩
  rcases Nat.eq_zero_or_pos value with rfl | positive
  · exact Nat.toDigits_zero 10
  · exact absurd front (head?_toDigits positive)

/-- A whole number in decimal is a sign, where it is negative, and the digits of its size. -/
theorem toList_toString (value : Int) : (toString value).toList =
    (if value < 0 then ['-'] else []) ++ Nat.toDigits 10 value.natAbs := by
  cases value with
  | ofNat size =>
    rw [if_neg (by simp)]
    exact Nat.toList_repr
  | negSucc less =>
    have written : toString (Int.negSucc less) = "-" ++ Nat.repr (less + 1) := rfl
    rw [if_pos (Int.negSucc_lt_zero less), written, String.toList_append, Nat.toList_repr]
    rfl

/-- The digits of a number denote it. -/
theorem natural_toDigits (value : Nat) : natural 0 (Nat.toDigits 10 value) = value := by
  have general (digits : List Char) (start : Nat) :
      natural start digits = Nat.ofDigitChars 10 digits start := by
    rw [natural, Nat.ofDigitChars_eq_foldl]
    simp only [Nat.mul_comm]
  rw [general, Nat.ofDigitChars_toDigits (by decide) (by decide)]

/-- A digit is the character of the number that it stands for. -/
theorem digitChar_of_isDigit {c : Char} (digit : c.isDigit = true) :
    c.toNat - '0'.toNat < 10 ∧ Nat.digitChar (c.toNat - '0'.toNat) = c := by
  have range := Char.isDigit_iff_toNat.mp digit
  have low : '0'.toNat = 48 := rfl
  have high : '9'.toNat = 57 := rfl
  have small : c.toNat - '0'.toNat < 10 := by omega
  refine ⟨small, Char.toNat_inj.mp ?_⟩
  rw [Nat.toNat_digitChar_of_lt_ten small]
  omega

/-- No number that the first digits make exceeds the one of all digits. -/
theorem le_natural (start : Nat) (digits : List Char) : start ≤ natural start digits := by
  induction digits generalizing start with
  | nil => exact Nat.le_refl start
  | cons c digits ih => exact Nat.le_trans (by omega) (ih (start * 10 + (c.toNat - '0'.toNat)))

/-- Digits are read as one number, so a further digit makes it ten times as large. -/
theorem natural_concat (start : Nat) (digits : List Char) (c : Char) :
    natural start (digits ++ [c]) = natural start digits * 10 + (c.toNat - '0'.toNat) := by
  rw [natural, List.foldl_append, natural]
  rfl

/-- Zeros in front add nothing. -/
theorem natural_zeros (zeros : Nat) (digits : List Char) :
    natural 0 (List.replicate zeros '0' ++ digits) = natural 0 digits := by
  induction zeros with
  | zero => rfl
  | succ zeros ih => exact ih

/-- Digits that denote a number are zeros, and then the digits of the number unless it is zero. -/
theorem zeros_of_natural {digits : List Char} (each : ∀ c ∈ digits, c.isDigit = true) :
    ∃ zeros, digits = List.replicate zeros '0' ++
      if natural 0 digits = 0 then [] else Nat.toDigits 10 (natural 0 digits) := by
  -- The last digit is taken off: the number before it is written in the same way.
  induction digits using List.reverseRecOn with
  | nil => exact ⟨0, rfl⟩
  | append_singleton others c ih =>
    obtain ⟨zeros, front⟩ := ih fun d earlier => each d (List.mem_append_left _ earlier)
    obtain ⟨small, same⟩ := digitChar_of_isDigit (each c (by simp))
    rw [natural_concat]
    generalize natural 0 others = value at front
    generalize c.toNat - '0'.toNat = digit at small same
    by_cases zero : value = 0
    · subst zero
      rw [if_pos rfl, List.append_nil] at front
      by_cases none_ : digit = 0
      · subst none_
        refine ⟨zeros + 1, ?_⟩
        rw [if_pos rfl, front, ← same, List.append_nil, List.replicate_succ']
        rfl
      · refine ⟨zeros, ?_⟩
        rw [if_neg (by omega), Nat.zero_mul, Nat.zero_add, Nat.toDigits_of_lt_base small, same, front]
    · refine ⟨zeros, ?_⟩
      rw [if_neg zero] at front
      have longer := Nat.toDigits_append_toDigits (b := 10) (by decide) (Nat.pos_of_ne_zero zero) small
      rw [if_neg (by omega), Nat.mul_comm value, ← longer, Nat.toDigits_of_lt_base small, same,
        ← List.append_assoc, ← front]

/-- Digits that make a whole number are those of the number. -/
theorem toDigits_natural {digits : List Char} (whole : IsWhole digits) :
    Nat.toDigits 10 (natural 0 digits) = digits := by
  obtain ⟨zeros, same⟩ := zeros_of_natural whole.numeral.2
  cases zeros with
  | zero =>
    rw [List.replicate_zero, List.nil_append] at same
    split at same
    · exact absurd same whole.numeral.1
    · exact same.symm
  | succ zeros =>
    -- A zero in front is the only digit.
    have front : digits.head? = some '0' := by
      rw [same]
      rfl
    rw [whole.lone front]
    rfl

/-- The digits of a number are read as the number. -/
theorem digits?_toDigits (value : Nat) : digits? (Nat.toDigits 10 value) = some value := by
  obtain ⟨some_, digits⟩ := isNumeral_toDigits value
  have all : (Nat.toDigits 10 value).all Char.isDigit = true := List.all_eq_true.mpr digits
  have solid : (Nat.toDigits 10 value).isEmpty = false := List.isEmpty_eq_false_iff.mpr some_
  rw [digits?, all, solid, natural_toDigits]
  rfl

/-- A digit is no sign. -/
theorem ne_sign_of_isDigit {c : Char} (digit : c.isDigit = true) : c ≠ '-' ∧ c ≠ '+' := by
  constructor <;> rintro rfl <;> cases digit

/-- The digits of a number of 63 bits are read as a signed word. -/
theorem signedWord?_toDigits {value : Nat} (small : value < 0x8000_0000_0000_0000) :
    signedWord? (Nat.toDigits 10 value) = some (value : Int) := by
  -- Digits have no sign, so they are read as they stand, and the bound keeps them in a signed word.
  have read := digits?_toDigits value
  have digits := (isNumeral_toDigits value).2
  generalize Nat.toDigits 10 value = letters at read digits
  have within : ((-0x8000_0000_0000_0000 : Int) ≤ (value : Int) &&
      (value : Int) ≤ 0x7FFF_FFFF_FFFF_FFFF) = true := by
    simp
    omega
  rw [signedWord?, integer?]
  · rw [read]
    simpa [Option.filter] using within
  · rintro rest rfl
    exact (ne_sign_of_isDigit (digits _ List.mem_cons_self)).1 rfl
  · rintro rest rfl
    exact (ne_sign_of_isDigit (digits _ List.mem_cons_self)).2 rfl

/-! ### Numbers with a point -/

/-- A finite number is neither undefined nor infinite. -/
theorem finite_of_isFinite {value : Float} (finite : value.isFinite = true) :
    value.isNaN = false ∧ value.isInf = false ∧ (value == 1.0 / 0.0) = false := by
  have infinite : (1.0 / 0.0 : Float).toModel.unpack = .infinity .positive := rfl
  have compared : (value == 1.0 / 0.0) =
      value.toModel.unpack.beq (1.0 / 0.0 : Float).toModel.unpack := rfl
  rw [compared, infinite]
  -- The tests look only at the kind of the number.
  change value.toModel.unpack.isFinite = true at finite
  change value.toModel.unpack.isNaN = false ∧ value.toModel.unpack.isInf = false ∧ _
  cases kind : value.toModel.unpack with
  | infinity sign =>
    rw [kind] at finite
    cases finite
  | notANumber =>
    rw [kind] at finite
    cases finite
  | zero sign => exact ⟨rfl, rfl, by cases sign <;> rfl⟩
  | finite sign mantissa exponent positive => exact ⟨rfl, rfl, by cases sign <;> rfl⟩

/-- Numerals in a row are a numeral. -/
theorem IsNumeral.append {first second : List Char} (numeral : IsNumeral first)
    (digits : ∀ c ∈ second, c.isDigit = true) : IsNumeral (first ++ second) := by
  refine ⟨by simp [numeral.1], fun c member => ?_⟩
  rcases List.mem_append.mp member with early | late
  · exact numeral.2 c early
  · exact digits c late

/-- Zeros in a row are digits. -/
theorem isDigit_of_mem_zeros {count : Nat} : ∀ c ∈ List.replicate count '0', c.isDigit = true := by
  intro c member
  rw [List.eq_of_mem_replicate member]
  rfl

/-- A zero alone is a whole number. -/
theorem isWhole_zero : IsWhole ['0'] :=
  ⟨⟨List.cons_ne_nil _ _, @isDigit_of_mem_zeros 1⟩, fun _ => rfl⟩

/-- Without an exponent, digits are written on both sides of a point.

A lone zero must not be moved to the left of it. -/
theorem positionalText_toml {digits : List Char} {point : Int} (whole : IsWhole digits)
    (lone : digits = ['0'] → point ≤ 1) :
    ∃ front behind, (positionalText toml digits point).toList = front ++ '.' :: behind ∧
      IsWhole front ∧ IsNumeral behind ∧ front.length ≤ max 1 point.toNat := by
  -- Where the point stands among the digits decides which side needs zeros.
  have long : 0 < digits.length := List.length_pos_iff.mpr whole.numeral.1
  have keeps : (if toml.keepsPoint then ".0" else "") = ".0" := rfl
  unfold positionalText
  simp only [keeps]
  split
  · -- All digits stand behind the point.
    rename_i small
    refine ⟨['0'], List.replicate (-point).toNat '0' ++ digits, ?_, isWhole_zero,
      ⟨by simp [whole.numeral.1], fun c member => ?_⟩, Nat.le_max_left _ _⟩
    · simp [zeros]
    · rcases List.mem_append.mp member with zero | digit
      · exact isDigit_of_mem_zeros c zero
      · exact whole.numeral.2 c digit
  split
  · -- All digits stand before the point.
    rename_i positive within
    refine ⟨digits ++ List.replicate (point.toNat - digits.length) '0', ['0'], ?_,
      ⟨whole.numeral.append isDigit_of_mem_zeros, fun front => ?_⟩, isWhole_zero.numeral, ?_⟩
    · simp [zeros]
    · -- A zero in front is the only digit, so no zeros are put behind it.
      have single : digits = ['0'] := by
        apply whole.lone
        rwa [List.head?_append, List.head?_eq_some_head whole.numeral.1, Option.some_or,
          ← List.head?_eq_some_head whole.numeral.1] at front
      have near := lone single
      have none_ : point.toNat - digits.length = 0 := by omega
      rw [none_, single]
      rfl
    · simp only [List.length_append, List.length_replicate]
      omega
  · -- The point stands between two digits.
    rename_i positive beyond
    have parted := List.take_append_drop point.toNat digits
    have before : digits.take point.toNat ≠ [] := by
      rw [← List.length_pos_iff, List.length_take]
      omega
    refine ⟨digits.take point.toNat, digits.drop point.toNat, ?_,
      ⟨⟨before, fun c member => whole.numeral.2 c (List.mem_of_mem_take member)⟩, fun front => ?_⟩,
      ⟨?_, fun c member => whole.numeral.2 c (List.mem_of_mem_drop member)⟩, ?_⟩
    · simp
    · -- A zero in front would be the only digit, and the point could not stand behind it.
      have head : digits.head? = some '0' := by
        rw [← parted, List.head?_append, front]
        rfl
      rw [whole.lone head, List.length_singleton] at beyond
      omega
    · rw [← List.length_pos_iff, List.length_drop]
      omega
    · rw [List.length_take]
      omega

/-! ### The shortest digits -/

/-- A fraction is as positive as its number, and its lower part is always positive. -/
theorem fraction_pos (value base : Nat) (positive : 0 < base) (exponent : Int) :
    0 < (fraction value base exponent).2 ∧ (0 < value → 0 < (fraction value base exponent).1) := by
  cases exponent with
  | ofNat up => exact ⟨Nat.one_pos, fun some_ => Nat.mul_pos some_ (Nat.pow_pos positive)⟩
  | negSucc down => exact ⟨Nat.pow_pos positive, fun some_ => some_⟩

/-- Zero lies below the reals that round to a number other than zero. -/
theorem holds_zero {value : Binary} (positive : 0 < value.significand) (exponent : Int) :
    value.interval.holds ⟨0, exponent⟩ = false := by
  -- The lower end of these reals is positive, and zero lies below every positive fraction.
  have low : 0 < value.interval.low.significand := by
    unfold Binary.interval
    simp only []
    split <;> simp only [] <;> omega
  have zero : (fraction 0 10 exponent).1 = 0 := by
    cases exponent with
    | ofNat up => exact Nat.zero_mul _
    | negSucc down => rfl
  obtain ⟨down, -⟩ := fraction_pos 0 10 (by decide) exponent
  obtain ⟨-, up⟩ := fraction_pos value.interval.low.significand 2 (by decide) value.interval.low.exponent
  have above := Nat.mul_pos (up low) down
  have below (strict : Bool) : Digits.ge ⟨0, exponent⟩ value.interval.low strict = false := by
    unfold Digits.ge
    simp only [zero, Nat.zero_mul, Nat.not_lt_zero, decide_false]
    split
    · rfl
    · simp only [decide_eq_false_iff_not]
      omega
  rw [Interval.holds, below, Bool.false_and]

/-- Digits of a given count lie among the reals that round to the number. -/
theorem onGrid?_holds {value : Binary} {count : Nat} {decimal : Digits}
    (found : value.onGrid? count = some decimal) : value.interval.holds decimal = true := by
  -- Whichever of the two neighbours is answered, it was looked at.
  unfold Binary.onGrid? at found
  simp only [] at found
  repeat' split at found
  all_goals cases found
  all_goals assumption

/-- Digits that read back as a number other than zero are not all zero. -/
theorem onGrid?_digits {value : Binary} (positive : 0 < value.significand) {count : Nat}
    {decimal : Digits} (found : value.onGrid? count = some decimal) : decimal.digits ≠ 0 := by
  have held := onGrid?_holds found
  intro zero
  obtain ⟨digits, exponent⟩ := decimal
  cases zero
  rw [holds_zero positive] at held
  cases held

/-- Zeros at the end may be taken away. -/
theorem strip_digits {decimal : Digits} (some_ : decimal.digits ≠ 0) (fuel : Nat) :
    (decimal.strip fuel).digits ≠ 0 := by
  induction fuel generalizing decimal with
  | zero => exact some_
  | succ fuel ih =>
    rw [Digits.strip]
    split
    · -- A positive multiple of ten stays positive when it is divided by ten.
      rename_i ends
      simp only [Bool.and_eq_true, beq_iff_eq, bne_iff_ne] at ends
      exact ih (by simp only []; omega)
    · exact some_

/-- The shortest digits of a number other than zero are not moved when they are zero. -/
theorem shortest_digits {value : Binary} (positive : 0 < value.significand)
    (zero : value.shortest.digits = 0) : value.shortest.exponent = 0 := by
  unfold Binary.shortest at zero ⊢
  split at zero
  · rename_i decimal found
    obtain ⟨count, -, answered⟩ := List.exists_of_findSome?_eq_some found
    exact absurd zero (strip_digits (onGrid?_digits positive answered) 20)
  · rfl

/-- The shortest digits of a number other than zero are written on both sides of a point. -/
theorem positionalText_shortest {value : Binary} (positive : 0 < value.significand) :
    let digits := Nat.toDigits 10 value.shortest.digits
    let point := value.shortest.exponent + digits.length
    ∃ front behind, (positionalText toml digits point).toList = front ++ '.' :: behind ∧
      IsWhole front ∧ IsNumeral behind ∧ front.length ≤ max 1 point.toNat := by
  intro digits point
  refine positionalText_toml (isWhole_toDigits _) fun lone => ?_
  have zero : value.shortest.digits = 0 := by
    have read : natural 0 digits = value.shortest.digits := natural_toDigits _
    rw [lone] at read
    exact read.symm
  have single : digits.length = 1 := by rw [lone, List.length_singleton]
  have unmoved := shortest_digits positive zero
  omega

/-- A finite number is written with a point, digits on both sides of it, and a sign where it has one. -/
theorem write_toml {value : Float} (finite : value.isFinite = true) :
    ∃ sign front behind, (toml.write value).toList = sign ++ front ++ '.' :: behind ∧
      (sign = [] ∨ sign = ['-']) ∧ IsWhole front ∧ IsNumeral behind := by
  obtain ⟨defined, bounded, -⟩ := finite_of_isFinite finite
  have written : toml.write value =
      (if isNegative value then "-" else "") ++ magnitudeText toml value := by
    rw [Layout.write, defined, bounded]
    rfl
  have sign : (if isNegative value then "-" else "").toList = [] ∨
      (if isNegative value then "-" else "").toList = ['-'] := by
    split
    · exact .inr rfl
    · exact .inl rfl
  obtain ⟨front, behind, spelled, whole, numeral⟩ : ∃ front behind,
      (magnitudeText toml value).toList = front ++ '.' :: behind ∧ IsWhole front ∧
        IsNumeral behind := by
    unfold magnitudeText
    split
    · -- Zero has no shortest digits, and is written by itself.
      exact ⟨['0'], ['0'], rfl, isWhole_zero, isWhole_zero.numeral⟩
    · rename_i nonzero
      have positive : 0 < (magnitude value).significand := by
        simp only [beq_iff_eq] at nonzero
        omega
      obtain ⟨front, behind, spelled, whole, numeral, -⟩ := positionalText_shortest positive
      exact ⟨front, behind, spelled, whole, numeral⟩
  exact ⟨_, front, behind, by rw [written, String.toList_append, spelled, List.append_assoc], sign,
    whole, numeral⟩

end Placard.Decimal

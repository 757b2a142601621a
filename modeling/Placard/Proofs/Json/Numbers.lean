import Mathlib.Data.List.TakeWhile
import Placard.Proofs.Json.Grammar

/-! Numbers in JSON text: whole numbers are read as they are, and only literals are read at all. -/

namespace Placard.Json

/-! ### Digits -/

/-- A text does not begin with a digit. -/
def NoDigit (text : List Char) : Prop :=
  ∀ c, text.head? = some c → c.isDigit = false

/-- What continues no number begins with no digit. -/
theorem Ended.noDigit {text : List Char} (ended : Ended text) : NoDigit text :=
  fun c front => (ended c front).1

/-- Digits are all of the digits in front of what ends a number. -/
theorem takeWhile_digits {digits rest : List Char} (all : ∀ c ∈ digits, c.isDigit = true)
    (stop : NoDigit rest) : (digits ++ rest).takeWhile Char.isDigit = digits := by
  rw [List.takeWhile_append_of_pos all]
  cases rest with
  | nil => exact List.append_nil digits
  | cons c rest => rw [List.takeWhile_cons_of_neg (by simp [stop c rfl]), List.append_nil]

/-- The digits that are kept are the same whatever stands behind them. -/
theorem takeDigits_stop {rest : List Char} (stop : NoDigit rest) (value : Nat) (text : List Char) :
    takeDigits value (text ++ rest) =
      ((takeDigits value text).1, (takeDigits value text).2 ++ rest) := by
  induction text generalizing value with
  | nil =>
    cases rest with
    | nil => rfl
    | cons c rest => simp [takeDigits, stop c rfl]
  | cons c text ih =>
    rw [List.cons_append, takeDigits, takeDigits]
    split
    · exact ih _
    · rfl

/-- Digits are all kept when their number has 64 bits. -/
theorem takeDigits_natural {digits : List Char} (all : ∀ c ∈ digits, c.isDigit = true) {start : Nat}
    (small : Decimal.natural start digits ≤ maxWord) :
    takeDigits start digits = (Decimal.natural start digits, []) := by
  induction digits generalizing start with
  | nil => rfl
  | cons c digits ih =>
    have next : Decimal.natural start (c :: digits) =
        Decimal.natural (start * 10 + (c.toNat - '0'.toNat)) digits := rfl
    rw [next] at small ⊢
    have within := Nat.le_trans (Decimal.le_natural _ digits) small
    have digit := all c List.mem_cons_self
    simp only [takeDigits, digit, within, decide_true, Bool.and_self, if_true]
    exact ih (fun d member => all d (List.mem_cons_of_mem _ member)) small

/-- What is read off the front of a text as digits is digits. -/
theorem takeDigits_append (start : Nat) (text : List Char) :
    ∃ taken, text = taken ++ (takeDigits start text).2 ∧ ∀ c ∈ taken, c.isDigit = true := by
  induction text generalizing start with
  | nil => exact ⟨[], rfl, by simp⟩
  | cons c rest ih =>
    simp only [takeDigits]
    split
    · rename_i fits
      obtain ⟨taken, same, all⟩ := ih (start * 10 + (c.toNat - '0'.toNat))
      rw [Bool.and_eq_true] at fits
      refine ⟨c :: taken, congrArg (c :: ·) same, ?_⟩
      simpa [fits.1] using all
    · exact ⟨[], rfl, by simp⟩

/-- Of digits some are kept, and the others only count. -/
theorem takeDigits_numeral {digits after : List Char} (all : ∀ c ∈ digits, c.isDigit = true)
    (stop : NoDigit after) (value : Nat) :
    let kept := takeDigits value digits
    takeDigits value (digits ++ after) = (kept.1, kept.2 ++ after) ∧
      (kept.2 ++ after).takeWhile Char.isDigit = kept.2 ∧
      (kept.2 ++ after).drop kept.2.length = after := by
  intro kept
  obtain ⟨taken, same, -⟩ := takeDigits_append value digits
  refine ⟨takeDigits_stop stop value digits, takeWhile_digits (fun c among => all c ?_) stop,
    List.drop_left⟩
  rw [same]
  exact List.mem_append_right taken among

/-- The digits that are kept and those that only count are all digits in front of a text. -/
theorem digits_append (start : Nat) (text : List Char) :
    let tail := (takeDigits start text).2
    text = text.takeWhile Char.isDigit ++ tail.drop (tail.takeWhile Char.isDigit).length := by
  intro tail
  obtain ⟨taken, same, all⟩ := takeDigits_append start text
  have whole : text.takeWhile Char.isDigit = taken ++ tail.takeWhile Char.isDigit :=
    (congrArg (List.takeWhile Char.isDigit) same).trans (List.takeWhile_append_of_pos all)
  rw [whole, List.append_assoc, List.prefix_iff_eq_append.mp (List.takeWhile_prefix _)]
  exact same

/-- The digits in front of a text that begins with a digit are a numeral. -/
theorem isNumeral_takeWhile {c : Char} (digit : c.isDigit = true) (rest : List Char) :
    Decimal.IsNumeral ((c :: rest).takeWhile Char.isDigit) :=
  ⟨by simp [digit], fun _ member => List.mem_takeWhile_imp member⟩

/-! ### Whole numbers are read as they are -/

/-- Without a fraction and without an exponent, a number is whole. -/
theorem readScale_ended {rest : List Char} (ended : Ended rest) (negative : Bool) (size : Nat) :
    readScale negative size 0 rest =
      if !negative then .ok (.integer size, rest)
      else if size == 0 || 0x8000_0000_0000_0000 < size then
        .ok (.float (-size.toUInt64.toFloat), rest)
      else .ok (.integer (-(size : Int)), rest) := by
  unfold readScale
  split
  · exact absurd rfl (ended _ rfl).2.1
  · exact absurd rfl (ended _ rfl).2.2.1
  · exact absurd rfl (ended _ rfl).2.2.2
  · rfl

/-- The digits before the point are kept as far as they have 64 bits, and the others only count. -/
theorem readNumber_eq {negative : Bool} {whole after : List Char} (isWhole : Decimal.IsWhole whole)
    (stop : NoDigit after) :
    readNumber negative (whole ++ after) =
      readScale negative (takeDigits 0 whole).1 (takeDigits 0 whole).2.length after := by
  obtain ⟨taken, beyond, left⟩ := takeDigits_numeral isWhole.numeral.2 stop 0
  obtain ⟨c, others, front⟩ := List.exists_cons_of_ne_nil isWhole.numeral.1
  by_cases zero : c = '0'
  · -- A zero in front stands alone.
    subst zero
    rw [isWhole.lone (front ▸ rfl)]
    cases after with
    | nil => rfl
    | cons d after =>
      simp only [List.cons_append, List.nil_append, readNumber, stop d rfl, Bool.false_eq_true, if_false]
      rfl
  · have digit := isWhole.numeral.2 c (front ▸ List.mem_cons_self)
    rw [front] at taken beyond left ⊢
    rw [List.cons_append] at taken ⊢
    rw [readNumber.eq_4 _ _ _ (fun same => absurd same zero), digit, taken]
    simp [beyond, left]

/-- The digits of a number of 64 bits are read before anything that may follow them. -/
theorem readNumber_digits (negative : Bool) {size : Nat} (small : size ≤ maxWord) {rest : List Char}
    (ended : Ended rest) :
    readNumber negative (Nat.toDigits 10 size ++ rest) = readScale negative size 0 rest := by
  have denoted := Decimal.natural_toDigits size
  have kept := takeDigits_natural (Decimal.isNumeral_toDigits size).2 (denoted.symm ▸ small)
  rw [readNumber_eq (Decimal.isWhole_toDigits size) ended.noDigit, kept, denoted]
  rfl

/-- A whole number of 64 bits is read in its decimal. -/
theorem readNumber_nat {size : Nat} (small : size ≤ maxWord) {rest : List Char} (ended : Ended rest) :
    readNumber false (Nat.toDigits 10 size ++ rest) = .ok (.integer size, rest) := by
  rw [readNumber_digits false small ended, readScale_ended ended]
  rfl

/-- A negative number of 64 bits is read behind its sign. -/
theorem readNumber_neg {size : Nat} (positive : 0 < size) (small : size ≤ 0x8000_0000_0000_0000)
    {rest : List Char} (ended : Ended rest) :
    readNumber true (Nat.toDigits 10 size ++ rest) = .ok (.integer (-(size : Int)), rest) := by
  have within : size ≤ maxWord := Nat.le_trans small (by decide)
  -- Only a negative zero, or a number below the least of 64 bits, becomes a floating-point number.
  have kept : (size == 0 || decide (0x8000_0000_0000_0000 < size)) = false := by
    simp only [Bool.or_eq_false_iff, beq_eq_false_iff_ne, decide_eq_false_iff_not]
    omega
  rw [readNumber_digits true within ended, readScale_ended ended, kept]
  rfl

/-! ### Only literals are read -/

/-- Scaling a number reads nothing. -/
theorem floatOf_rest {negative : Bool} {significand : Nat} {exponent : Int} {rest after : List Char}
    {value : Number} (read : floatOf negative significand exponent rest = .ok (value, after)) :
    after = rest := by
  unfold floatOf at read
  split at read
  · cases read
    rfl
  · cases read

/-- What is read behind the mark of an exponent is a sign and digits. -/
theorem readExponent_sound {negative : Bool} {significand : Nat} {start : Int} {text rest : List Char}
    {value : Number} (read : readExponent negative significand start text = .ok (value, rest)) :
    ∃ turn digits, text = turn ++ digits ++ rest ∧ (turn = [] ∨ turn = ['+'] ∨ turn = ['-']) ∧
      Decimal.IsNumeral digits := by
  unfold readExponent at read
  split at read
  rename_i down unsigned parted
  -- A sign is taken off where there is one.
  have signed : ∃ turn, text = turn ++ unsigned ∧ (turn = [] ∨ turn = ['+'] ∨ turn = ['-']) := by
    split at parted <;> cases parted
    · exact ⟨['+'], rfl, .inr (.inl rfl)⟩
    · exact ⟨['-'], rfl, .inr (.inr rfl)⟩
    · exact ⟨[], rfl, .inl rfl⟩
  obtain ⟨turn, rfl, sign⟩ := signed
  split at read
  · cases read
  · rename_i c others
    split at read
    · cases read
    · rename_i digit
      have isDigit : c.isDigit = true := by simpa using digit
      -- Whatever becomes of the exponent, reading goes on behind its digits.
      have left : rest = (c :: others).drop ((c :: others).takeWhile Char.isDigit).length := by
        simp only [] at read
        split at read
        · split at read <;> cases read
          rfl
        · exact floatOf_rest read
      refine ⟨turn, _, ?_, sign, isNumeral_takeWhile isDigit others⟩
      rw [List.append_assoc, left, List.prefix_iff_eq_append.mp (List.takeWhile_prefix _)]

/-- What is read from the mark of an exponent on is the text of an exponent. -/
private theorem exponent_sound {mark : Char} (marked : mark = 'e' ∨ mark = 'E') {negative : Bool}
    {significand : Nat} {start : Int} {text rest : List Char} {value : Number}
    (read : readExponent negative significand start text = .ok (value, rest)) :
    ∃ exponent, mark :: text = exponent ++ rest ∧ ExponentText exponent := by
  obtain ⟨turn, digits, rfl, sign, numeral⟩ := readExponent_sound read
  exact ⟨mark :: turn ++ digits, by simp, .inr ⟨mark, turn, digits, rfl, marked, sign, numeral⟩⟩

/-- What is read behind a point is digits, and perhaps an exponent. -/
theorem readFraction_sound {negative : Bool} {significand : Nat} {start : Int} {text rest : List Char}
    {value : Number} (read : readFraction negative significand start text = .ok (value, rest)) :
    ∃ digits exponent, text = digits ++ exponent ++ rest ∧ Decimal.IsNumeral digits ∧
      ExponentText exponent := by
  have parted := digits_append significand text
  unfold readFraction at read
  split at read
  rename_i kept tail taken
  rw [taken] at parted
  simp only [] at parted read
  split at read
  · cases read
  · rename_i c others
    split at read
    · cases read
    · rename_i digit
      have isDigit : c.isDigit = true := by simpa using digit
      have numeral := isNumeral_takeWhile isDigit others
      generalize tail.drop (tail.takeWhile Char.isDigit).length = after at parted read
      generalize (c :: others).takeWhile Char.isDigit = digits at parted numeral
      rw [parted]
      -- Behind the digits stands an exponent with a small or a large mark, or none.
      split at read
      · obtain ⟨exponent, same, shown⟩ := exponent_sound (.inl rfl) read
        exact ⟨digits, exponent, by rw [same, List.append_assoc], numeral, shown⟩
      · obtain ⟨exponent, same, shown⟩ := exponent_sound (.inr rfl) read
        exact ⟨digits, exponent, by rw [same, List.append_assoc], numeral, shown⟩
      · rw [floatOf_rest read]
        exact ⟨digits, [], by simp, numeral, .inl rfl⟩

/-- What is read behind the digits of a number is a fraction and an exponent. -/
theorem readScale_sound {negative : Bool} {significand : Nat} {start : Int} {text rest : List Char}
    {value : Number} (read : readScale negative significand start text = .ok (value, rest)) :
    ∃ fraction exponent, text = fraction ++ exponent ++ rest ∧ FractionText fraction ∧
      ExponentText exponent := by
  unfold readScale at read
  split at read
  · obtain ⟨digits, exponent, rfl, numeral, shown⟩ := readFraction_sound read
    exact ⟨'.' :: digits, exponent, by simp, .inr ⟨digits, rfl, numeral⟩, shown⟩
  · obtain ⟨exponent, same, shown⟩ := exponent_sound (.inl rfl) read
    exact ⟨[], exponent, same, .inl rfl, shown⟩
  · obtain ⟨exponent, same, shown⟩ := exponent_sound (.inr rfl) read
    exact ⟨[], exponent, same, .inl rfl, shown⟩
  · -- Without a fraction and an exponent, nothing is read.
    have left : rest = text := by
      split at read
      · exact floatOf_rest read
      · repeat' split at read
        all_goals
          cases read
          rfl
    exact ⟨[], [], by rw [left]; rfl, .inl rfl, .inl rfl⟩

/-- What is read as a number, behind its sign, is a literal. -/
theorem readNumber_sound {negative : Bool} {text rest : List Char} {value : Number}
    (read : readNumber negative text = .ok (value, rest)) :
    ∃ literal, text = literal ++ rest ∧
      NumberText ((if negative then ['-'] else []) ++ literal) := by
  -- The digits before the point are a zero alone, or do not begin with one.
  have whole : ∃ digits significand start after, text = digits ++ after ∧ Decimal.IsWhole digits ∧
      readScale negative significand start after = .ok (value, rest) := by
    unfold readNumber at read
    split at read
    · cases read
    · -- A zero stands alone: a digit behind it is a fault.
      rename_i others
      refine ⟨['0'], 0, 0, others, rfl, Decimal.isWhole_zero, ?_⟩
      split at read
      · split at read
        · cases read
        · exact read
      · exact read
    · rename_i c others nonzero
      split at read
      · cases read
      · rename_i digit
        have isDigit : c.isDigit = true := by simpa using digit
        have parted := digits_append 0 (c :: others)
        have front : ((c :: others).takeWhile Char.isDigit).head? = some c := by
          simp [isDigit]
        refine ⟨_, _, _, _, parted, ⟨isNumeral_takeWhile isDigit others, fun zero => ?_⟩, read⟩
        rw [front] at zero
        exact absurd (Option.some.inj zero) nonzero
  obtain ⟨digits, significand, start, after, rfl, isWhole, scaled⟩ := whole
  obtain ⟨fraction, exponent, rfl, fractional, shown⟩ := readScale_sound scaled
  refine ⟨digits ++ fraction ++ exponent, by simp, if negative then ['-'] else [], digits, fraction, exponent,
    by simp, ?_, isWhole, fractional, shown⟩
  cases negative
  · exact .inl rfl
  · exact .inr rfl

end Placard.Json

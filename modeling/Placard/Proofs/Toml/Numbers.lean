import Placard.Proofs.Decimal.Numeral
import Placard.Proofs.Except
import Placard.Toml.Number

/-! TOML numbers: a written number is taken for no date and no other kind of number, and reads back. -/

namespace Placard.Toml

open Placard.Decimal

/-! ### Giving up -/

/-- Reading gives up, so that the same characters may be read as something else. -/
def Declines {α : Type} (read : Except Halt α) : Prop := ∃ left, read = .error ⟨left, false⟩

/-- What the first way gives up is read in the second way. -/
theorem orElse_of_declines {α : Type} {first : Except Halt α} (declined : Declines first)
    (second : Unit → Except Halt α) : orElse first second = second () := by
  obtain ⟨left, rfl⟩ := declined
  rfl

/-- Reading that gives up in its first step gives up. -/
theorem Declines.bind {α β : Type} {first : Except Halt α} (declined : Declines first)
    (next : α → Except Halt β) : Declines (first >>= next) := by
  obtain ⟨left, rfl⟩ := declined
  exact ⟨left, rfl⟩

/-! ### Numbers are no dates and no times -/

section Digits

variable {digits rest : List Char} {mark : Char} (ends : mark.isDigit = false)

include ends in
/-- A number of a fixed count of digits leaves the other digits of a row. -/
theorem readField_digits (count low high : Nat) :
    Declines (readField count low high (digits ++ mark :: rest)) ∨
      count ≤ digits.length ∧ ∃ value, readField count low high (digits ++ mark :: rest) =
        .ok (value, digits.drop count ++ mark :: rest) := by
  by_cases enough : count ≤ digits.length
  · unfold readField
    simp only []
    split
    · exact .inr ⟨enough, _, by rw [List.drop_append_of_le_length enough]⟩
    · exact .inl ⟨_, rfl⟩
  · -- The character behind the digits is looked at, and it is no digit.
    have looked : mark ∈ (digits ++ mark :: rest).take count := by
      obtain ⟨more, rfl⟩ : ∃ more, count = digits.length + (more + 1) :=
        ⟨count - digits.length - 1, by omega⟩
      simp [List.take_append]
    have refused : ((digits ++ mark :: rest).take count).all Char.isDigit = false := by
      rw [List.all_eq_false]
      exact ⟨mark, looked, by simp [ends]⟩
    unfold readField
    simp only [refused, Bool.and_false, Bool.false_and, Bool.false_eq_true, if_false]
    exact .inl ⟨_, rfl⟩

/-- A mark that is no digit is not read where digits are, nor where another mark is. -/
theorem readMark_declines {wanted : Char} (solid : wanted.isDigit = false) (other : mark ≠ wanted)
    (numeral : ∀ c ∈ digits, c.isDigit = true) :
    Declines (readMark wanted (digits ++ mark :: rest)) := by
  -- In front stands a digit, or the mark itself where there are no digits.
  have different : ((digits ++ mark :: rest).head? == some wanted) = false := by
    cases digits with
    | nil => simpa using other
    | cons c more =>
      have digit := numeral c List.mem_cons_self
      simp only [List.cons_append, List.head?_cons, beq_eq_false_iff_ne, ne_eq, Option.some.injEq]
      rintro rfl
      rw [digit] at solid
      cases solid
  rw [readMark, different]
  exact ⟨_, rfl⟩

include ends in
/-- Digits without a mark of dates and times behind them are no date and no time. -/
theorem readMoment_declines (numeral : ∀ c ∈ digits, c.isDigit = true)
    (unmarked : digits = [] ∨ mark ≠ '-' ∧ mark ≠ ':') :
    Declines (readMoment (digits ++ mark :: rest)) := by
  -- Both begin with a number of a fixed count of digits and a mark.
  have field (count low high : Nat) (some_ : 0 < count) {wanted : Char}
      (solid : wanted.isDigit = false) (other : mark ≠ '-' ∧ mark ≠ ':' → mark ≠ wanted)
      {α : Type} (next : Nat × List Char → List Char → Except Halt α) :
      Declines (readField count low high (digits ++ mark :: rest) >>= fun read =>
        readMark wanted read.2 >>= next read) := by
    rcases readField_digits ends count low high with declined | ⟨enough, value, read⟩
    · exact declined.bind _
    · -- What stands behind the count of digits is another digit, or the character after them.
      rw [read, ok_bind]
      have others : ∀ c ∈ digits.drop count, c.isDigit = true := fun c member =>
        numeral c (List.mem_of_mem_drop member)
      rcases unmarked with rfl | unmarked
      · simp at enough
        omega
      · exact (readMark_declines solid (other unmarked) others).bind _
  have date : Declines (readDate (digits ++ mark :: rest)) :=
    field 4 0 9999 (by decide) (by decide) (fun unmarked => unmarked.1) _
  have time : Declines (readTime (digits ++ mark :: rest)) :=
    field 2 0 23 (by decide) (by decide) (fun unmarked => unmarked.2) _
  rw [readMoment]
  rw [orElse_of_declines (date.bind _)]
  exact time.bind _

end Digits

/-! ### Digits -/

section Numeral

variable {digits rest : List Char} {next : Char} (ends : next.isDigit = false) (solid : next ≠ '_')

include ends solid in
/-- Further digits are read up to what is no digit. -/
theorem moreDigits_append (numeral : ∀ c ∈ digits, c.isDigit = true) :
    moreDigits Char.isDigit (digits ++ next :: rest) = .ok (digits, next :: rest) := by
  -- A digit is taken and never an underscore, which alone could lead on without being a digit.
  induction digits with
  | nil =>
    rw [List.nil_append, moreDigits, ends]
    · rfl
    · rintro rfl
      exact fun _ => solid rfl
    · rintro _ _ rfl
      exact fun _ => solid rfl
  | cons c digits ih =>
    have digit := numeral c List.mem_cons_self
    have score : c ≠ '_' := by
      rintro rfl
      cases digit
    rw [List.cons_append, moreDigits, digit, if_pos rfl,
      ih fun c member => numeral c (List.mem_cons_of_mem _ member)]
    · rfl
    · exact fun same => absurd same score
    · exact fun _ _ same => absurd same score

include ends solid in
/-- Digits are read up to what is no digit. -/
theorem readDigits_append (numeral : IsNumeral digits) :
    readDigits Char.isDigit (digits ++ next :: rest) = .ok (digits, next :: rest) := by
  cases digits with
  | nil => exact absurd rfl numeral.1
  | cons c digits =>
    rw [List.cons_append, readDigits, numeral.2 c List.mem_cons_self, if_pos rfl,
      moreDigits_append ends solid fun c member => numeral.2 c (List.mem_cons_of_mem _ member)]
    rfl

/-- The sign in front of a numeral is taken off. -/
theorem takeSign_append {sign : List Char} (signed : sign = [] ∨ sign = ['-'])
    (numeral : IsNumeral digits) (rest : List Char) :
    takeSign (sign ++ (digits ++ rest)) = (sign, digits ++ rest) := by
  -- Digits are no signs, so without a sign nothing is taken off.
  rcases signed with rfl | rfl
  · cases digits with
    | nil => exact absurd rfl numeral.1
    | cons c digits =>
      obtain ⟨minus, plus⟩ := ne_sign_of_isDigit (numeral.2 c List.mem_cons_self)
      rw [List.nil_append, takeSign]
      · exact fun _ same => plus (List.cons.inj same).1
      · exact fun _ same => minus (List.cons.inj same).1
  · rfl

include ends solid in
/-- The digits of a whole number are read with their sign. -/
theorem readWhole_append {sign : List Char} (signed : sign = [] ∨ sign = ['-'])
    (whole : IsWhole digits) :
    readWhole (sign ++ (digits ++ next :: rest)) = .ok (sign ++ digits, next :: rest) := by
  rw [readWhole, takeSign_append signed whole.numeral]
  by_cases lone : digits.head? = some '0'
  · -- A zero in front stands alone, and is read at once.
    rw [whole.lone lone]
    rfl
  · have read : readDigits Char.isDigit (digits ++ next :: rest) = .ok (digits, next :: rest) :=
      readDigits_append ends solid whole.numeral
    -- Digits that do not begin with a zero take the second way.
    have front : ∀ behind, digits ++ next :: rest ≠ '0' :: behind := by
      intro behind same
      cases digits with
      | nil => exact whole.numeral.1 rfl
      | cons c digits =>
        rw [List.cons_append] at same
        exact lone (by rw [(List.cons.inj same).1]; rfl)
    simp only []
    rw [read]
    rfl

end Numeral

/-- What begins with a digit names neither infinity nor the undefined number. -/
theorem readNamed_declines {digits : List Char} (numeral : IsNumeral digits) (rest : List Char) :
    Declines (readNamed (digits ++ rest)) := by
  have unsigned : takeSign (digits ++ rest) = ([], digits ++ rest) :=
    takeSign_append (.inl rfl) numeral rest
  rw [readNamed, unsigned]
  cases digits with
  | nil => exact absurd rfl numeral.1
  | cons c digits =>
    -- The names begin with letters, and a digit is none.
    have digit := numeral.2 c List.mem_cons_self
    simp only [List.cons_append]
    split
    · rename_i same
      rw [(List.cons.inj same).1] at digit
      cases digit
    · rename_i same
      rw [(List.cons.inj same).1] at digit
      cases digit
    · exact ⟨_, rfl⟩

/-! ### Written numbers -/

/-- A whole number that ends its line is no number with a point or an exponent. -/
theorem readFloat_declines {digits : List Char} (whole : IsWhole digits) (rest : List Char) :
    Declines (readFloat (digits ++ '\n' :: rest)) := by
  have read : readWhole (digits ++ '\n' :: rest) = .ok (digits, '\n' :: rest) :=
    readWhole_append (by decide) (by decide) (.inl rfl) whole
  -- Behind the digits the line ends, where a point or an exponent would have to be.
  have decimal : Declines (readDecimal (digits ++ '\n' :: rest)) := by
    rw [readDecimal, read]
    exact ⟨_, rfl⟩
  obtain ⟨left, stopped⟩ := decimal
  rw [readFloat, stopped]
  exact readNamed_declines whole.numeral _

/-- A whole number that ends its line is read in the base ten. -/
theorem readInteger_toDigits {value : Nat} (small : value < 0x8000_0000_0000_0000) (rest : List Char) :
    readInteger (Nat.toDigits 10 value ++ '\n' :: rest) = .ok (.integer value, '\n' :: rest) := by
  have whole := isWhole_toDigits value
  have read : readWhole (Nat.toDigits 10 value ++ '\n' :: rest) =
      .ok (Nat.toDigits 10 value, '\n' :: rest) :=
    readWhole_append (by decide) (by decide) (.inl rfl) whole
  have word := signedWord?_toDigits small
  generalize Nat.toDigits 10 value = digits at *
  -- Behind a zero in front the line ends, so no mark of a base stands there.
  have based (mark : Char) (behind : List Char) (other : mark ≠ '\n') :
      digits ++ '\n' :: rest ≠ '0' :: mark :: behind := by
    intro same
    have lone : digits = ['0'] := by
      apply whole.lone
      cases digits with
      | nil => exact absurd rfl whole.numeral.1
      | cons c others => rw [(List.cons.inj same).1]; rfl
    rw [lone] at same
    exact other (List.cons.inj (List.cons.inj same).2).1.symm
  rw [readInteger]
  · rw [read, ok_bind]
    simp only [word]
    rfl
  · exact fun behind => based 'x' behind (by decide)
  · exact fun behind => based 'o' behind (by decide)
  · exact fun behind => based 'b' behind (by decide)

/-- A whole number of 63 bits that ends its line is read from its digits. -/
theorem readNumber_toDigits {value : Nat} (small : value < 0x8000_0000_0000_0000) (rest : List Char) :
    readNumber (Nat.toDigits 10 value ++ '\n' :: rest) = .ok (.integer value, '\n' :: rest) := by
  -- No date, no time and no float is read first, so the digits are left for the whole number.
  have whole := isWhole_toDigits value
  have moment : Declines (readMoment (Nat.toDigits 10 value ++ '\n' :: rest)) :=
    readMoment_declines (by decide) whole.numeral.2 (.inr (by decide))
  rw [readNumber, orElse_of_declines moment, orElse_of_declines (readFloat_declines whole rest),
    readInteger_toDigits small]

/-- A finite number that ends its line is read from its text, if its decimals denote it. -/
theorem readNumber_writeFloat {value : Float} (finite : value.isFinite = true)
    (exact_ : Decimal.float? (Decimal.toml.write value).toList = some value) (rest : List Char) :
    readNumber ((Decimal.toml.write value).toList ++ '\n' :: rest) =
      .ok (.float value, '\n' :: rest) := by
  obtain ⟨-, -, bounded⟩ := finite_of_isFinite finite
  obtain ⟨sign, front, behind, written, signed, whole, numeral⟩ := write_toml finite
  rw [written] at exact_ ⊢
  have text : sign ++ front ++ '.' :: behind ++ '\n' :: rest =
      sign ++ (front ++ '.' :: (behind ++ '\n' :: rest)) := by
    simp
  rw [text]
  have moment : Declines (readMoment (sign ++ (front ++ '.' :: (behind ++ '\n' :: rest)))) := by
    rcases signed with rfl | rfl
    · exact readMoment_declines (by decide) whole.numeral.2 (.inr (by decide))
    · -- No digit stands in front of the sign.
      have none_ : ∀ c ∈ ([] : List Char), c.isDigit = true := by simp
      have begun := @readMoment_declines [] (front ++ '.' :: (behind ++ '\n' :: rest)) '-'
        (by decide) none_ (.inl rfl)
      exact begun
  -- The digits behind the point end the number, as the line ends there.
  have decimal : readDecimal (sign ++ (front ++ '.' :: (behind ++ '\n' :: rest))) =
      .ok (sign ++ front ++ '.' :: behind, '\n' :: rest) := by
    rw [readDecimal, readWhole_append (by decide) (by decide) signed whole, ok_bind]
    simp only []
    rw [readDigits_append (by decide) (by decide) numeral]
    rfl
  have read : readFloat (sign ++ (front ++ '.' :: (behind ++ '\n' :: rest))) =
      .ok (.float value, '\n' :: rest) := by
    rw [readFloat, decimal]
    simp only [exact_, bounded]
    rfl
  rw [readNumber, orElse_of_declines moment, read]
  rfl

end Placard.Toml

import Placard.Proofs.Json.Complete
import Placard.Proofs.Json.Skipped

/-! Literals of numbers: wherever one stands, it is read as the same number. -/

namespace Placard.Json

/-- A text is read as one number, or refused, whatever ends the number behind it. -/
def ReadAlike (read : List Char → Except Fault (Number × List Char)) (text : List Char) : Prop :=
  ∃ number? : Option Number, ∀ rest, Ended rest →
    (read (text ++ rest)).toOption = number?.map fun number => (number, rest)

/-- A text that comes down to another one is read as that one is. -/
theorem ReadAlike.of_eq {read other : List Char → Except Fault (Number × List Char)}
    {text left : List Char} (alike : ReadAlike other left)
    (same : ∀ rest, Ended rest → read (text ++ rest) = other (left ++ rest)) : ReadAlike read text := by
  obtain ⟨number?, each⟩ := alike
  exact ⟨number?, fun rest ended => by rw [same rest ended, each rest ended]⟩

variable {negative : Bool} {significand : Nat} {start : Int}

/-- A number is scaled in the same way whatever stands behind it. -/
theorem floatOf_alike : ReadAlike (floatOf negative significand start) [] := by
  refine ⟨(scaled 8 significand.toUInt64.toFloat start).map fun value =>
    .float (if negative then -value else value), fun rest _ => ?_⟩
  rw [List.nil_append, floatOf]
  cases scaled 8 significand.toUInt64.toFloat start <;> rfl

/-- What is read behind the mark of an exponent is told by its sign and its digits. -/
theorem readExponent_eq {turn digits rest : List Char}
    (sign : turn = [] ∨ turn = ['+'] ∨ turn = ['-']) (numeral : Decimal.IsNumeral digits)
    (stop : NoDigit rest) :
    readExponent negative significand start (turn ++ digits ++ rest) =
      let down := turn == ['-']
      let size := Decimal.natural 0 digits
      if 0x8000_0000 ≤ size then
        if significand != 0 && !down then
          .error (.before .numberRange (readExponent.overflowing 0 (digits ++ rest)))
        else .ok (.float (if negative then -0.0 else 0.0), rest)
      else
        let exponent := if down then max (start - size) (-0x8000_0000) else min (start + size) 0x7FFF_FFFF
        floatOf negative significand exponent rest := by
  have taken := takeWhile_digits numeral.2 stop
  have left : (digits ++ rest).drop digits.length = rest := List.drop_left
  obtain ⟨c, others, rfl⟩ := List.exists_cons_of_ne_nil numeral.1
  have digit := numeral.2 c List.mem_cons_self
  obtain ⟨noMinus, noPlus⟩ := Decimal.ne_sign_of_isDigit digit
  rw [List.cons_append] at taken left
  rw [List.append_assoc, List.cons_append]
  unfold readExponent
  split
  rename_i down unsigned parted
  -- The sign is taken off, or a digit stands in front.
  have signed : unsigned = c :: (others ++ rest) ∧ down = (turn == ['-']) := by
    rcases sign with rfl | rfl | rfl
    · split at parted
      · rename_i same
        exact absurd (List.cons.inj same).1 noPlus
      · rename_i same
        exact absurd (List.cons.inj same).1 noMinus
      · cases parted
        exact ⟨rfl, rfl⟩
    · cases parted
      exact ⟨rfl, rfl⟩
    · cases parted
      exact ⟨rfl, rfl⟩
  obtain ⟨rfl, rfl⟩ := signed
  simp only [digit, taken, left, Bool.not_true, Bool.false_eq_true, if_false]

/-- An exponent is read in the same way whatever stands behind it. -/
theorem readExponent_alike {turn digits : List Char} (sign : turn = [] ∨ turn = ['+'] ∨ turn = ['-'])
    (numeral : Decimal.IsNumeral digits) :
    ReadAlike (readExponent negative significand start) (turn ++ digits) := by
  by_cases large : 0x8000_0000 ≤ Decimal.natural 0 digits
  · refine ⟨if significand != 0 && !(turn == ['-']) then none
      else some (.float (if negative then -0.0 else 0.0)), fun rest ended => ?_⟩
    rw [readExponent_eq sign numeral ended.noDigit]
    dsimp only
    rw [if_pos large]
    split <;> rfl
  · have scales := @floatOf_alike negative significand
      (if turn == ['-'] then max (start - Decimal.natural 0 digits) (-0x8000_0000)
        else min (start + Decimal.natural 0 digits) 0x7FFF_FFFF)
    refine scales.of_eq fun rest ended => ?_
    rw [readExponent_eq sign numeral ended.noDigit]
    dsimp only
    rw [if_neg large, List.nil_append]

/-- Reads an exponent, if there is one, behind digits that make no whole number. -/
def readMarked (negative : Bool) (significand : Nat) (start : Int) (after : List Char) :
    Except Fault (Number × List Char) :=
  match after with
  | 'e' :: tail => readExponent negative significand start tail
  | 'E' :: tail => readExponent negative significand start tail
  | _ => floatOf negative significand start after

/-- An exponent that may be missing is read in the same way whatever stands behind it. -/
theorem readMarked_alike {exponent : List Char} (scales : ExponentText exponent) :
    ReadAlike (readMarked negative significand start) exponent := by
  rcases scales with rfl | ⟨mark, turn, digits, rfl, rfl | rfl, sign, numeral⟩
  · refine (@floatOf_alike negative significand start).of_eq fun rest ended => ?_
    rw [List.nil_append]
    unfold readMarked
    split
    · exact absurd rfl (ended _ rfl).2.2.1
    · exact absurd rfl (ended _ rfl).2.2.2
    · rfl
  · exact (readExponent_alike sign numeral).of_eq fun rest _ => rfl
  · exact (readExponent_alike sign numeral).of_eq fun rest _ => rfl

/-- Behind its digits, a fraction is scaled by its exponent. -/
theorem readFraction_eq {digits after : List Char} (numeral : Decimal.IsNumeral digits)
    (stop : NoDigit after) :
    readFraction negative significand start (digits ++ after) =
      readMarked negative (takeDigits significand digits).1
        (start - ((digits.length - (takeDigits significand digits).2.length : Nat) : Int)) after := by
  obtain ⟨taken, beyond, left⟩ := takeDigits_numeral numeral.2 stop significand
  have shorter : (digits ++ after).length - ((takeDigits significand digits).2 ++ after).length =
      digits.length - (takeDigits significand digits).2.length := by
    simp only [List.length_append]
    omega
  obtain ⟨c, others, front⟩ := List.exists_cons_of_ne_nil numeral.1
  have digit := numeral.2 c (front ▸ List.mem_cons_self)
  unfold readFraction
  rw [taken]
  simp only [beyond, left, shorter]
  rw [front, List.cons_append]
  simp only [digit, Bool.not_true, Bool.false_eq_true, if_false]
  unfold readMarked
  rfl

/-- A fraction is read in the same way whatever stands behind it and its exponent. -/
theorem readFraction_alike {digits exponent : List Char} (numeral : Decimal.IsNumeral digits)
    (scales : ExponentText exponent) :
    ReadAlike (readFraction negative significand start) (digits ++ exponent) :=
  (readMarked_alike scales).of_eq fun rest ended => by
    rw [List.append_assoc, readFraction_eq numeral (scales.noDigit ended)]

/-- A fraction and an exponent are read in the same way whatever stands behind them. -/
theorem readScale_alike {fraction exponent : List Char} (broken : FractionText fraction)
    (scales : ExponentText exponent) :
    ReadAlike (readScale negative significand start) (fraction ++ exponent) := by
  rcases broken with rfl | ⟨digits, rfl, numeral⟩
  · rcases scales with rfl | ⟨mark, turn, digits, rfl, rfl | rfl, sign, numeral⟩
    · by_cases whole : start = 0
      · -- A number without either is whole, unless it has too many digits or is a negative zero.
        subst whole
        refine ⟨some (if !negative then .integer significand
          else if significand == 0 || 0x8000_0000_0000_0000 < significand then
            .float (-significand.toUInt64.toFloat)
          else .integer (-(significand : Int))), fun rest ended => ?_⟩
        rw [List.append_nil, List.nil_append, readScale_ended ended]
        split
        · rfl
        · split <;> rfl
      · refine (@floatOf_alike negative significand start).of_eq fun rest ended => ?_
        rw [List.append_nil, List.nil_append]
        unfold readScale
        split
        · exact absurd rfl (ended _ rfl).2.1
        · exact absurd rfl (ended _ rfl).2.2.1
        · exact absurd rfl (ended _ rfl).2.2.2
        · exact if_pos (bne_iff_ne.mpr whole)
    · exact (readExponent_alike sign numeral).of_eq fun rest _ => rfl
    · exact (readExponent_alike sign numeral).of_eq fun rest _ => rfl
  · exact (readFraction_alike numeral scales).of_eq fun rest _ => rfl

/-- A number is read in the same way whatever stands behind it. -/
theorem readNumber_alike {whole fraction exponent : List Char} (isWhole : Decimal.IsWhole whole)
    (broken : FractionText fraction) (scales : ExponentText exponent) :
    ReadAlike (readNumber negative) (whole ++ (fraction ++ exponent)) :=
  (readScale_alike broken scales).of_eq fun rest ended => by
    rw [List.append_assoc, readNumber_eq isWhole]
    rw [List.append_assoc]
    exact broken.noDigit (scales.noDigit ended)

/-! ### Values -/

/-- A literal of a number is a sign or none, a whole number, a fraction and an exponent. -/
theorem NumberText.parts {literal : List Char} (shown : NumberText literal) :
    ∃ (negative : Bool) (whole fraction exponent : List Char),
      literal = (if negative then ['-'] else []) ++ (whole ++ (fraction ++ exponent)) ∧
        Decimal.IsWhole whole ∧ FractionText fraction ∧ ExponentText exponent := by
  obtain ⟨sign, whole, fraction, exponent, rfl, rfl | rfl, isWhole, broken, scales⟩ := shown
  · exact ⟨false, whole, fraction, exponent, by simp, isWhole, broken, scales⟩
  · exact ⟨true, whole, fraction, exponent, by simp, isWhole, broken, scales⟩

/-- Where a sign or a digit stands, a number is read. -/
theorem readValue_sign (negative : Bool) {whole : List Char} (isWhole : Decimal.IsWhole whole)
    (fuel depth : Nat) (tail : List Char) :
    readValue (fuel + 1) depth ((if negative then ['-'] else []) ++ (whole ++ tail)) =
      (readNumber negative (whole ++ tail)).map fun (found, after) => (.number found, after) := by
  cases negative with
  | true =>
    rw [if_pos rfl, List.singleton_append, readValue, skipSpace_solid (solid_cons rfl)]
    rfl
  | false =>
    -- Without a sign, the first digit shows that a number is read.
    obtain ⟨c, others, front⟩ := List.exists_cons_of_ne_nil isWhole.numeral.1
    have digit := isWhole.numeral.2 c (front ▸ List.mem_cons_self)
    rw [if_neg Bool.false_ne_true, List.nil_append, front, List.cons_append, readValue_digit digit]

/-- A literal of a number is read as one number, or refused, wherever it stands. -/
theorem readValue_alike {literal : List Char} (shown : NumberText literal) :
    ∃ number? : Option Number, ∀ (fuel depth : Nat) (rest : List Char), Ended rest →
      (readValue (fuel + 1) depth (literal ++ rest)).toOption =
        number?.map fun found => (.number found, rest) := by
  obtain ⟨negative, whole, fraction, exponent, rfl, isWhole, broken, scales⟩ := shown.parts
  obtain ⟨number?, each⟩ := @readNumber_alike negative _ _ _ isWhole broken scales
  refine ⟨number?, fun fuel depth rest ended => ?_⟩
  have same := each rest ended
  rw [List.append_assoc] at same
  rw [List.append_assoc, List.append_assoc, readValue_sign negative isWhole, toOption_map, same,
    Option.map_map]
  rfl

/-- Where a literal of a number is read, it is read as the number that it is as a whole text. -/
theorem readValue_literal {literal : List Char} (shown : NumberText literal) {fuel depth : Nat}
    {rest after : List Char} (ended : Ended rest) {value : Json}
    (read : readValue (fuel + 1) depth (literal ++ rest) = .ok (value, after)) :
    after = rest ∧ ∃ number, value = .number number ∧ parse (.ofList literal) = .ok (.number number) := by
  -- The literal as a whole text is one of the places where it may stand.
  obtain ⟨number?, each⟩ := readValue_alike shown
  have here := each fuel depth rest ended
  rw [read] at here
  cases number? with
  | none => cases here
  | some number =>
    cases here
    refine ⟨rfl, number, rfl, ?_⟩
    have alone := toOption_eq_some_iff.mp (each (2 * literal.length + 1) depthLimit [] ended_nil)
    rw [List.append_nil] at alone
    rw [parse, ofChars?, String.toList_ofList, alone]
    rfl

/-! ### Which literals are whole numbers -/

/-- A literal is the decimal of a whole number of 64 bits, with or without a sign. -/
def Plain (literal : List Char) (value : Int) : Prop :=
  Whole (.number (.integer value)) ∧ literal = (toString value).toList

/-- The decimal of a whole number is read as the number. -/
theorem Plain.parse {literal : List Char} {value : Int} (plain : Plain literal value) :
    Json.parse (.ofList literal) = .ok (.number (.integer value)) := by
  obtain ⟨whole, rfl⟩ := plain
  rw [String.ofList_toList]
  have writes : Writes (toString value) (.number (.integer value)) :=
    ⟨[], (toString value).toList, [], gap_nil, rfl, gap_nil, (List.append_nil _).symm⟩
  exact parse_writes writes whole (show 0 < depthLimit by decide)

section

variable {text rest : List Char} {found : Number}

/-- A number that was scaled is a floating-point number. -/
theorem floatOf_float (read : floatOf negative significand start text = .ok (found, rest)) :
    ∃ value, found = .float value := by
  unfold floatOf at read
  split at read <;> cases read
  exact ⟨_, rfl⟩

/-- A number with an exponent is a floating-point number. -/
theorem readExponent_float (read : readExponent negative significand start text = .ok (found, rest)) :
    ∃ value, found = .float value := by
  unfold readExponent at read
  split at read
  split at read
  · cases read
  · split at read
    · cases read
    · simp only [] at read
      split at read
      · split at read <;> cases read
        exact ⟨_, rfl⟩
      · exact floatOf_float read

/-- A number with a fraction is a floating-point number. -/
theorem readFraction_float (read : readFraction negative significand start text = .ok (found, rest)) :
    ∃ value, found = .float value := by
  unfold readFraction at read
  split at read
  split at read
  · cases read
  · split at read
    · cases read
    · simp only [] at read
      split at read
      · exact readExponent_float read
      · exact readExponent_float read
      · exact floatOf_float read

/-- A number that is read as a whole one has neither a fraction nor an exponent, and is not scaled. -/
theorem readScale_integer {value : Int}
    (read : readScale negative significand start text = .ok (.integer value, rest)) :
    text = rest ∧ start = 0 ∧ value = (if negative then -(significand : Int) else significand) ∧
      (negative = true → 0 < significand ∧ significand ≤ 0x8000_0000_0000_0000) := by
  -- A fraction, an exponent and a scale each make a floating-point number.
  have noFloat : ¬ ∃ other, Number.integer value = .float other := fun ⟨_, same⟩ => nomatch same
  unfold readScale at read
  split at read
  · exact absurd (readFraction_float read) noFloat
  · exact absurd (readExponent_float read) noFloat
  · exact absurd (readExponent_float read) noFloat
  · split at read
    · exact absurd (floatOf_float read) noFloat
    · rename_i unscaled
      have zero : start = 0 := by simpa using unscaled
      split at read
      · rename_i positive
        cases read
        have unsigned : negative = false := by simpa using positive
        exact ⟨rfl, zero, by simp [unsigned], by simp [unsigned]⟩
      · rename_i signed
        split at read
        · cases read
        · rename_i within
          cases read
          have minus : negative = true := by simpa using signed
          simp only [Bool.or_eq_true, beq_iff_eq, decide_eq_true_eq, not_or] at within
          exact ⟨rfl, zero, by simp [minus], fun _ => ⟨by omega, by omega⟩⟩

end

/-- Digits that are kept make a number of 64 bits. -/
theorem takeDigits_kept {text : List Char} {value size : Nat} (within : value ≤ maxWord)
    (kept : takeDigits value text = (size, [])) : size = Decimal.natural value text ∧ size ≤ maxWord := by
  induction text generalizing value with
  | nil =>
    cases kept
    exact ⟨rfl, within⟩
  | cons c text ih =>
    rw [takeDigits] at kept
    split at kept
    · rename_i fits
      rw [Bool.and_eq_true, decide_eq_true_eq] at fits
      exact ih fits.2 kept
    · cases kept

/-- A literal behind its sign that is read as a whole number is the decimal of the number. -/
theorem readNumber_integer {whole tail : List Char} (isWhole : Decimal.IsWhole whole) (stop : NoDigit tail)
    {value : Int} (read : readNumber negative (whole ++ tail) = .ok (.integer value, [])) :
    Plain ((if negative then ['-'] else []) ++ (whole ++ tail)) value := by
  rw [readNumber_eq isWhole stop] at read
  obtain ⟨none_, unscaled, same, bounds⟩ := readScale_integer read
  -- No digit only counts, so all digits are kept and make the number.
  have kept : takeDigits 0 whole = ((takeDigits 0 whole).1, []) :=
    Prod.ext rfl (List.length_eq_zero_iff.mp (by omega))
  obtain ⟨denoted, within⟩ := takeDigits_kept (Nat.zero_le _) kept
  rw [none_, List.append_nil, ← Decimal.toDigits_natural isWhole, ← denoted]
  generalize (takeDigits 0 whole).1 = size at *
  cases negative with
  | true =>
    obtain ⟨positive, small⟩ := bounds rfl
    rw [if_pos rfl] at same
    have negative : value < 0 := by omega
    refine ⟨⟨by omega, by omega⟩, ?_⟩
    rw [Decimal.toList_toString, if_pos negative, if_pos rfl, same, Int.natAbs_neg, Int.natAbs_natCast]
  | false =>
    rw [if_neg Bool.false_ne_true] at same
    have unsigned : ¬ value < 0 := by omega
    refine ⟨⟨by omega, by omega⟩, ?_⟩
    rw [Decimal.toList_toString, if_neg unsigned, if_neg Bool.false_ne_true, same, Int.natAbs_natCast]

/-- A literal is read as a whole number exactly when it is the decimal of the number. -/
theorem parse_integer_iff {literal : List Char} (shown : NumberText literal) {value : Int} :
    Json.parse (.ofList literal) = .ok (.number (.integer value)) ↔ Plain literal value := by
  refine ⟨fun read => ?_, Plain.parse⟩
  obtain ⟨negative, whole, fraction, exponent, rfl, isWhole, broken, scales⟩ := shown.parts
  rw [Json.parse, ofChars?, String.toList_ofList, readValue_sign negative isWhole] at read
  obtain ⟨⟨found, after⟩, value_, ends⟩ := bind_eq_ok_iff.mp read
  obtain ⟨⟨held, left⟩, number_, same⟩ := map_eq_ok_iff.mp value_
  cases same
  -- Nothing is left of a literal that is read alone.
  obtain ⟨number?, each⟩ := @readNumber_alike negative _ _ _ isWhole broken scales
  have alone := each [] ended_nil
  rw [List.append_nil, number_] at alone
  cases number? with
  | none => cases alone
  | some number =>
    cases alone
    cases ends
    have stop := broken.noDigit (scales.noDigit ended_nil)
    rw [List.append_nil] at stop
    exact readNumber_integer isWhole stop number_

end Placard.Json

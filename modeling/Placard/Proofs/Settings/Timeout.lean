import Placard.Proofs.Decimal.Numeral
import Placard.Proofs.Settings.Leaf
import Placard.Proofs.Text.Blank
import Placard.Settings.Variable

/-! The seconds that a source may take: a text gives the same ones as an option, a variable or in a file. -/

namespace Placard

/-- Behind as many characters as the first ones that satisfy a test stands what follows these. -/
theorem drop_takeWhile (test : Char → Bool) (text : List Char) :
    text.drop (text.takeWhile test).length = text.dropWhile test := by
  conv => lhs; arg 2; rw [← List.takeWhile_append_dropWhile (p := test) (l := text)]
  exact List.drop_left

namespace Decimal

/-- A text spells a number: a plus sign or none, any number of zeros, and the digits of the number. -/
def Spells (text : List Char) (value : Nat) : Prop :=
  ∃ sign zeros, text = sign ++ List.replicate zeros '0' ++ Nat.toDigits 10 value ∧
    (sign = [] ∨ sign = ['+'])

/-- Zeros with the digits of a number behind them are a numeral. -/
theorem isNumeral_zeros (zeros value : Nat) :
    IsNumeral (List.replicate zeros '0' ++ Nat.toDigits 10 value) := by
  refine ⟨by simp [Nat.toDigits_ne_nil], fun c member => ?_⟩
  rcases List.mem_append.mp member with front | behind
  · exact isDigit_of_mem_zeros c front
  · exact (isNumeral_toDigits value).2 c behind

/-- A number is read from digits exactly when they are its own, with zeros in front. -/
theorem digits?_eq_some_iff {digits : List Char} {value : Nat} :
    digits? digits = some value ↔
      ∃ zeros, digits = List.replicate zeros '0' ++ Nat.toDigits 10 value := by
  constructor
  · intro read
    simp only [digits?, Option.ite_none_left_eq_some, Bool.or_eq_true, Bool.not_eq_true',
      not_or, Bool.not_eq_false, List.all_eq_true, Option.some.injEq] at read
    obtain ⟨⟨solid, each⟩, denoted⟩ := read
    obtain ⟨zeros, spelled⟩ := zeros_of_natural each
    rw [denoted] at spelled
    by_cases zero : value = 0
    · -- Of the zeros that make up the text, the last one is the number.
      subst zero
      rw [if_pos rfl, List.append_nil] at spelled
      cases zeros with
      | zero => exact absurd (List.isEmpty_iff.mpr spelled) solid
      | succ zeros => exact ⟨zeros, by rw [spelled, List.replicate_succ', Nat.toDigits_zero]⟩
    · rw [if_neg zero] at spelled
      exact ⟨zeros, spelled⟩
  · rintro ⟨zeros, rfl⟩
    obtain ⟨solid, each⟩ := isNumeral_zeros zeros value
    rw [digits?, List.isEmpty_eq_false_iff.mpr solid, List.all_eq_true.mpr each, natural_zeros,
      natural_toDigits]
    rfl

/-- A whole number is read from a text exactly when the text spells it within the bound. -/
theorem natural?_eq_some_iff {bound : Nat} {text : List Char} {value : Nat} :
    natural? bound text = some value ↔ value ≤ bound ∧ Spells text value := by
  -- Behind the sign, if there is one, stands one row of digits.
  have bounded (digits : List Char) : (digits? digits).filter (· ≤ bound) = some value ↔
      value ≤ bound ∧ ∃ zeros, digits = List.replicate zeros '0' ++ Nat.toDigits 10 value := by
    rw [Option.filter_eq_some_iff, digits?_eq_some_iff, decide_eq_true_iff, and_comm]
  by_cases signed : ∃ rest, text = '+' :: rest
  · obtain ⟨rest, rfl⟩ := signed
    refine (bounded rest).trans (and_congr_right fun _ => ⟨?_, ?_⟩)
    · rintro ⟨zeros, rfl⟩
      exact ⟨['+'], zeros, rfl, .inr rfl⟩
    · rintro ⟨sign, zeros, spelled, rfl | rfl⟩
      · -- A sign is no digit, so digits alone do not begin with one.
        rw [List.nil_append] at spelled
        have digit := (isNumeral_zeros zeros value).2 '+' (spelled ▸ List.mem_cons_self)
        exact absurd rfl (ne_sign_of_isDigit digit).2
      · exact ⟨zeros, by simpa using spelled⟩
  · have same : natural? bound text = (digits? text).filter (· ≤ bound) := by
      rw [natural?]
      intro rest front
      exact signed ⟨rest, front⟩
    rw [same, bounded]
    refine and_congr_right fun _ => ⟨?_, ?_⟩
    · rintro ⟨zeros, rfl⟩
      exact ⟨[], zeros, rfl, .inl rfl⟩
    · rintro ⟨sign, zeros, rfl, rfl | rfl⟩
      · exact ⟨zeros, rfl⟩
      · exact absurd ⟨_, rfl⟩ signed

/-- A text that begins with neither a digit nor a plus sign is no whole number from zero on. -/
theorem natural?_eq_none {bound : Nat} {c : Char} {rest : List Char} (digit : c.isDigit = false)
    (sign : c ≠ '+') : natural? bound (c :: rest) = none := by
  have letters : natural? bound (c :: rest) = (digits? (c :: rest)).filter (· ≤ bound) := by
    rw [natural?]
    intro others front
    exact sign (List.cons.inj front).1
  rw [letters, digits?, List.all_cons, digit]
  rfl

/-- Of the texts that spell no word without a sign, those with a minus sign before digits spell a signed one. -/
theorem signedWord?_eq_some_iff {text : List Char} {value : Int}
    (unsigned : natural? largestWord text = none) :
    signedWord? text = some value ↔ ∃ zeros size,
      text = '-' :: (List.replicate zeros '0' ++ Nat.toDigits 10 size) ∧
        size ≤ 0x8000_0000_0000_0000 ∧ value = -(size : Int) := by
  -- Without a minus sign the digits would have been read as a word, for its bound is higher.
  have beyond {digits : List Char} (none_ : (digits? digits).filter (· ≤ largestWord) = none) :
      ((digits? digits).map Int.ofNat).filter (fun number =>
        (-0x8000_0000_0000_0000 : Int) ≤ number && number ≤ 0x7FFF_FFFF_FFFF_FFFF) = none := by
    rw [Option.filter_eq_none_iff]
    intro number denoted
    obtain ⟨size, read, rfl⟩ := Option.map_eq_some_iff.mp denoted
    have large : ¬ size ≤ largestWord := by simpa using Option.filter_eq_none_iff.mp none_ size read
    simp only [largestWord] at large
    simp only [Bool.and_eq_true, decide_eq_true_eq, Int.ofNat_eq_natCast]
    omega
  by_cases negative : ∃ digits, text = '-' :: digits
  · obtain ⟨digits, rfl⟩ := negative
    have parted : signedWord? ('-' :: digits) = ((digits? digits).map fun size : Nat => -(size : Int)).filter
        fun number => (-0x8000_0000_0000_0000 : Int) ≤ number && number ≤ 0x7FFF_FFFF_FFFF_FFFF := by
      unfold signedWord? integer?
      simp only []
      cases digits? digits <;> rfl
    rw [parted, Option.filter_eq_some_iff, Option.map_eq_some_iff]
    simp only [digits?_eq_some_iff, Bool.and_eq_true, decide_eq_true_eq]
    constructor
    · intro read
      obtain ⟨⟨size, ⟨zeros, rfl⟩, rfl⟩, low, -⟩ := read
      exact ⟨zeros, size, rfl, by omega, rfl⟩
    · intro spelled
      obtain ⟨zeros, size, same, small, rfl⟩ := spelled
      exact ⟨⟨size, ⟨zeros, (List.cons.inj same).2⟩, rfl⟩, by omega, by omega⟩
  · have none_ : signedWord? text = none := by
      unfold natural? at unsigned
      unfold signedWord? integer?
      simp only [] at unsigned ⊢
      split
      · rename_i digits
        exact absurd ⟨digits, rfl⟩ negative
      · exact beyond unsigned
      · rename_i plain
        split at unsigned
        · exact absurd rfl (plain _)
        · exact beyond unsigned
    rw [none_]
    refine ⟨by rintro ⟨⟩, fun spelled => ?_⟩
    obtain ⟨zeros, size, same, -⟩ := spelled
    exact absurd ⟨_, same⟩ negative

end Decimal

/-! ### Texts -/

/-- The seconds that a text gives: a positive number of at most 64 bits between its blanks, or else five. -/
def GivesSeconds (text : String) (seconds : Nat) : Prop :=
  (Decimal.Spells (Text.inner text.toList) seconds ∧ 1 ≤ seconds ∧ seconds ≤ largestWord) ∨
    (seconds = 5 ∧ ¬ ∃ spelled, Decimal.Spells (Text.inner text.toList) spelled ∧ 1 ≤ spelled ∧
      spelled ≤ largestWord)

/-- Seconds are read from a text as the text gives them. -/
theorem readTimeout_eq_iff (text : String) (seconds : Nat) :
    readTimeout text = seconds ↔ GivesSeconds text seconds := by
  -- Reading fails or gives zero exactly where the text spells no number within the bounds.
  have spelled (value : Nat) :
      (Decimal.natural? largestWord (Text.inner text.toList)).filter (0 < ·) = some value ↔
        Decimal.Spells (Text.inner text.toList) value ∧ 1 ≤ value ∧ value ≤ largestWord := by
    rw [Option.filter_eq_some_iff, decide_eq_true_iff]
    constructor
    · rintro ⟨read, positive⟩
      obtain ⟨within, spells⟩ := Decimal.natural?_eq_some_iff.mp read
      exact ⟨spells, positive, within⟩
    · rintro ⟨spells, positive, within⟩
      exact ⟨Decimal.natural?_eq_some_iff.mpr ⟨within, spells⟩, positive⟩
  rw [readTimeout, GivesSeconds, ← spelled]
  simp only [← spelled]
  cases (Decimal.natural? largestWord (Text.inner text.toList)).filter (0 < ·) with
  | some value => simp
  | none => simp [usualTimeout, eq_comm]

/-- The seconds of a text are at least one, and fit a word of 64 bits. -/
theorem readTimeout_bounds (text : String) :
    1 ≤ readTimeout text ∧ readTimeout text ≤ largestWord := by
  rcases (readTimeout_eq_iff text _).mp rfl with ⟨-, positive, within⟩ | ⟨usual, -⟩
  · exact ⟨positive, within⟩
  · rw [usual]
    decide

/-- Where no whole number is read, the usual seconds are. -/
theorem readTimeout_of_none {text : String}
    (none_ : Decimal.natural? largestWord (Text.inner text.toList) = none) :
    readTimeout text = usualTimeout := by
  rw [readTimeout, none_]
  rfl

/-! ### Variables -/

namespace Variable

/-- A text whose first character behind blanks is no quotation mark. -/
def Unquoted (text : String) : Prop :=
  ∀ c, (Text.dropBlanks text.toList).head? = some c → c ≠ '"' ∧ c ≠ '\''

instance (text : String) : Decidable (Unquoted text) :=
  decidable_of_iff
    ((Text.dropBlanks text.toList).head?.all fun c => c != '"' && c != '\'')
    (by unfold Unquoted; cases (Text.dropBlanks text.toList).head? <;> simp)

/-- Blanks between the parts of a value are blanks. -/
theorem isBlank_of_isGap {c : Char} (gap : isGap c = true) : Text.isBlank c = true := by
  simp only [isGap, Bool.or_eq_true, beq_iff_eq] at gap
  rcases gap with (((rfl | rfl) | rfl) | rfl) | rfl <;> rfl

/-- Blanks may be passed over before leading blanks are dropped. -/
theorem dropBlanks_skipGaps (text : List Char) :
    Text.dropBlanks (skipGaps text) = Text.dropBlanks text := by
  induction text with
  | nil => rfl
  | cons c rest ih =>
    cases gap : isGap c with
    | true =>
      have blank : Text.dropBlanks (c :: rest) = Text.dropBlanks rest :=
        List.dropWhile_cons_of_pos (isBlank_of_isGap gap)
      rw [skipGaps, List.dropWhile_cons_of_pos gap, blank]
      exact ih
    | false => rw [skipGaps, List.dropWhile_cons_of_neg (by simp [gap])]

/-- A text that begins with a word, a list or a table gives the usual seconds. -/
theorem readTimeout_of_start {text : String} {c : Char} {rest : List Char}
    (start : skipGaps text.toList = c :: rest) (solid : Text.isBlank c = false)
    (digit : c.isDigit = false) (sign : c ≠ '+') : readTimeout text = usualTimeout := by
  apply readTimeout_of_none
  rw [Text.inner, ← dropBlanks_skipGaps, start, Text.dropBlanks_cons solid, Text.cutBlanks_cons solid,
    Decimal.natural?_eq_none digit sign]

/-- A text without quotation marks in front is not taken as a quoted one. -/
theorem Unquoted.start {text : String} (unquoted : Unquoted text) {c : Char} {rest : List Char}
    (start : skipGaps text.toList = c :: rest) : c ≠ '"' ∧ c ≠ '\'' := by
  -- A quotation mark is not blank, so it would be the first character behind the blanks too.
  have first (solid : Text.isBlank c = false) : c ≠ '"' ∧ c ≠ '\'' := by
    apply unquoted
    rw [← dropBlanks_skipGaps, start, Text.dropBlanks_cons solid]
    rfl
  constructor
  · rintro rfl
    exact (first rfl).1 rfl
  · rintro rfl
    exact (first rfl).2 rfl

/-- A text with a point is no whole number. -/
theorem natural?_of_point {letters : List Char} (point : '.' ∈ letters) (bound : Nat) :
    Decimal.natural? bound letters = none := by
  -- A point is no digit, whether a sign stands before it or not.
  have digits {others : List Char} (member : '.' ∈ others) : Decimal.digits? others = none := by
    have other : others.all Char.isDigit = false := List.all_eq_false.mpr ⟨'.', member, by decide⟩
    rw [Decimal.digits?, other, Bool.not_false, Bool.or_true, if_pos rfl]
  unfold Decimal.natural?
  split
  · exact congrArg (Option.filter _) (digits (by simpa using point))
  · exact congrArg (Option.filter _) (digits point)

/-! ### Numbers in variables -/

/-- A text that a variable takes for a number: a whole one, a negative one, or one with a point. -/
inductive SpellsNumber : List Char → Scalar → Prop
  | whole {letters : List Char} {value : Nat} (spells : Decimal.Spells letters value)
      (within : value ≤ largestWord) : SpellsNumber letters (.unsigned value)
  | negative (zeros : Nat) {size : Nat} (within : size ≤ 0x8000_0000_0000_0000) :
      SpellsNumber ('-' :: (List.replicate zeros '0' ++ Nat.toDigits 10 size)) (.signed (-(size : Int)))
  | fraction {letters : List Char} {value : Float} (point : '.' ∈ letters)
      (read : Decimal.float? letters = some value) : SpellsNumber letters (.float value)

/-- A text that is read as a whole number has no point. -/
theorem readBare_of_natural {letters : List Char} {value : Nat}
    (read : Decimal.natural? largestWord letters = some value) : readBare letters = .unsigned value := by
  have point : letters.contains '.' = false := by
    by_contra some_
    rw [natural?_of_point (by simpa using some_)] at read
    cases read
  rw [largestWord] at read
  simp only [readBare, point, read]
  rfl

/-- What spells a number is read as this number. -/
theorem SpellsNumber.readBare_eq {letters : List Char} {number : Scalar}
    (spells : SpellsNumber letters number) : readBare letters = number := by
  cases spells with
  | whole spells within => exact readBare_of_natural (Decimal.natural?_eq_some_iff.mpr ⟨within, spells⟩)
  | @negative zeros size within =>
    have digits := (Decimal.isNumeral_zeros zeros size).2
    have unsigned : Decimal.natural? largestWord
        ('-' :: (List.replicate zeros '0' ++ Nat.toDigits 10 size)) = none :=
      Decimal.natural?_eq_none rfl (by decide)
    have signed := (Decimal.signedWord?_eq_some_iff unsigned).mpr ⟨zeros, size, rfl, within, rfl⟩
    have point : ('-' :: (List.replicate zeros '0' ++ Nat.toDigits 10 size)).contains '.' = false := by
      by_contra some_
      rw [Bool.not_eq_false, List.contains_iff_mem] at some_
      rcases List.mem_cons.mp some_ with sign | digit
      · cases sign
      · cases digits '.' digit
    rw [largestWord] at unsigned
    simp only [readBare, point, unsigned, signed]
    rfl
  | fraction point read =>
    have member : List.contains _ '.' = true := List.contains_iff_mem.mpr point
    simp only [readBare, member, if_true, read]

/-- A text is read as the number that it spells, or else as it stands. -/
theorem readBare_cases (letters : List Char) :
    SpellsNumber letters (readBare letters) ∨ readBare letters = .text (.ofList letters) := by
  -- A point is looked for first, then a number without a sign, and then one with a minus sign.
  rw [readBare]
  split
  · rename_i value fraction
    rw [Option.ite_none_right_eq_some] at fraction
    exact .inl (.fraction (List.contains_iff_mem.mp fraction.1) fraction.2)
  · split
    · rename_i value read
      obtain ⟨within, spells⟩ := Decimal.natural?_eq_some_iff.mp read
      exact .inl (.whole spells within)
    · rename_i unsigned
      split
      · rename_i value signed
        obtain ⟨zeros, size, rfl, within, rfl⟩ := (Decimal.signedWord?_eq_some_iff unsigned).mp signed
        exact .inl (.negative zeros within)
      · exact .inr rfl

/-! ### Seconds from variables -/

/-- What is read from a text without quotation marks gives the seconds of the text. -/
theorem toTimeout_readBare (layer : Layer) (text : String) :
    Given.toTimeout (.scalar layer (readBare (Text.inner text.toList))) =
      (readTimeout text).toUInt64 := by
  rw [Settings.toTimeout_eq]
  refine congrArg Nat.toUInt64 ?_
  -- Only a number without a sign and without a point can be a whole number of seconds.
  have counted {letters : List Char} {number : Scalar} (spells : SpellsNumber letters number)
      (same : letters = Text.inner text.toList) : Settings.lenientSeconds number = readTimeout text := by
    cases spells with
    | @whole letters value spells within =>
      rw [Settings.lenientSeconds, readTimeout, ← same, Decimal.natural?_eq_some_iff.mpr ⟨within, spells⟩]
      by_cases positive : 0 < value
      · simp [positive, Option.filter]
      · simp [positive, Option.filter]
    | @negative zeros size =>
      rw [Settings.lenientSeconds, if_neg (by omega)]
      exact (readTimeout_of_none (same ▸ Decimal.natural?_eq_none rfl (by decide))).symm
    | fraction point =>
      exact (readTimeout_of_none (same ▸ natural?_of_point point _)).symm
  rcases readBare_cases (Text.inner text.toList) with spells | stands
  · exact counted spells rfl
  · -- A text that stays one is read once more, which takes no further blanks off.
    rw [stands, Settings.lenientSeconds, readTimeout, String.toList_ofList, Text.inner_inner, readTimeout]

/-- Where a whole text is read as a bare one, it has no separators. -/
theorem takeWhile_of_skipGaps {start : List Char}
    (end_ : skipGaps (start.drop (start.takeWhile (!isSeparator ·)).length) = []) :
    start.takeWhile (!isSeparator ·) = start := by
  -- What is left would begin with a separator, and no separator is a gap.
  have parted := List.takeWhile_append_dropWhile (p := (!isSeparator ·)) (l := start)
  have first := List.head?_dropWhile_not (!isSeparator ·) start
  rw [drop_takeWhile] at end_
  cases rest : start.dropWhile (!isSeparator ·) with
  | nil =>
    rw [rest, List.append_nil] at parted
    exact parted
  | cons c others =>
    rw [rest] at end_ first
    have gap : isGap c = true := by
      by_contra solid
      rw [skipGaps, List.dropWhile_cons_of_neg solid] at end_
      cases end_
    have apart : ∀ c, isGap c = true → isSeparator c = false := by
      intro c gap
      simp only [isGap, Bool.or_eq_true, beq_iff_eq] at gap
      rcases gap with (((rfl | rfl) | rfl) | rfl) | rfl <;> rfl
    simp [apart c gap] at first

/-- A value that takes up a whole text gives the seconds that the text gives. -/
theorem toTimeout_readValue? {text : String} (unquoted : Unquoted text) {fuel : Nat} {given : Given}
    (read : readValue? fuel text.toList = some (given, [])) :
    given.toTimeout = (readTimeout text).toUInt64 := by
  cases fuel with
  | zero =>
    rw [readValue?] at read
    cases read
  | succ fuel =>
    -- Words, lists and tables give the usual seconds, and all else is read as it stands.
    rw [readValue?] at read
    split at read
    · rename_i rest start
      rw [readTimeout_of_start start rfl rfl (by decide)]
      have value := congrArg Prod.fst (Option.some.inj read)
      exact congrArg Given.toTimeout value.symm
    · rename_i rest start
      rw [readTimeout_of_start start rfl rfl (by decide)]
      have value := congrArg Prod.fst (Option.some.inj read)
      exact congrArg Given.toTimeout value.symm
    · rename_i rest start
      rw [readTimeout_of_start start rfl rfl (by decide)]
      obtain ⟨⟨items, after⟩, -, same⟩ := Option.bind_eq_some_iff.mp read
      have value := congrArg Prod.fst (Option.some.inj same)
      exact congrArg Given.toTimeout value.symm
    · rename_i rest start
      rw [readTimeout_of_start start rfl rfl (by decide)]
      obtain ⟨⟨items, after⟩, -, same⟩ := Option.bind_eq_some_iff.mp read
      have value := congrArg Prod.fst (Option.some.inj same)
      exact congrArg Given.toTimeout value.symm
    · rename_i rest start
      exact absurd rfl (unquoted.start start).1
    · rename_i c rest start
      exact absurd rfl (unquoted.start start).2
    · rename_i rest other start
      exact absurd rfl (unquoted.start start).2
    · simp only [Option.some.injEq, Prod.mk.injEq] at read
      obtain ⟨rfl, end_⟩ := read
      rw [takeWhile_of_skipGaps end_, Text.inner, dropBlanks_skipGaps]
      exact toTimeout_readBare .environment text

/-- A variable gives the seconds that its text gives. -/
theorem toTimeout_readValue {text : String} (unquoted : Unquoted text) :
    (readValue text).toTimeout = (readTimeout text).toUInt64 := by
  rw [readValue]
  split
  · rename_i value read
    exact toTimeout_readValue? unquoted read
  · rfl

end Variable

end Placard

import Placard.Proofs.Json.Complete

/-! Values that are passed over: every text of a value, of any kind and as deep as it may be. -/

namespace Placard.Json

/-! ### Strings -/

/-- Passing over takes one character off the front of a string, however it is spelled. -/
theorem skipString_char {written : List Char} {c : Char} (char : SpellsChar written c)
    (rest : List Char) : skipString (written ++ rest) = skipString rest := by
  cases char with
  | plain unquoted unescaped visible =>
    -- As in reading, none of the marks that start another case is this character.
    have shown : ¬ c.toNat < 0x20 := by omega
    rw [List.singleton_append, skipString.eq_7 c rest unquoted (fun _ _ _ _ _ same => absurd same unescaped)
      (fun _ same => absurd same unescaped) (fun same => absurd same unescaped)
      (fun _ _ same => absurd same unescaped), if_neg shown]
  | @short letter _ known =>
    have other : letter ≠ 'u' := by
      rintro rfl
      cases known
    simp only [List.cons_append, List.nil_append]
    rw [skipString.eq_6 letter rest (fun _ _ _ _ _ same => absurd same other)
      (fun same => absurd same other), known]
    rfl
  | code digits whole =>
    simp only [List.cons_append, List.nil_append, skipString.eq_3, digits, Option.isSome_some, if_true]
  | pair first opens second closes =>
    -- The halves of a pair are passed over one by one.
    simp only [List.cons_append, List.nil_append, skipString.eq_3, first, second, Option.isSome_some,
      if_true]

/-- A string is passed over up to its closing mark. -/
theorem skipString_spells {written text : List Char} (spells : Spells written text)
    (rest : List Char) : skipString (written ++ '"' :: rest) = .ok rest := by
  induction spells with
  | done => exact skipString.eq_2 rest
  | next char _ ih => rw [List.append_assoc, skipString_char char, ih]

/-! ### Numbers -/

/-- What begins with a mark that is no digit begins with no digit. -/
theorem noDigit_cons {c : Char} (mark : c.isDigit = false) (rest : List Char) : NoDigit (c :: rest) := by
  rintro _ ⟨rfl⟩
  exact mark

/-- An exponent, or what stands behind it, begins with no digit. -/
theorem ExponentText.noDigit {exponent : List Char} (written : ExponentText exponent)
    {rest : List Char} (ended : Ended rest) : NoDigit (exponent ++ rest) := by
  rcases written with rfl | ⟨mark, turn, digits, rfl, marked, -, -⟩
  · exact ended.noDigit
  · refine noDigit_cons ?_ _
    rcases marked with rfl | rfl <;> rfl

/-- A fraction, or what stands behind it, begins with no digit. -/
theorem FractionText.noDigit {fraction : List Char} (written : FractionText fraction)
    {rest : List Char} (stop : NoDigit rest) : NoDigit (fraction ++ rest) := by
  rcases written with rfl | ⟨digits, rfl, -⟩
  · exact stop
  · exact noDigit_cons rfl _

/-- Digits are dropped from a text up to what is no digit. -/
theorem dropWhile_digits {digits rest : List Char} (all : ∀ c ∈ digits, c.isDigit = true)
    (stop : NoDigit rest) : (digits ++ rest).dropWhile Char.isDigit = rest := by
  rw [List.dropWhile_append_of_pos all]
  cases rest with
  | nil => rfl
  | cons c rest => exact List.dropWhile_cons_of_neg (by simp [stop c rfl])

/-- A numeral begins with a digit, and the digits behind it are dropped. -/
theorem exists_digit {digits : List Char} (numeral : Decimal.IsNumeral digits) :
    ∃ c others, digits = c :: others ∧ c.isDigit = true ∧
      ∀ rest, NoDigit rest → (others ++ rest).dropWhile Char.isDigit = rest := by
  obtain ⟨c, others, rfl⟩ := List.exists_cons_of_ne_nil numeral.1
  exact ⟨c, others, rfl, numeral.2 c List.mem_cons_self, fun rest =>
    dropWhile_digits fun d among => numeral.2 d (List.mem_cons_of_mem _ among)⟩

/-- The sign and the digits of an exponent are passed over. -/
theorem skipExponent_digits {turn digits rest : List Char}
    (sign : turn = [] ∨ turn = ['+'] ∨ turn = ['-']) (numeral : Decimal.IsNumeral digits)
    (stop : NoDigit rest) : skipExponent (turn ++ digits ++ rest) = .ok rest := by
  obtain ⟨c, others, rfl, digit, dropped⟩ := exists_digit numeral
  rcases sign with rfl | rfl | rfl
  · -- Without a sign, the first digit stands in front, and it is no sign.
    rw [List.nil_append, List.cons_append, skipExponent, if_pos digit, dropped rest stop]
    all_goals
      rintro _ ⟨⟩
      cases digit
  · simp only [List.cons_append, List.nil_append, skipExponent, digit, if_true, dropped rest stop]
  · simp only [List.cons_append, List.nil_append, skipExponent, digit, if_true, dropped rest stop]

/-- An exponent is passed over with its mark. -/
theorem skipScale_exponent {exponent rest : List Char} (written : ExponentText exponent)
    (ended : Ended rest) : skipScale (exponent ++ rest) = .ok rest := by
  rcases written with rfl | ⟨mark, turn, digits, rfl, marked, sign, numeral⟩
  · -- Without an exponent, nothing is passed over.
    rw [List.nil_append, skipScale]
    · rintro _ rfl
      exact absurd rfl (ended _ rfl).2.1
    · rintro _ rfl
      exact absurd rfl (ended _ rfl).2.2.1
    · rintro _ rfl
      exact absurd rfl (ended _ rfl).2.2.2
  · have passed := skipExponent_digits sign numeral ended.noDigit
    rcases marked with rfl | rfl <;> exact passed

/-- Behind a point and digits, what follows a number is passed over as without them. -/
theorem skipScale_point {digits after : List Char} (numeral : Decimal.IsNumeral digits)
    (stop : NoDigit after) (plain : after.head? ≠ some '.') :
    skipScale ('.' :: digits ++ after) = skipScale after := by
  obtain ⟨c, others, rfl, digit, dropped⟩ := exists_digit numeral
  simp only [List.cons_append, skipScale, digit, Bool.not_true, Bool.false_eq_true, if_false,
    dropped after stop]
  -- Both readers look for the mark of an exponent, and there is no second point.
  split
  · rfl
  · rfl
  · rename_i noSmall noLarge
    split
    · exact absurd rfl plain
    · exact absurd rfl (noSmall _)
    · exact absurd rfl (noLarge _)
    · rfl

/-- A fraction and an exponent are passed over behind the digits of a number. -/
theorem skipScale_written {fraction exponent rest : List Char} (broken : FractionText fraction)
    (scaled : ExponentText exponent) (ended : Ended rest) :
    skipScale (fraction ++ (exponent ++ rest)) = .ok rest := by
  rcases broken with rfl | ⟨digits, rfl, numeral⟩
  · exact skipScale_exponent scaled ended
  · -- Behind the fraction stands an exponent or what ends the number, and neither begins with a point.
    have plain : (exponent ++ rest).head? ≠ some '.' := by
      rcases scaled with rfl | ⟨mark, turn, digits, rfl, marked, -, -⟩
      · exact fun front => (ended _ front).2.1 rfl
      · rcases marked with rfl | rfl <;> simp
    rw [skipScale_point numeral (scaled.noDigit ended) plain, skipScale_exponent scaled ended]

/-- The digits of a number are passed over before its fraction and its exponent. -/
theorem skipNumber_whole {whole rest : List Char} (isWhole : Decimal.IsWhole whole)
    (stop : NoDigit rest) : skipNumber (whole ++ rest) = skipScale rest := by
  obtain ⟨c, others, rfl, digit, dropped⟩ := exists_digit isWhole.numeral
  rw [List.cons_append]
  by_cases zero : c = '0'
  · -- A zero in front stands alone.
    subst zero
    obtain rfl : others = [] := (List.cons.inj (isWhole.lone rfl)).2
    cases rest with
    | nil => rfl
    | cons d rest => simp only [List.nil_append, skipNumber, stop d rfl, Bool.false_eq_true, if_false]
  · rw [skipNumber, if_pos digit, dropped rest stop]
    exact zero

/-- Where a digit stands, a number is passed over. -/
theorem skipValue_digit {c : Char} (digit : c.isDigit = true) (fuel : Nat) (rest : List Char) :
    skipValue (fuel + 1) (c :: rest) = skipNumber (c :: rest) := by
  rw [skipValue, skipSpace_solid (solid_cons (isSpace_digit digit))]
  -- No mark that starts another value is a digit.
  split
  · rename_i same
    cases same
  all_goals
    rename_i same
    cases same
    first
    | cases digit
    | exact if_pos digit

/-- A literal of a number is passed over, whichever number it is. -/
theorem skipValue_number {literal rest : List Char} (number : NumberText literal) (fuel : Nat)
    (ended : Ended rest) : skipValue (fuel + 1) (literal ++ rest) = .ok rest := by
  obtain ⟨sign, whole, fraction, exponent, rfl, signed, isWhole, broken, scaled⟩ := number
  have stop : NoDigit (fraction ++ (exponent ++ rest)) := broken.noDigit (scaled.noDigit ended)
  have passed : skipNumber (whole ++ (fraction ++ (exponent ++ rest))) = .ok rest := by
    rw [skipNumber_whole isWhole stop, skipScale_written broken scaled ended]
  simp only [List.append_assoc]
  -- A sign is seen as the mark of a number; without one, the first digit is.
  rcases signed with rfl | rfl
  · obtain ⟨c, others, rfl, digit, -⟩ := exists_digit isWhole.numeral
    exact (skipValue_digit digit fuel _).trans passed
  · rw [List.singleton_append, skipValue, skipSpace_solid (solid_cons rfl)]
    exact passed

/-! ### Values -/

/-- A word is passed over, as it is read. -/
private theorem skipValue_word (fuel : Nat) (rest : List Char) :
    skipValue (fuel + 1) ("null".toList ++ rest) = .ok rest ∧
      ∀ value : Bool, skipValue (fuel + 1) ((toString value).toList ++ rest) = .ok rest := by
  have null : "null".toList ++ rest = 'n' :: ("ull".toList ++ rest) := rfl
  have true_ : (toString true).toList ++ rest = 't' :: ("rue".toList ++ rest) := rfl
  have false_ : (toString false).toList ++ rest = 'f' :: ("alse".toList ++ rest) := rfl
  refine ⟨?_, fun value => ?_⟩
  · rw [null, skipValue, skipSpace_solid (solid_cons rfl)]
    simp only [readWord_append, map_ok]
  · cases value with
    | true =>
      rw [true_, skipValue, skipSpace_solid (solid_cons rfl)]
      simp only [readWord_append, map_ok]
    | false =>
      rw [false_, skipValue, skipSpace_solid (solid_cons rfl)]
      simp only [readWord_append, map_ok]

/-- A value is passed over behind a gap as without it. -/
theorem skipValue_gap {gap : List Char} (blank : Gap gap) (fuel : Nat) (text : List Char) :
    skipValue (fuel + 1) (gap ++ text) = skipValue (fuel + 1) text := by
  rw [skipValue, skipValue, skipSpace_append blank]

/-- A value is passed over in every text that writes it, with fuel for the length of the text. -/
def PassedOver (value : Json) : Prop :=
  -- A number has no mark at its end, so what stands behind it has to show where it ends.
  ∀ {written : List Char}, Written value written → ∀ {fuel : Nat} {rest : List Char},
    written.length ≤ fuel + 1 → Ended rest → skipValue (fuel + 1) (written ++ rest) = .ok rest

/-- A value that is passed over is passed over behind a gap. -/
theorem PassedOver.behind {value : Json} (passed : PassedOver value) {written gap : List Char}
    (own : Written value written) (blank : Gap gap) {fuel : Nat} (fuelled : written.length ≤ fuel)
    {rest : List Char} (ended : Ended rest) : skipValue fuel (gap ++ (written ++ rest)) = .ok rest := by
  obtain ⟨fuel, rfl⟩ := Nat.exists_eq_succ_of_ne_zero (own.length_pos.trans_le fuelled).ne'
  rw [skipValue_gap blank, passed own fuelled ended]

/-- Items of an array, of which there is one at least, are passed over up to the end of the array. -/
theorem skipItems_written {item : Json} {others : List Json}
    (each : ∀ other ∈ item :: others, PassedOver other) {lead shown more gap : List Char}
    (opening : Gap lead) (own : Written item shown)
    (later : WrittenItems false others more) (blank : Gap gap) {fuel : Nat}
    (fuelled : shown.length + more.length < fuel) (rest : List Char) :
    skipItems fuel (lead ++ (shown ++ (more ++ (gap ++ ']' :: rest)))) = .ok rest := by
  -- One step is for the first item; each of the others brings a comma, and with it a step of its own.
  induction others generalizing item lead shown more fuel with
  | nil =>
    have passed : PassedOver item := each item List.mem_cons_self
    have ended := later.ended (Ended.gap blank (ended_mark (.inr (.inl rfl)) rest))
    obtain ⟨fuel, rfl⟩ : ∃ less, fuel = less + 1 := ⟨fuel - 1, by omega⟩
    rw [skipItems, passed.behind own opening (by omega) ended, ok_bind]
    -- Nothing but a gap stands between the last item and the end.
    rw [WrittenItems] at later
    rw [later, List.nil_append, skipSpace_gap blank (solid_cons rfl)]
    rfl
  | cons next others ih =>
    have passed : PassedOver item := each item List.mem_cons_self
    have ended := later.ended (Ended.gap blank (ended_mark (.inr (.inl rfl)) rest))
    rw [WrittenItems] at later
    obtain ⟨before, after, shownNext, moreNext, blankBefore, blankAfter, ownNext, laterNext, rfl⟩ := later
    simp only [List.length_append, comma, Bool.false_eq_true, if_false, List.length_singleton] at fuelled
    obtain ⟨fuel, rfl⟩ : ∃ less, fuel = less + 1 := ⟨fuel - 1, by omega⟩
    -- Behind the first item stands a comma, and behind the comma the others begin as the first one did.
    have parted : before ++ (comma false ++ after ++ shownNext) ++ moreNext ++ (gap ++ ']' :: rest) =
        before ++ ',' :: (after ++ (shownNext ++ (moreNext ++ (gap ++ ']' :: rest)))) := by
      simp [comma]
    rw [skipItems, passed.behind own opening (by omega) ended, ok_bind, parted,
      skipSpace_gap blankBefore (solid_cons rfl)]
    exact ih (fun other among => each other (List.mem_cons_of_mem _ among)) blankAfter ownNext laterNext
      (by omega)

/-- The key and the colon of a member are passed over before its value. -/
theorem skipMembers_key {lead name between : List Char} {key : String} (opening : Gap lead)
    (named : StringText key name) (blank : Gap between) {fuel : Nat} {text after : List Char}
    (passed : skipValue fuel text = .ok after) :
    skipMembers (fuel + 1) (lead ++ (name ++ (between ++ ':' :: text))) =
      match skipSpace after with
      | [] => .error (.before .endInObject [])
      | ',' :: rest => skipMembers fuel rest
      | '}' :: rest => .ok rest
      | c :: rest => .error (.on .objectCommaWanted (c :: rest)) := by
  obtain ⟨spelled, spells, rfl⟩ := named
  simp only [List.cons_append, List.append_assoc, List.nil_append]
  rw [skipMembers, skipSpace_gap opening (solid_cons rfl)]
  simp only [skipString_spells spells, ok_bind, readColon_gap blank, passed]
  rfl

/-- Members of an object, of which there is one at least, are passed over up to the end of the object. -/
theorem skipMembers_written {key : String} {value : Json} {others : List (String × Json)}
    (each : ∀ member ∈ (key, value) :: others, PassedOver member.2)
    {lead name between space shown more gap : List Char} (opening : Gap lead) (named : StringText key name)
    (blankBetween : Gap between) (blankSpace : Gap space) (own : Written value shown)
    (later : WrittenMembers false others more) (blank : Gap gap) {fuel : Nat}
    (fuelled : shown.length + more.length < fuel) (rest : List Char) :
    skipMembers fuel
        (lead ++ (name ++ (between ++ ':' :: (space ++ (shown ++ (more ++ (gap ++ '}' :: rest))))))) =
      .ok rest := by
  -- The fuel is spent as on items; a key takes none, as it is no value.
  induction others generalizing key value lead name between space shown more fuel with
  | nil =>
    have passed : PassedOver value := each _ List.mem_cons_self
    have ended := later.ended (Ended.gap blank (ended_mark (.inr (.inr rfl)) rest))
    obtain ⟨fuel, rfl⟩ : ∃ less, fuel = less + 1 := ⟨fuel - 1, by omega⟩
    rw [skipMembers_key opening named blankBetween (passed.behind own blankSpace (by omega) ended)]
    rw [WrittenMembers] at later
    rw [later, List.nil_append, skipSpace_gap blank (solid_cons rfl)]
    rfl
  | cons next others ih =>
    obtain ⟨nextKey, nextValue⟩ := next
    have passed : PassedOver value := each _ List.mem_cons_self
    have ended := later.ended (Ended.gap blank (ended_mark (.inr (.inr rfl)) rest))
    rw [WrittenMembers] at later
    obtain ⟨before, after, nameNext, betweenNext, spaceNext, shownNext, moreNext, blankBefore, blankAfter,
      namedNext, blankBetweenNext, blankSpaceNext, ownNext, laterNext, rfl⟩ := later
    simp only [List.length_append, List.length_cons] at fuelled
    obtain ⟨fuel, rfl⟩ : ∃ less, fuel = less + 1 := ⟨fuel - 1, by omega⟩
    have parted : before ++ (comma false ++ after ++ nameNext ++ betweenNext ++ ':' :: spaceNext ++ shownNext) ++
        moreNext ++ (gap ++ '}' :: rest) = before ++ ',' :: (after ++ (nameNext ++ (betweenNext ++ ':' ::
          (spaceNext ++ (shownNext ++ (moreNext ++ (gap ++ '}' :: rest))))))) := by
      simp [comma]
    rw [skipMembers_key opening named blankBetween (passed.behind own blankSpace (by omega) ended), parted,
      skipSpace_gap blankBefore (solid_cons rfl)]
    exact ih (fun member among => each member (List.mem_cons_of_mem _ among)) blankAfter namedNext
      blankBetweenNext blankSpaceNext ownNext laterNext (by omega)

/-- An array is passed over when its items are. -/
theorem PassedOver.array {items : List Json} (each : ∀ item ∈ items, PassedOver item) :
    PassedOver (.array items) := by
  intro written writes fuel rest fuelled _
  rw [Written] at writes
  obtain ⟨body, gap, inside, blank, rfl⟩ := writes
  have text : '[' :: (body ++ gap) ++ [']'] ++ rest = '[' :: (body ++ (gap ++ ']' :: rest)) := by simp
  rw [text, skipValue, skipSpace_solid (solid_cons rfl)]
  cases items with
  | nil =>
    have closed : skipSpace (gap ++ ']' :: rest) = ']' :: rest := skipSpace_gap blank (solid_cons rfl)
    rw [WrittenItems] at inside
    simp only [inside, List.nil_append, closed]
  | cons item others =>
    rw [WrittenItems] at inside
    obtain ⟨before, after, shown, more, blankBefore, blankAfter, own, later, rfl⟩ := inside
    simp only [List.length_append, List.length_cons] at fuelled
    -- Before the first item stand only gaps, and its first character ends no array.
    have enough : shown.length + more.length < fuel := by omega
    have passed := skipItems_written each gap_nil own later blank enough rest
    obtain ⟨c, letters, rfl, mark, going⟩ := own.head
    have found : skipSpace (before ++ (comma true ++ after ++ c :: letters) ++ more ++ (gap ++ ']' :: rest)) =
        c :: (letters ++ (more ++ (gap ++ ']' :: rest))) := by
      simp only [comma, if_true, List.nil_append, List.append_assoc, List.cons_append]
      rw [skipSpace_append blankBefore, skipSpace_gap blankAfter (solid_cons mark)]
    rw [List.nil_append, List.cons_append] at passed
    simp only [found]
    split
    · contradiction
    · rename_i same
      exact absurd (List.cons.inj same).1 going
    · exact passed

/-- An object is passed over when its values are. -/
theorem PassedOver.object {members : List (String × Json)} (each : ∀ member ∈ members, PassedOver member.2) :
    PassedOver (.object members) := by
  intro written writes fuel rest fuelled _
  rw [Written] at writes
  obtain ⟨body, gap, inside, blank, rfl⟩ := writes
  have text : '{' :: (body ++ gap) ++ ['}'] ++ rest = '{' :: (body ++ (gap ++ '}' :: rest)) := by simp
  rw [text, skipValue, skipSpace_solid (solid_cons rfl)]
  cases members with
  | nil =>
    have closed : skipSpace (gap ++ '}' :: rest) = '}' :: rest := skipSpace_gap blank (solid_cons rfl)
    rw [WrittenMembers] at inside
    simp only [inside, List.nil_append, closed]
  | cons member others =>
    obtain ⟨key, value⟩ := member
    rw [WrittenMembers] at inside
    obtain ⟨before, after, name, between, space, shown, more, blankBefore, blankAfter, named, blankBetween,
      blankSpace, own, later, rfl⟩ := inside
    simp only [List.length_append, List.length_cons] at fuelled
    have enough : shown.length + more.length < fuel := by omega
    have passed := skipMembers_written each gap_nil named blankBetween blankSpace own later blank enough rest
    -- The first key begins with a quotation mark, which ends no object.
    obtain ⟨spelled, -, rfl⟩ := named
    have found : skipSpace (before ++ (comma true ++ after ++ ('"' :: spelled ++ ['"']) ++ between ++
        ':' :: space ++ shown) ++ more ++ (gap ++ '}' :: rest)) =
          '"' :: (spelled ++ '"' :: (between ++ ':' :: (space ++ (shown ++ (more ++ (gap ++ '}' :: rest)))))) := by
      simp only [comma, if_true, List.nil_append, List.append_assoc, List.cons_append]
      rw [skipSpace_append blankBefore, skipSpace_gap blankAfter (solid_cons rfl)]
    simp only [List.nil_append, List.cons_append, List.append_assoc] at passed
    simp only [found]
    exact passed

/-- Every value is passed over, however deep it is nested and whichever numbers it has. -/
theorem passedOver (value : Json) : PassedOver value := by
  induction value using nested_induction with
  | null =>
    intro written writes fuel rest _ _
    rw [Written] at writes
    exact writes ▸ (skipValue_word fuel rest).1
  | bool value =>
    intro written writes fuel rest _ _
    rw [Written] at writes
    exact writes ▸ (skipValue_word fuel rest).2 value
  | number value =>
    intro written writes fuel rest _ ended
    rw [Written] at writes
    exact skipValue_number writes.numberText fuel ended
  | string value =>
    intro written writes fuel rest _ _
    rw [Written] at writes
    obtain ⟨spelled, spells, rfl⟩ := writes
    rw [List.append_assoc, List.cons_append, skipValue, skipSpace_solid (solid_cons rfl)]
    exact skipString_spells spells rest
  | array items ih => exact PassedOver.array ih
  | object members ih => exact PassedOver.object ih

/-- A value is passed over behind a gap, with fuel for the length of its text. -/
theorem skipValue_written {value : Json} {written gap : List Char} (own : Written value written)
    (blank : Gap gap) {fuel : Nat} (fuelled : written.length ≤ fuel) {rest : List Char}
    (ended : Ended rest) : skipValue fuel (gap ++ (written ++ rest)) = .ok rest :=
  PassedOver.behind (passedOver value) own blank fuelled ended

end Placard.Json

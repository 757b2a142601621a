import Placard.Proofs.Settings.Layers
import Placard.Proofs.Settings.Timeout

/-! Texts from variables: a number is kept in the spelling of its own, and any other text as it was given. -/

namespace Placard

namespace Decimal

/-! ### Characters of numbers -/

/-- A character that may stand in a text which is read as a number with a point. -/
def Numeric (c : Char) : Prop := c.isDigit = true ∨ c ∈ ['.', 'e', 'E', '-', '+']

instance (c : Char) : Decidable (Numeric c) :=
  inferInstanceAs (Decidable (c.isDigit = true ∨ c ∈ ['.', 'e', 'E', '-', '+']))

/-- What is read as digits has numeric characters only. -/
theorem numeric_of_digits? {text : List Char} {value : Nat} (read : digits? text = some value) :
    ∀ c ∈ text, Numeric c := by
  obtain ⟨zeros, rfl⟩ := digits?_eq_some_iff.mp read
  exact fun c member => .inl ((isNumeral_zeros zeros value).2 c member)

/-- What is read as an exponent has numeric characters only. -/
theorem numeric_of_exponent? {text : List Char} {value : Int} (read : exponent? text = some value) :
    ∀ c ∈ text, Numeric c := by
  unfold exponent? at read
  split at read
  · simp
  · rename_i mark rest
    split at read
    · cases read
    · rename_i known
      have marking : Numeric mark := by
        simp only [Bool.and_eq_true, bne_iff_ne, not_and, not_not] at known
        by_cases small : mark = 'e'
        · exact .inr (by simp [small])
        · exact .inr (by simp [known small])
      refine List.forall_mem_cons.mpr ⟨marking, ?_⟩
      -- Behind the mark stands a sign, or none, and then digits.
      split at read
      · rename_i digits
        obtain ⟨_, denoted, -⟩ := Option.map_eq_some_iff.mp read
        obtain ⟨size, whole, -⟩ := Option.bind_eq_some_iff.mp denoted
        exact List.forall_mem_cons.mpr ⟨.inr (by simp), numeric_of_digits? whole⟩
      · rename_i digits
        obtain ⟨size, whole, -⟩ := Option.map_eq_some_iff.mp read
        exact List.forall_mem_cons.mpr ⟨.inr (by simp), numeric_of_digits? whole⟩
      · obtain ⟨size, whole, -⟩ := Option.map_eq_some_iff.mp read
        exact numeric_of_digits? whole

/-- A text whose characters behind its first digits are numeric has numeric characters only. -/
theorem numeric_of_drop {text : List Char}
    (behind : ∀ c ∈ text.drop (text.takeWhile Char.isDigit).length, Numeric c) :
    ∀ c ∈ text, Numeric c := by
  rw [drop_takeWhile] at behind
  rw [← List.takeWhile_append_dropWhile (p := Char.isDigit) (l := text)]
  exact List.forall_mem_append.mpr ⟨fun c member => .inl (List.mem_takeWhile_imp member), behind⟩

/-- What is read as a magnitude has numeric characters only. -/
theorem numeric_of_magnitude? {text : List Char} {value : Float} (read : magnitude? text = some value) :
    ∀ c ∈ text, Numeric c := by
  unfold magnitude? at read
  simp only [Option.ite_none_left_eq_some] at read
  obtain ⟨-, read⟩ := read
  obtain ⟨exponent, tail, -⟩ := Option.bind_eq_some_iff.mp read
  have behind := numeric_of_exponent? tail
  apply numeric_of_drop
  -- The exponent stands behind the digits of the fraction, or at once behind the whole part.
  split at behind
  · rename_i rest start
    rw [start]
    simp only at behind
    exact List.forall_mem_cons.mpr ⟨.inr (by simp), numeric_of_drop behind⟩
  · exact behind

/-- A text with a point is none of the words for numbers. -/
theorem sameIgnoringCase_of_point {text : List Char} (point : '.' ∈ text) {word : String}
    (letters : '.' ∉ word.toList.map Char.toLower) : Text.sameIgnoringCase word.toList text = false := by
  refine beq_false_of_ne fun same => letters ?_
  rw [same]
  exact List.mem_map_of_mem point

/-- What is read as a number with a point has numeric characters only. -/
theorem numeric_of_float? {text : List Char} {value : Float} (point : '.' ∈ text)
    (read : float? text = some value) : ∀ c ∈ text, Numeric c := by
  -- A text with a point can be a magnitude only, once the sign, if there is one, is taken off.
  have own {unsigned : List Char} (inside : '.' ∈ unsigned) {number : Float}
      (found : (if Text.sameIgnoringCase "inf".toList unsigned ||
          Text.sameIgnoringCase "infinity".toList unsigned then some (1.0 / 0.0)
        else if Text.sameIgnoringCase "nan".toList unsigned then some (Float.ofBits 0x7FF8000000000000)
        else magnitude? unsigned) = some number) : ∀ c ∈ unsigned, Numeric c := by
    rw [sameIgnoringCase_of_point inside (by decide), sameIgnoringCase_of_point inside (by decide),
      sameIgnoringCase_of_point inside (by decide)] at found
    exact numeric_of_magnitude? found
  cases text with
  | nil => cases point
  | cons c rest =>
    by_cases minus : c = '-'
    · subst minus
      obtain ⟨size, magnitude, -⟩ := Option.map_eq_some_iff.mp read
      exact List.forall_mem_cons.mpr ⟨.inr (by simp), own (by simpa using point) magnitude⟩
    · by_cases plus : c = '+'
      · subst plus
        exact List.forall_mem_cons.mpr ⟨.inr (by simp), own (by simpa using point) read⟩
      · unfold float? at read
        simp only [List.head?_cons] at read
        rw [if_neg (by simpa using minus)] at read
        split at read
        · rename_i front
          exact absurd (List.cons.inj front).1 minus
        · rename_i front
          exact absurd (List.cons.inj front).1 plus
        · exact own point read

/-! ### Numbers as they are written -/

/-- A text without blanks. -/
def Solid (text : String) : Prop := ∀ c ∈ text.toList, Text.isBlank c = false

instance (text : String) : Decidable (Solid text) := List.decidableBAll _ text.toList

/-- Two texts without blanks make one. -/
theorem Solid.append {first second : String} (one : Solid first) (two : Solid second) :
    Solid (first ++ second) := by
  rw [Solid, String.toList_append]
  exact List.forall_mem_append.mpr ⟨one, two⟩

/-- Digits are a text without blanks. -/
theorem solid_digits {digits : List Char} (each : ∀ c ∈ digits, c.isDigit = true) :
    Solid (.ofList digits) := by
  rw [Solid, String.toList_ofList]
  exact fun c member => Text.isBlank_of_isDigit (each c member)

/-- Digits around a point are a text without blanks. -/
theorem solid_positionalText {digits : List Char} (each : ∀ c ∈ digits, c.isDigit = true) (point : Int) :
    Solid (positionalText plain digits point) := by
  have zeros_ (count : Nat) : Solid (zeros count) := solid_digits isDigit_of_mem_zeros
  have start : Solid "0." := by decide
  have mark : Solid "." := by decide
  have tail : (if plain.keepsPoint then ".0" else "") = "" := rfl
  unfold positionalText
  simp only [tail]
  split
  · exact (start.append (zeros_ _)).append (solid_digits each)
  split
  · rw [String.append_empty]
    exact (solid_digits each).append (zeros_ _)
  · have before := solid_digits fun c member => each c (List.mem_of_mem_take (i := point.toNat) member)
    have behind := solid_digits fun c member => each c (List.mem_of_mem_drop (i := point.toNat) member)
    exact (before.append mark).append behind

/-- A whole number is written without blanks. -/
theorem solid_toString (value : Int) : Solid (toString value) := by
  have digits : Solid (.ofList (Nat.toDigits 10 value.natAbs)) := solid_digits (isNumeral_toDigits _).2
  have sign : Solid (.ofList (if value < 0 then ['-'] else [])) := by
    split
    · decide
    · decide
  have written : toString value = .ofList (if value < 0 then ['-'] else []) ++
      .ofList (Nat.toDigits 10 value.natAbs) := by
    rw [← String.ofList_append, ← toList_toString, String.ofList_toList]
  rw [written]
  exact sign.append digits

/-- A number in running text is written without blanks. -/
theorem solid_plain (value : Float) : Solid (plain.write value) := by
  have size : Solid (magnitudeText plain value) := by
    unfold magnitudeText
    split
    · decide
    · exact solid_positionalText (isNumeral_toDigits _).2 _
  unfold Layout.write
  split
  · decide
  · refine Solid.append ?_ ?_
    · split
      · decide
      · decide
    · split
      · decide
      · exact size

end Decimal

namespace Variable

open Settings (lenientText?)

/-! ### Numbers in variables -/

/-- What is read as it stands spells no number. -/
theorem not_spellsNumber {letters : List Char} {text : String} (stands : readBare letters = .text text)
    (number : Scalar) : ¬ SpellsNumber letters number := by
  intro spells
  rw [spells.readBare_eq] at stands
  subst stands
  cases spells

/-- A text that spells no number is read as it stands. -/
theorem readBare_other {letters : List Char} (other : ∀ number, ¬ SpellsNumber letters number) :
    readBare letters = .text (.ofList letters) :=
  (readBare_cases letters).resolve_left (other _)

/-- A number is spelled with numeric characters only. -/
theorem SpellsNumber.numeric {letters : List Char} {number : Scalar} (spells : SpellsNumber letters number) :
    ∀ c ∈ letters, Decimal.Numeric c := by
  have digits (zeros value : Nat) :
      ∀ c ∈ List.replicate zeros '0' ++ Nat.toDigits 10 value, Decimal.Numeric c :=
    fun c member => .inl ((Decimal.isNumeral_zeros zeros value).2 c member)
  cases spells with
  | whole spells within =>
    obtain ⟨sign, zeros, rfl, rfl | rfl⟩ := spells
    · exact digits zeros _
    · exact List.forall_mem_cons.mpr ⟨.inr (by simp), digits zeros _⟩
  | negative zeros within => exact List.forall_mem_cons.mpr ⟨.inr (by simp), digits zeros _⟩
  | fraction point read => exact Decimal.numeric_of_float? point read

/-- A number is written as a text that is the same when it is trimmed. -/
theorem SpellsNumber.written {letters : List Char} {number : Scalar} (spells : SpellsNumber letters number) :
    ∃ kept, lenientText? number = some kept ∧ Text.trim kept = kept := by
  -- None of the three ways to write a number has blanks.
  cases spells with
  | @whole letters value =>
    have solid : Decimal.Solid (toString value) := Decimal.solid_toString (.ofNat value)
    exact ⟨_, rfl, Text.trim_of_forall solid⟩
  | negative => exact ⟨_, rfl, Text.trim_of_forall (Decimal.solid_toString _)⟩
  | fraction => exact ⟨_, rfl, Text.trim_of_forall (Decimal.solid_plain _)⟩

/-! ### Values of variables -/

/-- A text whose first character behind gaps opens no quotation, list or table.

Gaps are blanks, so it is enough that the first character behind all blanks opens none. -/
def Unmarked (text : String) : Prop :=
  ∀ c, (skipGaps text.toList).head? = some c → c ∉ ['"', '\'', '[', '{']

instance (text : String) : Decidable (Unmarked text) :=
  decidable_of_iff ((skipGaps text.toList).head?.all fun c => decide (c ∉ ['"', '\'', '[', '{']))
    (by unfold Unmarked; cases (skipGaps text.toList).head? <;> simp)

/-- A separator is neither a blank nor a numeric character. -/
theorem not_isSeparator {c : Char} (other : Text.isBlank c = true ∨ Decimal.Numeric c) :
    isSeparator c = false := by
  have apart : (",\x7b\x7d[]".toList.all fun c => !(Text.isBlank c || decide (Decimal.Numeric c))) = true := by
    decide
  by_contra separates
  rw [Bool.not_eq_false, isSeparator, List.contains_iff_mem] at separates
  have neither := List.all_eq_true.mp apart c separates
  rcases other with blank | numeric
  · simp [blank] at neither
  · simp [numeric] at neither

/-- A text that spells a number between its blanks is taken for the number as a whole. -/
theorem readValue?_number {text : String} {number : Scalar}
    (spells : SpellsNumber (Text.inner text.toList) number) (fuel : Nat) :
    readValue? (fuel + 1) text.toList = some (.scalar .environment number, []) := by
  have each : ∀ c ∈ skipGaps text.toList, Text.isBlank c = true ∨ Decimal.Numeric c := by
    intro c member
    cases blank : Text.isBlank c with
    | true => exact .inl rfl
    | false =>
      exact .inr (spells.numeric c (Text.mem_inner ((List.dropWhile_suffix isGap).mem member) blank))
  -- No word, list, table or quotation begins with a blank or a numeric character.
  have foreign {c : Char} {rest : List Char} (start : skipGaps text.toList = c :: rest)
      (other : ¬ (Text.isBlank c = true ∨ Decimal.Numeric c)) : False := by
    rw [start] at each
    exact other (each c List.mem_cons_self)
  rw [readValue?]
  split
  · rename_i rest start
    exact (foreign start (by decide)).elim
  · rename_i rest start
    exact (foreign start (by decide)).elim
  · rename_i rest start
    exact (foreign start (by decide)).elim
  · rename_i rest start
    exact (foreign start (by decide)).elim
  · rename_i rest start
    exact (foreign start (by decide)).elim
  · rename_i c rest start
    exact (foreign start (by decide)).elim
  · rename_i rest other start
    exact (foreign start (by decide)).elim
  · -- Nor is one of them a separator, so that the value goes up to the end.
    have whole : (skipGaps text.toList).takeWhile (!isSeparator ·) = skipGaps text.toList := by
      rw [List.takeWhile_eq_self_iff]
      exact fun c member => by rw [not_isSeparator (each c member)]; rfl
    have same : Text.inner (skipGaps text.toList) = Text.inner text.toList := by
      rw [Text.inner, dropBlanks_skipGaps, Text.inner]
    simp only [whole, same, spells.readBare_eq, List.drop_length]
    rfl

/-- A text that spells a number between its blanks is taken for the number. -/
theorem readValue_number {text : String} {number : Scalar}
    (spells : SpellsNumber (Text.inner text.toList) number) :
    readValue text = .scalar .environment number := by
  rw [readValue, readValue?_number spells]

/-- A word with nothing but gaps around it is the trimmed text. -/
theorem trim_word {text word : String} {rest : List Char} (start : skipGaps text.toList = word.toList ++ rest)
    (some_ : word.toList ≠ []) (solid : Decimal.Solid word) (end_ : skipGaps rest = []) :
    Text.trim text = word := by
  have front : Text.dropBlanks text.toList = word.toList ++ rest := by
    rw [← dropBlanks_skipGaps, start]
    obtain ⟨c, others, letters⟩ := List.exists_cons_of_ne_nil some_
    have first : Text.isBlank c = false := solid c (by simp [letters])
    rw [letters, List.cons_append, Text.dropBlanks_cons first]
  have back : Text.cutBlanks rest = [] := by
    rw [skipGaps, List.dropWhile_eq_nil_iff] at end_
    rw [Text.cutBlanks, List.reverse_eq_nil_iff, List.dropWhile_eq_nil_iff]
    exact fun c member => isBlank_of_isGap (end_ c (List.mem_reverse.mp member))
  rw [Text.trim, Text.inner, front, Text.cutBlanks_append solid, back, List.append_nil, String.ofList_toList]

/-- A value that takes up an unmarked text without a number is written as the text is. -/
theorem readValue?_other {text : String} (unmarked : Unmarked text)
    (other : ∀ number, ¬ SpellsNumber (Text.inner text.toList) number) {fuel : Nat} {given : Given}
    (read : readValue? fuel text.toList = some (given, [])) :
    ∃ value kept, given = .scalar .environment value ∧ lenientText? value = some kept ∧
      Text.trim kept = Text.trim text := by
  have same : Text.inner (skipGaps text.toList) = Text.inner text.toList := by
    rw [Text.inner, dropBlanks_skipGaps, Text.inner]
  cases fuel with
  | zero =>
    rw [readValue?] at read
    cases read
  | succ fuel =>
    -- The two words are written as they are read, and a bare text is no number here.
    rw [readValue?] at read
    split at read
    · rename_i rest start
      simp only [Option.some.injEq, Prod.mk.injEq] at read
      obtain ⟨rfl, end_⟩ := read
      have trimmed : Text.trim text = "true" := trim_word start (by decide) (by decide) end_
      exact ⟨.bool true, "true", rfl, rfl, trimmed.symm⟩
    · rename_i rest start
      simp only [Option.some.injEq, Prod.mk.injEq] at read
      obtain ⟨rfl, end_⟩ := read
      have trimmed : Text.trim text = "false" := trim_word start (by decide) (by decide) end_
      exact ⟨.bool false, "false", rfl, rfl, trimmed.symm⟩
    · rename_i rest start
      exact absurd (by simp) (unmarked _ (congrArg List.head? start))
    · rename_i rest start
      exact absurd (by simp) (unmarked _ (congrArg List.head? start))
    · rename_i rest start
      exact absurd (by simp) (unmarked _ (congrArg List.head? start))
    · rename_i c rest start
      exact absurd (by simp) (unmarked _ (congrArg List.head? start))
    · rename_i rest letter start
      exact absurd (by simp) (unmarked _ (congrArg List.head? start))
    · simp only [Option.some.injEq, Prod.mk.injEq] at read
      obtain ⟨rfl, end_⟩ := read
      rw [takeWhile_of_skipGaps end_, same, readBare_other other]
      refine ⟨_, _, rfl, rfl, ?_⟩
      rw [Text.trim, String.toList_ofList, Text.inner_inner, Text.trim]

/-- An unmarked text that spells no number is taken as a single value, which is written as the text is. -/
theorem readValue_other {text : String} (unmarked : Unmarked text)
    (other : ∀ number, ¬ SpellsNumber (Text.inner text.toList) number) :
    ∃ value kept, readValue text = .scalar .environment value ∧ lenientText? value = some kept ∧
      Text.trim kept = Text.trim text := by
  -- What breaks the grammar is taken letter for letter, with all its blanks.
  rw [readValue]
  split
  · rename_i given read
    exact readValue?_other unmarked other read
  · exact ⟨.text text, text, rfl, rfl, rfl⟩

/-- What is kept of a text: a number in the spelling of its own, and else the text but for blanks. -/
structure Keeps (text kept : String) : Prop where
  number : ∀ number, SpellsNumber (Text.inner text.toList) number → lenientText? number = some kept
  /-- The text itself is kept exactly if it is not a number in another spelling. -/
  same_iff : Text.trim kept = Text.trim text ↔
    ∀ number, SpellsNumber (Text.inner text.toList) number → lenientText? number = some (Text.trim text)

/-- An unmarked text is taken as a single value, which is written as what is kept of the text. -/
theorem readValue_unmarked {text : String} (unmarked : Unmarked text) :
    ∃ value kept, readValue text = .scalar .environment value ∧ lenientText? value = some kept ∧
      Keeps text kept := by
  by_cases number : ∃ number, SpellsNumber (Text.inner text.toList) number
  · obtain ⟨number, spells⟩ := number
    obtain ⟨kept, written, trimmed⟩ := spells.written
    -- A text spells one number at most, as it is read in one way.
    have only {other : Scalar} (spells' : SpellsNumber (Text.inner text.toList) other) : other = number :=
      spells'.readBare_eq.symm.trans spells.readBare_eq
    refine ⟨number, kept, readValue_number spells, written, fun other spells' => ?_, ?_, ?_⟩
    · rw [only spells', written]
    · intro same other spells'
      rw [only spells', written, ← same, trimmed]
    · intro own
      rw [trimmed]
      exact Option.some.inj (written.symm.trans (own number spells))
  · have other (value : Scalar) : ¬ SpellsNumber (Text.inner text.toList) value :=
      fun spells => number ⟨value, spells⟩
    obtain ⟨value, kept, read, written, same⟩ := readValue_other unmarked other
    exact ⟨value, kept, read, written, fun number spells => absurd spells (other number),
      fun _ number spells => absurd spells (other number), fun _ => same⟩

end Variable

namespace Settings

/-- The leaves that are texts in themselves, and not paths. -/
def Leaf.texts : List Leaf := [.template, .note, .userAgent]

/-- What settings hold at a leaf that is a text. -/
def Leaf.text? (settings : Settings) : Leaf → Option String
  | template => some settings.template
  | note => settings.note
  | userAgent => settings.web.userAgent
  | _ => none

/-- A value that is written as a text is of the right type for every leaf that is one. -/
theorem read?_texts {leaf : Leaf} (textual : leaf ∈ Leaf.texts) {value : Scalar} {kept : String}
    (written : lenientText? value = some kept) : (leaf.kind.read? value).isSome ∧
      ∀ settings, leaf.kind.read? value = some (leaf.get settings) → leaf.text? settings = some kept := by
  -- A value that may be absent is read as it would be without this, for it is there.
  have there : whenThere? lenientText? value = some (some kept) := by
    cases value <;> cases written <;> rfl
  simp only [Leaf.texts, List.mem_cons, List.not_mem_nil, or_false] at textual
  rcases textual with rfl | rfl | rfl
  · exact ⟨Option.isSome_of_eq_some written, fun settings read => read.symm.trans written⟩
  · exact ⟨Option.isSome_of_eq_some there, fun settings read => Option.some.inj (read.symm.trans there)⟩
  · exact ⟨Option.isSome_of_eq_some there, fun settings read => Option.some.inj (read.symm.trans there)⟩

/-- A text that a variable gives to a setting is kept but for blanks at its ends, unless it is a number in
another spelling than its own: then the number is kept in its own spelling. -/
theorem load_text {world : World} {path : String} {whole : Toml} {leaf : Leaf} {name text : String}
    {before after : List (String × String)} (holds : world.disk.Holds path whole) (file : whole.Fits)
    (entries : world.environment = before ++ (name, text) :: after)
    (others : ∀ entry ∈ before ++ after, Variable.Fits entry) (textual : leaf ∈ Leaf.texts)
    (named : Variable.keys? name = some leaf.path)
    (last : ∀ entry ∈ after, Variable.keys? entry.1 ≠ some leaf.path)
    (unmarked : Variable.Unmarked text) :
    ∃ settings kept,
      (load path : StateM World (Except StoreError Settings)).run world = (.ok settings, world) ∧
      leaf.text? settings = some kept ∧ Variable.Keeps text kept := by
  obtain ⟨value, kept, read, written, keeps⟩ := Variable.readValue_unmarked unmarked
  obtain ⟨typed, held⟩ := read?_texts textual written
  have single : (Variable.readValue text).scalar? = some value := by rw [read]; rfl
  have environment : ∀ entry ∈ world.environment, Variable.Fits entry := by
    rw [entries]
    intro entry member
    rcases List.mem_append.mp member with early | late
    · exact others entry (List.mem_append_left _ early)
    · rcases List.mem_cons.mp late with rfl | late
      · exact Variable.fits_of_keys named single typed
      · exact others entry (List.mem_append_right _ late)
  have sources : Sources world path whole := ⟨holds, file, environment⟩
  obtain ⟨settings, done, values⟩ := sources.load
  -- The variable is the last one for its leaf, and goes over the file and the usual value.
  have uppermost : Variable.scalarFor? world.environment leaf = some value := by
    rw [entries, Variable.scalarFor?_last named last, single]
  have given := values leaf
  simp only [layered, uppermost] at given
  exact ⟨settings, kept, done, held settings given, keeps⟩

/-- A number with a sign loses the sign, and a version is no number. -/
theorem load_text_version : ∃ settings kept,
    (load "config.toml" : StateM World (Except StoreError Settings)).run
      (someWorld [("WALLINFO_NOTE", " +5 "), ("WALLINFO_HTTP__USER_AGENT", " 1.2.3")]) =
        (.ok settings, someWorld [("WALLINFO_NOTE", " +5 "), ("WALLINFO_HTTP__USER_AGENT", " 1.2.3")]) ∧
    settings.note = some "5" ∧ settings.web.userAgent = some kept ∧ Text.trim kept = "1.2.3" := by
  have note : Variable.keys? "WALLINFO_NOTE" = some Leaf.note.path := by rfl
  have agent : Variable.keys? "WALLINFO_HTTP__USER_AGENT" = some Leaf.userAgent.path := by rfl
  have noteFits : Variable.Fits ("WALLINFO_NOTE", " +5 ") :=
    @Variable.fits_of_keys .note _ _ (.unsigned 5) note rfl rfl
  have agentFits : Variable.Fits ("WALLINFO_HTTP__USER_AGENT", " 1.2.3") :=
    @Variable.fits_of_keys .userAgent _ _ (.text "1.2.3") agent rfl rfl
  have fits : ∀ entry ∈ [("WALLINFO_NOTE", " +5 "), ("WALLINFO_HTTP__USER_AGENT", " 1.2.3")],
      Variable.Fits entry := by simp [noteFits, agentFits]
  have sources := someWorld_sources fits
  -- Each of the two stands beside the other one.
  have first : (someWorld [("WALLINFO_NOTE", " +5 "), ("WALLINFO_HTTP__USER_AGENT", " 1.2.3")]).environment =
      [] ++ ("WALLINFO_NOTE", " +5 ") :: [("WALLINFO_HTTP__USER_AGENT", " 1.2.3")] := rfl
  have second : (someWorld [("WALLINFO_NOTE", " +5 "), ("WALLINFO_HTTP__USER_AGENT", " 1.2.3")]).environment =
      [("WALLINFO_NOTE", " +5 ")] ++ ("WALLINFO_HTTP__USER_AGENT", " 1.2.3") :: [] := rfl
  obtain ⟨settings, five, done, held, keeps⟩ := load_text sources.holds sources.file first
    (by simpa using agentFits) (by decide) note (by simp [agent, Leaf.path]) (by decide)
  obtain ⟨settings', kept, done', held', keeps'⟩ := load_text sources.holds sources.file second
    (by simpa using noteFits) (by decide) agent (by simp) (by decide)
  have same : settings = settings' := Except.ok.inj (congrArg Prod.fst (done.symm.trans done'))
  subst same
  have number : Variable.SpellsNumber (Text.inner " +5 ".toList) (.unsigned 5) :=
    .whole ⟨['+'], 0, rfl, .inr rfl⟩ (by decide)
  have version : Variable.readBare (Text.inner " 1.2.3".toList) = .text "1.2.3" := by rfl
  have trimmed := keeps'.same_iff.mpr fun number spells =>
    absurd spells (Variable.not_spellsNumber version number)
  refine ⟨settings, kept, done, held.trans ?_, held', trimmed.trans (by decide)⟩
  exact (keeps.number _ number).symm

/-- Zeros in front of a number are not kept. -/
theorem load_text_zeros : Variable.Unmarked "007" ∧
    (load "config.toml" : StateM World (Except StoreError Settings)).run
        (bareWorld "WALLINFO_NOTE" "007") =
      (.ok { note := some "7" }, bareWorld "WALLINFO_NOTE" "007") ∧
    Text.trim "7" ≠ Text.trim "007" := by
  refine ⟨by decide, ?_, by decide⟩
  have fits : Variable.Fits ("WALLINFO_NOTE", "007") :=
    @Variable.fits_name .note "007" (.unsigned 7) rfl rfl
  obtain ⟨settings, done, values⟩ := (bareWorld_sources fits).load
  have same : settings = { note := some "7" } := by
    refine ext_leaves fun leaf => Option.some.inj ((values leaf).symm.trans ?_)
    cases leaf <;> rfl
  rw [done, same]

end Settings

end Placard

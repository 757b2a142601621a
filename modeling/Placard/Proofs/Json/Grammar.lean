import Placard.Proofs.Decimal.Numeral
import Placard.Proofs.Json.Items

/-! The grammar of JSON: which texts write a value, told without a reader. -/

namespace Placard.Json

/-- The digits of a fraction behind a point, or nothing. -/
def FractionText (text : List Char) : Prop :=
  text = [] ∨ ∃ digits, text = '.' :: digits ∧ Decimal.IsNumeral digits

/-- An exponent behind its mark, with or without a sign, or nothing. -/
def ExponentText (text : List Char) : Prop :=
  text = [] ∨ ∃ mark turn digits, text = mark :: turn ++ digits ∧ (mark = 'e' ∨ mark = 'E') ∧
    (turn = [] ∨ turn = ['+'] ∨ turn = ['-']) ∧ Decimal.IsNumeral digits

/-- A literal of a number: a sign, a whole number, a fraction and an exponent. -/
def NumberText (text : List Char) : Prop :=
  ∃ sign whole fraction exponent, text = sign ++ whole ++ fraction ++ exponent ∧
    (sign = [] ∨ sign = ['-']) ∧ Decimal.IsWhole whole ∧ FractionText fraction ∧
    ExponentText exponent

/-- A literal of a number: a whole number has one, and a floating-point number may have any. -/
def Number.Text : Number → List Char → Prop
  -- Which number a literal with a fraction or an exponent comes to is not told here.
  | .integer value, text => text = (toString value).toList
  | .float _, text => NumberText text

/-- A string between its quotation marks, however its characters are spelled. -/
def StringText (value : String) (text : List Char) : Prop :=
  ∃ spelled, Spells spelled value.toList ∧ text = '"' :: spelled ++ ['"']

mutual

/-- A text writes a value; the members of an object stand in the order of the text. -/
def Written : Json → List Char → Prop
  | .null, text => text = "null".toList
  | .bool value, text => text = (toString value).toList
  | .number value, text => value.Text text
  | .string value, text => StringText value text
  | .array items, text => ∃ body gap, WrittenItems true items body ∧ Gap gap ∧
      text = '[' :: (body ++ gap) ++ [']']
  | .object members, text => ∃ body gap, WrittenMembers true members body ∧ Gap gap ∧
      text = '{' :: (body ++ gap) ++ ['}']

/-- A text writes the items of an array, with gaps around the comma before each but the first. -/
def WrittenItems : Bool → List Json → List Char → Prop
  | _, [], text => text = []
  | first, item :: others, text => ∃ before after written rest, Gap before ∧ Gap after ∧
      Written item written ∧ WrittenItems false others rest ∧
      text = before ++ (comma first ++ after ++ written) ++ rest

/-- A text writes the members of an object, each with a colon behind its key. -/
def WrittenMembers : Bool → List (String × Json) → List Char → Prop
  | _, [], text => text = []
  | first, (key, value) :: others, text => ∃ before after name between gap written rest,
      Gap before ∧ Gap after ∧ StringText key name ∧ Gap between ∧ Gap gap ∧
      Written value written ∧ WrittenMembers false others rest ∧
      text = before ++ (comma first ++ after ++ name ++ between ++ ':' :: gap ++ written) ++ rest

end

/-- A whole text writes a value, with nothing but gaps around it. -/
def Writes (text : String) (value : Json) : Prop :=
  ∃ before written after, Gap before ∧ Written value written ∧ Gap after ∧
    text.toList = before ++ written ++ after

mutual

/-- The levels of nesting of a value; what is neither an array nor an object has none. -/
def depth : Json → Nat
  | .array items => depthItems items + 1
  | .object members => depthMembers members + 1
  | _ => 0

/-- The most levels of nesting among the items of an array. -/
def depthItems : List Json → Nat
  | [] => 0
  | item :: others => max (depth item) (depthItems others)

/-- The most levels of nesting among the members of an object. -/
def depthMembers : List (String × Json) → Nat
  | [] => 0
  | (_, value) :: others => max (depth value) (depthMembers others)

end

mutual

/-- Every number in a value is whole, and has 64 bits with or without a sign. -/
def Whole : Json → Prop
  | .number (.integer value) => -0x8000_0000_0000_0000 ≤ value ∧ value ≤ maxWord
  | .number (.float _) => False
  | .array items => WholeItems items
  | .object members => WholeMembers members
  | _ => True

/-- Every number in the items of an array is whole. -/
def WholeItems : List Json → Prop
  | [] => True
  | item :: others => Whole item ∧ WholeItems others

/-- Every number in the members of an object is whole. -/
def WholeMembers : List (String × Json) → Prop
  | [] => True
  | (_, value) :: others => Whole value ∧ WholeMembers others

end

/-! ### Where values begin and end -/

/-- A text does not go on with what could continue a number. -/
def Ended (text : List Char) : Prop :=
  ∀ c, text.head? = some c → c.isDigit = false ∧ c ≠ '.' ∧ c ≠ 'e' ∧ c ≠ 'E'

/-- Nothing continues nothing. -/
theorem ended_nil : Ended [] := by
  simp [Ended]

/-- A mark between values continues no number. -/
theorem ended_mark {c : Char} (mark : c = ',' ∨ c = ']' ∨ c = '}') (rest : List Char) :
    Ended (c :: rest) := by
  rintro _ ⟨rfl⟩
  rcases mark with rfl | rfl | rfl <;> decide

/-- A gap continues no number. -/
theorem Ended.gap {gap rest : List Char} (blank : Gap gap) (ended : Ended rest) :
    Ended (gap ++ rest) := by
  -- An empty gap leaves the rest in front; any other begins with one of four spaces.
  cases gap with
  | nil => exact ended
  | cons c gap =>
    rintro _ ⟨rfl⟩
    have space := blank c List.mem_cons_self
    simp only [isSpace, Bool.or_eq_true, beq_iff_eq] at space
    rcases space with ((rfl | rfl) | rfl) | rfl <;> decide

/-- A sign or a digit begins every literal of a number. -/
theorem NumberText.head {text : List Char} (literal : NumberText text) :
    ∃ c rest, text = c :: rest ∧ (c = '-' ∨ c.isDigit = true) := by
  obtain ⟨sign, whole, fraction, exponent, rfl, signed, isWhole, -, -⟩ := literal
  -- Without a sign, the whole part stands in front, and it is not empty.
  rcases signed with rfl | rfl
  · obtain ⟨c, digits, rfl⟩ := List.exists_cons_of_ne_nil isWhole.numeral.1
    exact ⟨c, digits ++ fraction ++ exponent, rfl, .inr (isWhole.numeral.2 c List.mem_cons_self)⟩
  · exact ⟨'-', whole ++ fraction ++ exponent, by simp, .inl rfl⟩

/-- The decimal of a whole number is a literal. -/
theorem numberText_int (value : Int) : NumberText (toString value).toList := by
  refine ⟨if value < 0 then ['-'] else [], Nat.toDigits 10 value.natAbs, [], [], ?_, ?_,
    Decimal.isWhole_toDigits _, .inl rfl, .inl rfl⟩
  · rw [List.append_nil, List.append_nil, Decimal.toList_toString]
  · split
    · exact .inr rfl
    · exact .inl rfl

/-- Whichever number it is, what writes it is a literal. -/
theorem Number.Text.numberText {value : Number} {text : List Char} (written : value.Text text) :
    NumberText text := by
  cases value with
  | integer value => exact written ▸ numberText_int value
  | float value => exact written

/-- What writes a value begins with a character that neither is a gap nor ends a list. -/
theorem Written.head {value : Json} {text : List Char} (written : Written value text) :
    ∃ c rest, text = c :: rest ∧ isSpace c = false ∧ c ≠ ']' := by
  cases value with
  | null => exact ⟨_, _, written, rfl, by decide⟩
  | bool value =>
    rw [Written] at written
    cases value with
    | true => exact ⟨_, _, written, rfl, by decide⟩
    | false => exact ⟨_, _, written, rfl, by decide⟩
  | number value =>
    rw [Written] at written
    obtain ⟨c, rest, same, start⟩ := written.numberText.head
    refine ⟨c, rest, same, ?_⟩
    -- Neither a sign nor a digit is a space, and neither is the mark of an end.
    rcases start with rfl | digit
    · decide
    · refine ⟨isSpace_digit digit, ?_⟩
      rintro rfl
      cases digit
  | string value =>
    rw [Written] at written
    obtain ⟨spelled, -, same⟩ := written
    exact ⟨_, _, same, rfl, by decide⟩
  | array items =>
    rw [Written] at written
    obtain ⟨body, gap, -, -, same⟩ := written
    exact ⟨_, _, same, rfl, by decide⟩
  | object members =>
    rw [Written] at written
    obtain ⟨body, gap, -, -, same⟩ := written
    exact ⟨_, _, same, rfl, by decide⟩

/-- What writes a value is not empty. -/
theorem Written.length_pos {value : Json} {text : List Char} (written : Written value text) :
    0 < text.length := by
  obtain ⟨c, rest, rfl, -, -⟩ := written.head
  exact Nat.succ_pos _

/-- Behind an item of an array, the others and the end of the array continue no number. -/
theorem WrittenItems.ended {items : List Json} {text : List Char}
    (written : WrittenItems false items text) {rest : List Char} (ended : Ended rest) :
    Ended (text ++ rest) := by
  cases items with
  | nil =>
    rw [WrittenItems] at written
    rwa [written]
  | cons item others =>
    rw [WrittenItems] at written
    obtain ⟨before, after, shown, more, blank, -, -, -, rfl⟩ := written
    rw [List.append_assoc, List.append_assoc]
    exact Ended.gap blank (ended_mark (.inl rfl) _)

/-- Behind a member of an object, the others and the end of the object continue no number. -/
theorem WrittenMembers.ended {members : List (String × Json)} {text : List Char}
    (written : WrittenMembers false members text) {rest : List Char} (ended : Ended rest) :
    Ended (text ++ rest) := by
  cases members with
  | nil =>
    rw [WrittenMembers] at written
    rwa [written]
  | cons member others =>
    obtain ⟨key, value⟩ := member
    rw [WrittenMembers] at written
    obtain ⟨before, after, name, between, gap, shown, more, blank, -, -, -, -, -, -, rfl⟩ := written
    rw [List.append_assoc, List.append_assoc]
    exact Ended.gap blank (ended_mark (.inl rfl) _)

/-! ### The writer follows the grammar -/

/-- The writer of strings writes them. -/
theorem stringText_quote (value : String) : StringText value (quote value) :=
  ⟨escaped value.toList, escaped_spells value.toList, rfl⟩

mutual

/-- A value with whole numbers is written on one line. -/
theorem written_compactChars : ∀ {value : Json}, Whole value → Written value (compactChars value)
  | .null, _ => rfl
  | .bool true, _ => rfl
  | .bool false, _ => rfl
  | .number (.integer _), _ => rfl
  | .number (.float _), whole => by rw [Whole] at whole; exact whole.elim
  | .string value, _ => stringText_quote value
  | .array items, whole => by
    -- On one line, no gap stands before the end.
    rw [Whole] at whole
    refine ⟨itemsText true (compactItems items), [], writtenItems_compactItems true whole, gap_nil, ?_⟩
    rw [compactChars, commaJoined_eq, List.append_nil]
  | .object members, whole => by
    rw [Whole] at whole
    refine ⟨itemsText true (compactMembers members), [], writtenMembers_compactMembers true whole, gap_nil, ?_⟩
    rw [compactChars, commaJoined_eq, List.append_nil]

/-- Items with whole numbers are written on one line. -/
theorem writtenItems_compactItems (first : Bool) : ∀ {items : List Json}, WholeItems items →
    WrittenItems first items (itemsText first (compactItems items))
  | [], _ => rfl
  | item :: others, whole => by
    rw [WholeItems] at whole
    exact ⟨[], [], compactChars item, itemsText false (compactItems others), gap_nil, gap_nil,
      written_compactChars whole.1, writtenItems_compactItems false whole.2, by simp [compactItems, itemsText]⟩

/-- Members with whole numbers are written on one line. -/
theorem writtenMembers_compactMembers (first : Bool) : ∀ {members : List (String × Json)},
    WholeMembers members → WrittenMembers first members (itemsText first (compactMembers members))
  | [], _ => rfl
  | (key, value) :: others, whole => by
    rw [WholeMembers] at whole
    exact ⟨[], [], quote key, [], [], compactChars value, itemsText false (compactMembers others), gap_nil,
      gap_nil, stringText_quote key, gap_nil, gap_nil, written_compactChars whole.1,
      writtenMembers_compactMembers false whole.2, by simp [compactMembers, itemsText]⟩

end

mutual

/-- A value with whole numbers is written with one item to a line. -/
theorem written_prettyChars (level : Nat) : ∀ {value : Json}, Whole value →
    Written value (prettyChars level value)
  | .null, _ => rfl
  | .bool true, _ => rfl
  | .bool false, _ => rfl
  | .number (.integer _), _ => rfl
  | .number (.float _), whole => by rw [Whole] at whole; exact whole.elim
  | .string value, _ => stringText_quote value
  | .array items, whole => by
    -- The mark at the end stands on a line of its own, unless there are no items.
    rw [Whole] at whole
    obtain ⟨gap, blank, written⟩ := exists_block level '[' ']' (prettyItems (level + 1) items)
    refine ⟨_, gap, writtenItems_prettyItems (level + 1) true whole, blank, ?_⟩
    rw [prettyChars, written]
    simp
  | .object members, whole => by
    rw [Whole] at whole
    obtain ⟨gap, blank, written⟩ := exists_block level '{' '}' (prettyMembers (level + 1) members)
    refine ⟨_, gap, writtenMembers_prettyMembers (level + 1) true whole, blank, ?_⟩
    rw [prettyChars, written]
    simp

/-- Items with whole numbers are written on lines of their own. -/
theorem writtenItems_prettyItems (level : Nat) (first : Bool) : ∀ {items : List Json}, WholeItems items →
    WrittenItems first items (itemsText first ((prettyItems level items).map (newLine level ++ ·)))
  | [], _ => rfl
  | item :: others, whole => by
    rw [WholeItems] at whole
    exact ⟨[], newLine level, _, _, gap_nil, newLine_gap level, written_prettyChars level whole.1,
      writtenItems_prettyItems level false whole.2, by simp [prettyItems, itemsText]⟩

/-- Members with whole numbers are written on lines of their own. -/
theorem writtenMembers_prettyMembers (level : Nat) (first : Bool) : ∀ {members : List (String × Json)},
    WholeMembers members →
    WrittenMembers first members (itemsText first ((prettyMembers level members).map (newLine level ++ ·)))
  | [], _ => rfl
  | (key, value) :: others, whole => by
    rw [WholeMembers] at whole
    exact ⟨[], newLine level, quote key, [], [' '], _, _, gap_nil, newLine_gap level, stringText_quote key,
      gap_nil, gap_blank, written_prettyChars level whole.1, writtenMembers_prettyMembers level false whole.2,
      by simp [prettyMembers, itemsText]⟩

end

/-- The writer with one item to a line makes a text that writes its value. -/
theorem writes_pretty {value : Json} (whole : Whole value) : Writes value.pretty value := by
  refine ⟨[], value.prettyChars 0, [], gap_nil, written_prettyChars 0 whole, gap_nil, ?_⟩
  rw [pretty, String.toList_ofList, List.nil_append, List.append_nil]

end Placard.Json

import Placard.Json.Reader
import Placard.Json.Writer

/-! Parts of JSON text: strings read back however they are spelled, gaps are passed over, and commas stand between items. -/

namespace Placard.Json

/-! ### Strings -/

/-- A character inside a JSON string: as it is, by an escape of one letter, or by its code. -/
inductive SpellsChar : List Char → Char → Prop
  | plain {c : Char} (unquoted : c ≠ '"') (unescaped : c ≠ '\\') (visible : 0x20 ≤ c.toNat) :
      SpellsChar [c] c
  | short {letter c : Char} (known : shortEscape? letter = some c) : SpellsChar ['\\', letter] c
  | code {a b c d : Char} {code : Nat} (digits : hexQuad? a b c d = some code)
      (whole : isLeading code = false ∧ isTrailing code = false) :
      SpellsChar ['\\', 'u', a, b, c, d] (.ofNat code)
  | pair {a b c d e f g h : Char} {leading trailing : Nat} (first : hexQuad? a b c d = some leading)
      (opens : isLeading leading = true) (second : hexQuad? e f g h = some trailing)
      (closes : isTrailing trailing = true) :
      SpellsChar ['\\', 'u', a, b, c, d, '\\', 'u', e, f, g, h] (pairChar leading trailing)

/-- A text inside a JSON string, one character after another. -/
inductive Spells : List Char → List Char → Prop
  | done : Spells [] []
  | next {written rest text : List Char} {c : Char} (char : SpellsChar written c)
      (others : Spells rest text) : Spells (written ++ rest) (c :: text)

/-- Reading takes one character off the front of a string, however it is spelled. -/
theorem readString_char {written : List Char} {c : Char} (char : SpellsChar written c)
    (rest : List Char) : readString (written ++ rest) = consRead c (readString rest) := by
  cases char with
  | plain unquoted unescaped visible =>
    -- None of the marks that start another case is this character.
    have shown : ¬ c.toNat < 0x20 := by omega
    rw [List.singleton_append, readString.eq_7 c rest unquoted (fun _ _ _ _ _ same => absurd same unescaped)
      (fun _ same => absurd same unescaped) (fun same => absurd same unescaped)
      (fun _ _ same => absurd same unescaped), if_neg shown]
  | @short letter _ known =>
    have other : letter ≠ 'u' := by
      rintro rfl
      cases known
    simp only [List.cons_append, List.nil_append]
    rw [readString.eq_6 letter rest (fun _ _ _ _ _ same => absurd same other)
      (fun same => absurd same other), known]
  | code digits whole =>
    simp only [List.cons_append, List.nil_append, readString.eq_3, digits, whole.1, whole.2,
      Bool.false_eq_true, if_false]
  | @pair _ _ _ _ _ _ _ _ leading trailing first opens second closes =>
    have apart : isTrailing leading = false := by
      simp only [isLeading, isTrailing, Bool.and_eq_true, decide_eq_true_eq, Bool.and_eq_false_iff,
        decide_eq_false_iff_not] at opens ⊢
      omega
    simp only [List.cons_append, List.nil_append, readString.eq_3, first, apart, opens, second,
      Option.filter, closes, Bool.false_eq_true, if_false, if_true]

/-- A string is read up to its closing mark, however its characters are spelled. -/
theorem readString_spells {written text : List Char} (spells : Spells written text)
    (rest : List Char) : readString (written ++ '"' :: rest) = .ok (text, rest) := by
  induction spells with
  | done => exact readString.eq_2 rest
  | next char _ ih =>
    rw [List.append_assoc, readString_char char, ih]
    rfl

/-- The sixteen digits that the writer uses have their values. -/
private theorem hexValue?_digitChar {value : Nat} (small : value < 16) :
    hexValue? (Nat.digitChar value) = some value := by
  have each : ∀ value, value < 16 → hexValue? (Nat.digitChar value) = some value := by decide
  exact each value small

/-- A character that the writer escapes is spelled by what it writes. -/
theorem escapedChar_spells (c : Char) : SpellsChar (escapedChar c) c := by
  unfold escapedChar
  split
  case h_8 unquoted unescaped _ _ _ _ _ =>
    split
    · rename_i control
      -- A control without a letter of its own is written by the two digits of its code.
      have high := hexValue?_digitChar (show c.toNat / 16 < 16 by omega)
      have low := hexValue?_digitChar (show c.toNat % 16 < 16 by omega)
      have zero : hexValue? '0' = some 0 := rfl
      have whole : c.toNat / 16 * 16 + c.toNat % 16 = c.toNat := by omega
      have digits : hexQuad? '0' '0' (Nat.digitChar (c.toNat / 16)) (Nat.digitChar (c.toNat % 16)) =
          some c.toNat := by
        simp [hexQuad?, zero, high, low, whole]
      have code := SpellsChar.code digits (by
        simp only [isLeading, isTrailing, Bool.and_eq_false_iff, decide_eq_false_iff_not]
        omega)
      rwa [Char.ofNat_toNat] at code
    · rename_i shown
      exact .plain unquoted unescaped (by omega)
  all_goals exact .short rfl

/-- The writer spells a text by the escapes of its characters. -/
theorem escaped_spells (text : List Char) : Spells (escaped text) text := by
  induction text with
  | nil => exact .done
  | cons c text ih => exact .next (escapedChar_spells c) ih

/-! ### Gaps and marks -/

/-- A gap holds nothing but the characters that may stand between the parts of a value. -/
def Gap (gap : List Char) : Prop :=
  ∀ c ∈ gap, isSpace c = true

/-- A text does not begin with a gap. -/
def Solid (text : List Char) : Prop :=
  ∀ c, text.head? = some c → isSpace c = false

/-- Nothing is a gap. -/
theorem gap_nil : Gap [] := by
  simp [Gap]

/-- One blank is a gap. -/
theorem gap_blank : Gap [' '] := by
  simp [Gap, isSpace]

/-- A new line of the writer is a gap, at any level. -/
theorem newLine_gap (level : Nat) : Gap (newLine level) := by
  intro c member
  rcases List.mem_cons.mp member with rfl | blank
  · rfl
  · rw [List.eq_of_mem_replicate blank]
    rfl

/-- A gap before a text that begins with none is passed over as a whole. -/
theorem skipSpace_gap {gap text : List Char} (blank : Gap gap) (solid : Solid text) :
    skipSpace (gap ++ text) = text := by
  rw [skipSpace, List.dropWhile_append_of_pos blank]
  cases text with
  | nil => rfl
  | cons c rest => exact List.dropWhile_cons_of_neg (by simp [solid c rfl])

/-- A text that begins with no gap stays as it is. -/
theorem skipSpace_solid {text : List Char} (solid : Solid text) : skipSpace text = text :=
  skipSpace_gap gap_nil solid

/-- A digit is no space. -/
theorem isSpace_digit {c : Char} (digit : c.isDigit = true) : isSpace c = false := by
  simp only [isSpace, Bool.or_eq_false_iff, beq_eq_false_iff_ne]
  refine ⟨⟨⟨?_, ?_⟩, ?_⟩, ?_⟩ <;> (rintro rfl; cases digit)

/-- What begins with a character that is no space is solid. -/
theorem solid_cons {c : Char} {rest : List Char} (mark : isSpace c = false) : Solid (c :: rest) := by
  rintro _ ⟨rfl⟩
  exact mark

/-- What stands before an item: nothing before the first, and a comma before any other. -/
def comma (first : Bool) : List Char :=
  if first then [] else [',']

/-- Items as a reader meets them, with a comma before each but the first. -/
def itemsText (first : Bool) : List (List Char) → List Char
  | [] => []
  | item :: others => comma first ++ item ++ itemsText false others

/-- Items with a comma between every two have a comma before each but the first. -/
theorem commaJoined_eq (items : List (List Char)) : commaJoined items = itemsText true items := by
  -- A comma after one item is the comma before the next.
  induction items with
  | nil => rfl
  | cons item others ih =>
    cases others with
    | nil => simp [commaJoined, itemsText, comma]
    | cons next others => simp [commaJoined, ih, itemsText, comma]

/-- A block is its items between two marks, with a gap before the closing one. -/
theorem exists_block (level : Nat) (opening closing : Char) (items : List (List Char)) :
    ∃ gap, Gap gap ∧ block level opening closing items =
      opening :: (itemsText true (items.map (newLine (level + 1) ++ ·)) ++ (gap ++ [closing])) := by
  cases items with
  | nil => exact ⟨[], gap_nil, rfl⟩
  | cons item others =>
    refine ⟨newLine level, newLine_gap level, ?_⟩
    rw [block, if_neg (by simp), commaJoined_eq]
    simp

/-! ### Arrays -/

/-- The end of an array is found behind a gap. -/
theorem nextItem_end (first : Bool) {gap : List Char} (blank : Gap gap) (rest : List Char) :
    nextItem first (gap ++ ']' :: rest) = .ok (false, rest) := by
  rw [nextItem, skipSpace_gap blank (solid_cons rfl)]
  rfl

/-- Behind a comma another item has to follow. -/
private theorem nextItem_comma (rest : List Char) :
    nextItem false (',' :: rest) = match skipSpace rest with
      | [] => .error (.before .endInValue [])
      | ']' :: after => .error (.on .trailingComma (']' :: after))
      | after => .ok (true, after) := rfl

/-- An item is found behind its comma and a gap. -/
theorem nextItem_item (first : Bool) {gap : List Char} (blank : Gap gap) {c : Char}
    (mark : isSpace c = false) (going : c ≠ ']') (rest : List Char) :
    nextItem first (comma first ++ gap ++ c :: rest) = .ok (true, c :: rest) := by
  -- The character itself is what ends the gap, and it does not end the array.
  have found : skipSpace (gap ++ c :: rest) = c :: rest := skipSpace_gap blank (solid_cons mark)
  cases first with
  | true =>
    rw [comma, if_pos rfl, List.nil_append, nextItem, found]
    split
    · contradiction
    · rename_i same
      exact absurd (List.cons.inj same).1 going
    · rename_i same
      rw [same, if_pos rfl]
  | false =>
    rw [comma, if_neg Bool.false_ne_true, List.singleton_append, List.cons_append, nextItem_comma,
      found]
    split
    · contradiction
    · rename_i same
      exact absurd (List.cons.inj same).1 going
    · rfl

/-! ### Objects -/

/-- The end of an object is found behind a gap. -/
theorem nextKey_end (first : Bool) {gap : List Char} (blank : Gap gap) (rest : List Char) :
    nextKey first (gap ++ '}' :: rest) = .ok (false, rest) := by
  rw [nextKey, skipSpace_gap blank (solid_cons rfl)]
  rfl

/-- Behind a comma another key has to follow. -/
private theorem nextKey_comma (rest : List Char) :
    nextKey false (',' :: rest) = match skipSpace rest with
      | [] => .error (.before .endInValue [])
      | '"' :: after => .ok (true, after)
      | '}' :: after => .error (.on .trailingComma ('}' :: after))
      | after => .error (.on .keyNotString after) := rfl

/-- A key is found behind its comma and a gap. -/
theorem nextKey_key (first : Bool) {gap : List Char} (blank : Gap gap) (rest : List Char) :
    nextKey first (comma first ++ gap ++ '"' :: rest) = .ok (true, rest) := by
  have found : skipSpace (gap ++ '"' :: rest) = '"' :: rest := skipSpace_gap blank (solid_cons rfl)
  cases first with
  | true =>
    rw [comma, if_pos rfl, List.nil_append, nextKey, found]
    rfl
  | false =>
    rw [comma, if_neg Bool.false_ne_true, List.singleton_append, List.cons_append, nextKey_comma,
      found]
    rfl

/-- A colon is found behind a gap. -/
theorem readColon_gap {gap : List Char} (blank : Gap gap) (rest : List Char) :
    readColon (gap ++ ':' :: rest) = .ok rest := by
  rw [readColon, skipSpace_gap blank (solid_cons rfl)]
  rfl

/-- Nothing but a gap behind a value is the end of the text. -/
theorem readEnd_gap {α : Type} {gap : List Char} (blank : Gap gap) (value : α) :
    readEnd (value, gap) = .ok value := by
  have passed : skipSpace (gap ++ []) = [] := skipSpace_gap blank (by simp [Solid])
  rw [List.append_nil] at passed
  rw [readEnd, passed]

end Placard.Json

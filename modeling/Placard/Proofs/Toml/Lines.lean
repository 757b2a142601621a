import Placard.Proofs.Toml.Distinct
import Placard.Proofs.Toml.Numbers
import Placard.Proofs.Toml.Quoted

/-! Written TOML documents: tables of lines, each with a bare key and a written value, read back. -/

namespace Placard.Toml

/-! ### Values on a line -/

/-- A written value is read up to the end of its line, at every level and with any fuel. -/
def Reads (written : String) (value : Toml) : Prop :=
  (∃ first more, written.toList = first :: more ∧ isGap first = false) ∧
    ∀ fuel level rest, readValue (fuel + 1) level (written.toList ++ '\n' :: rest) =
      .ok (value, '\n' :: rest)

/-- A digit is read as the beginning of a number. -/
theorem readValue_number {first : Char} (begins : first = '-' ∨ first.isDigit = true)
    (fuel level : Nat) (more : List Char) :
    readValue (fuel + 1) level (first :: more) = readNumber (first :: more) := by
  -- Every kind of value that is tried before numbers begins with a character of its own.
  have apart (mark : Char) (solid : mark ≠ '-') (letter : mark.isDigit = false) :
      (first == mark) = false := by
    rw [beq_eq_false_iff_ne]
    rintro rfl
    rcases begins with rfl | digit
    · exact solid rfl
    · rw [digit] at letter
      cases letter
  have number : (first == '+' || first == '-' || first.isDigit) = true := by
    rcases begins with rfl | digit
    · rfl
    · rw [digit, Bool.or_true]
  rw [readValue]
  simp only [apart '"' (by decide) (by decide), apart '\'' (by decide) (by decide),
    apart '[' (by decide) (by decide), apart '\x7b' (by decide) (by decide), number, Bool.or_false,
    Bool.false_eq_true, if_false, if_true]

/-- What begins a number is no blank. -/
theorem isGap_number {first : Char} (begins : first = '-' ∨ first.isDigit = true) :
    isGap first = false := by
  rcases begins with rfl | digit
  · rfl
  · rw [isGap, Bool.or_eq_false_iff, beq_eq_false_iff_ne, beq_eq_false_iff_ne]
    constructor <;> rintro rfl <;> cases digit

/-- A whole number of 63 bits is read from its line. -/
theorem reads_word {value : Nat} (small : value < 0x8000_0000_0000_0000) :
    Reads (toString value) (.integer value) := by
  -- The digits are not blank, and are read as a number up to the end of the line.
  have written : (toString value).toList = Nat.toDigits 10 value := Nat.toList_repr
  cases digits : Nat.toDigits 10 value with
  | nil => exact absurd digits Nat.toDigits_ne_nil
  | cons first more =>
    have digit : first.isDigit = true := by
      apply (Decimal.isNumeral_toDigits value).2
      rw [digits]
      exact List.mem_cons_self
    refine ⟨⟨first, more, written.trans digits, isGap_number (.inr digit)⟩, fun fuel level rest => ?_⟩
    have read := readNumber_toDigits small rest
    rw [digits] at read
    rw [written, digits, List.cons_append, readValue_number (.inr digit)]
    exact read

/-- A finite number is read from its line, if its decimals denote it. -/
theorem reads_float {value : Float} (finite : value.isFinite = true)
    (exact_ : Decimal.float? (Decimal.toml.write value).toList = some value) :
    Reads (writeFloat value) (.float value) := by
  -- The text begins with a sign or a digit, so it is read as a number.
  obtain ⟨first, more, written, begins⟩ : ∃ first more, (writeFloat value).toList = first :: more ∧
      (first = '-' ∨ first.isDigit = true) := by
    obtain ⟨sign, front, behind, written, signed, whole, -⟩ := Decimal.write_toml finite
    rw [writeFloat, written]
    rcases signed with rfl | rfl
    · cases front with
      | nil => exact absurd rfl whole.numeral.1
      | cons c front => exact ⟨c, _, rfl, .inr (whole.numeral.2 c List.mem_cons_self)⟩
    · exact ⟨'-', _, rfl, .inl rfl⟩
  refine ⟨⟨first, more, written, isGap_number begins⟩, fun fuel level rest => ?_⟩
  have read := readNumber_writeFloat finite exact_ rest
  rw [← writeFloat] at read
  rw [written] at read ⊢
  rw [List.cons_append, readValue_number begins]
  exact read

/-- A written text begins with one of the two marks. -/
theorem writeText_head (text : String) : ∃ mark more,
    (writeText text).toList = mark :: more ∧ (mark = '"' ∨ mark = '\'') := by
  unfold writeText
  simp only []
  split <;> simp

/-- A text is read from its line, whatever it holds. -/
theorem reads_text (text : String) : Reads (writeText text) (.text text) := by
  obtain ⟨mark, more, written, quoted⟩ := writeText_head text
  refine ⟨⟨mark, more, written, by rcases quoted with rfl | rfl <;> rfl⟩, fun fuel level rest => ?_⟩
  have read := readText_writeText text rest
  have first : (mark == '"' || mark == '\'') = true := by
    rcases quoted with rfl | rfl <;> rfl
  rw [written] at read ⊢
  rw [List.cons_append] at read ⊢
  rw [readValue]
  simp only [first, if_true, read, ok_bind, String.ofList_toList]
  rfl

/-- A choice is read from its line. -/
theorem reads_bool (value : Bool) : Reads (toString value) (.bool value) := by
  -- The words are short enough to be read by computation.
  cases value with
  | false =>
    refine ⟨⟨'f', _, rfl, rfl⟩, fun fuel level rest => ?_⟩
    show readValue (fuel + 1) level ('f' :: 'a' :: 'l' :: 's' :: 'e' :: '\n' :: rest) = _
    rw [readValue]
    rfl
  | true =>
    refine ⟨⟨'t', _, rfl, rfl⟩, fun fuel level rest => ?_⟩
    show readValue (fuel + 1) level ('t' :: 'r' :: 'u' :: 'e' :: '\n' :: rest) = _
    rw [readValue]
    rfl

/-! ### Keys -/

/-- A key that needs no quotation marks. -/
def IsBareKey (key : String) : Prop := key.toList ≠ [] ∧ ∀ c ∈ key.toList, isBareKeyChar c = true

instance (key : String) : Decidable (IsBareKey key) :=
  decidable_of_iff (key.toList ≠ [] ∧ key.toList.all isBareKeyChar = true) (by simp [IsBareKey])

/-- A character of a bare key is none that has a meaning of its own. -/
theorem bare_apart {c mark : Char} (bare : isBareKeyChar c = true) (solid : isBareKeyChar mark = false) :
    c ≠ mark := by
  rintro rfl
  rw [bare] at solid
  cases solid

/-- A character of a bare key is no blank. -/
theorem isGap_bare {c : Char} (bare : isBareKeyChar c = true) : isGap c = false := by
  rw [isGap, Bool.or_eq_false_iff, beq_eq_false_iff_ne, beq_eq_false_iff_ne]
  exact ⟨bare_apart bare (by decide), bare_apart bare (by decide)⟩

/-- A bare key is read as its only step, up to the first character that is no blank. -/
theorem readKey_bare {key : String} (bare : IsBareKey key) {stop : Char} {rest behind : List Char}
    (ends : ∀ c ∈ rest.head?, isBareKeyChar c = false) (next : skipGaps rest = stop :: behind)
    (last : stop ≠ '.') :
    readKey (key.toList ++ rest) = .ok ([key], stop :: behind) := by
  obtain ⟨some_, bareChars⟩ := bare
  cases letters : key.toList with
  | nil => exact absurd letters some_
  | cons first more =>
    rw [letters] at bareChars
    have begins := bareChars first List.mem_cons_self
    -- The step ends where the characters of the key do, and no dot brings another one.
    have taken : (first :: more ++ rest).takeWhile isBareKeyChar = first :: more := by
      rw [List.takeWhile_append_of_pos bareChars]
      cases rest with
      | nil => simp
      | cons c others =>
        rw [List.takeWhile_cons_of_neg (by simpa using ends c rfl), List.append_nil]
    have solid : skipGaps (first :: more ++ rest) = first :: more ++ rest := by
      rw [List.cons_append, skipGaps, List.dropWhile_cons_of_neg (by simp [isGap_bare begins])]
    have step : readKeyStep (first :: more ++ rest) = .ok (key, rest) := by
      unfold readKeyStep
      split
      · rename_i same
        exact absurd (List.cons.inj same).1 (bare_apart begins (by decide))
      · rename_i same
        exact absurd (List.cons.inj same).1 (bare_apart begins (by decide))
      · simp only [taken, List.drop_left, List.isEmpty_cons, Bool.false_eq_true, if_false]
        rw [← letters, String.ofList_toList]
    have steps (fuel : Nat) : readKeySteps (fuel + 1) (first :: more ++ rest) =
        .ok ([key], stop :: behind) := by
      rw [readKeySteps, solid, step, ok_bind]
      simp only [next]
      split
      · rename_i same
        exact absurd (List.cons.inj same).1 last
      · rfl
    rw [readKey, steps]
    rfl

/-! ### Lines -/

/-- A line of a document: its key, its value, and how the value is written. -/
structure Line where
  key : String
  written : String
  value : Toml
  bare : IsBareKey key
  reads : Reads written value

/-- In a table in the making, no key comes twice. -/
def KeysApart (items : Items) : Prop := items.Pairwise fun first second => first.1 ≠ second.1

namespace Line

/-- The characters of a line. -/
def letters (line : Line) : List Char := (Toml.line line.key line.written).toList

/-- A line begins with a character of its key. -/
theorem letters_head (line : Line) : ∃ first more, line.letters = first :: more ∧
    isBareKeyChar first = true := by
  cases key : line.key.toList with
  | nil => exact absurd key line.bare.1
  | cons first more =>
    refine ⟨first, more ++ (" = " ++ line.written ++ "\n").toList, ?_, ?_⟩
    · simp [letters, Toml.line, key]
    · apply line.bare.2
      rw [key]
      exact List.mem_cons_self

/-- A line is read as its key with its value. -/
theorem read (line : Line) (rest : List Char) :
    readLine (line.letters ++ rest) = .ok (([line.key], line.value), rest) := by
  obtain ⟨⟨first, more, written, solid⟩, value⟩ := line.reads
  have text : line.letters ++ rest =
      line.key.toList ++ (' ' :: '=' :: ' ' :: (line.written.toList ++ '\n' :: rest)) := by
    simp [letters, Toml.line]
  have spaced : skipGaps (' ' :: (line.written.toList ++ '\n' :: rest)) =
      line.written.toList ++ '\n' :: rest := by
    rw [written, List.cons_append, skipGaps, List.dropWhile_cons_of_pos rfl,
      List.dropWhile_cons_of_neg (by simp [solid])]
  have key : readKey (line.letters ++ rest) =
      .ok ([line.key], '=' :: ' ' :: (line.written.toList ++ '\n' :: rest)) := by
    rw [text]
    exact readKey_bare line.bare (by simp; decide) rfl (by decide)
  -- The value is read with more fuel than there are characters, so some is left for it.
  rw [readLine, key]
  show (insist (readValue (4 * (line.letters ++ rest).length + 3 + 1) 0
    (skipGaps (' ' :: (line.written.toList ++ '\n' :: rest)))) >>= _) = _
  rw [spaced, value]
  rfl

/-- What the items of a table become when lines are added to it. -/
def drafts (lines : List Line) : Items := lines.map fun line => (line.key, .value line.value)

/-- What a line adds to the table that lines belong to, where its key is new. -/
theorem addLine_fresh {document : Document} {line : Line}
    (fresh : ∀ item ∈ document.current, item.1 ≠ line.key) :
    document.addLine [line.key] line.value =
      some { document with current := document.current ++ [(line.key, .value line.value)] } := by
  -- A new key is put behind the others, in a table that was not made by dotted keys.
  have absent : document.current.any (·.1 == line.key) = false := by
    rw [List.any_eq_false]
    intro item member
    simpa using fresh item member
  have placed : putValue [line.key] line.value .stated document.current =
      some (.stated, document.current ++ [(line.key, .value line.value)]) := by
    show (if (Making.stated == .dotted) == true || document.current.any (·.1 == line.key) then none
      else some (Making.stated, Items.put document.current line.key (.value line.value))) = _
    rw [absent, Items.put, absent]
    rfl
  rw [Document.addLine, placed]
  rfl

/-- A line with a new key takes one unit of fuel. -/
theorem readLines_line {line : Line} {document : Document}
    (fresh : ∀ item ∈ document.current, item.1 ≠ line.key) (fuel : Nat) (rest : List Char) :
    readLines (fuel + 1) document (line.letters ++ rest) =
      readLines fuel { document with current := document.current ++ [(line.key, .value line.value)] }
        rest := by
  obtain ⟨first, more, begun, bare⟩ := line.letters_head
  have lineRead := line.read rest
  have start : skipGaps (line.letters ++ rest) = line.letters ++ rest := by
    rw [begun, List.cons_append, skipGaps, List.dropWhile_cons_of_neg (by simp [isGap_bare bare])]
  rw [readLines]
  simp only [start]
  rw [begun, List.cons_append] at lineRead ⊢
  -- The first character belongs to a bare key, so this is no comment, header or empty line.
  split
  · rename_i same
    cases same
  · rename_i same
    exact absurd (List.cons.inj same).1 (bare_apart bare (by decide))
  · rename_i same
    exact absurd (List.cons.inj same).1 (bare_apart bare (by decide))
  · rename_i c others _ _ same
    obtain ⟨rfl, rfl⟩ := List.cons.inj same
    have inside : (first == '\n' || first == '\r') = false := by
      rw [Bool.or_eq_false_iff, beq_eq_false_iff_ne, beq_eq_false_iff_ne]
      exact ⟨bare_apart bare (by decide), bare_apart bare (by decide)⟩
    rw [inside, lineRead]
    simp only [Bool.false_eq_true, if_false, ok_bind, addLine_fresh fresh]

/-- The lines of one table are read one after another. -/
theorem readLines_lines {lines : List Line} {document : Document}
    (distinct : KeysApart (document.current ++ drafts lines)) {fuel : Nat} {rest : List Char}
    (room : (lines.flatMap letters ++ rest).length < fuel) :
    ∃ less, rest.length < less ∧ readLines fuel document (lines.flatMap letters ++ rest) =
      readLines less { document with current := document.current ++ drafts lines } rest := by
  -- Each line takes one unit of fuel and at least one character.
  induction lines generalizing document fuel with
  | nil => exact ⟨fuel, by simpa using room, by simp [drafts]⟩
  | cons line lines ih =>
    obtain ⟨fuel, rfl⟩ : ∃ less, fuel = less + 1 := ⟨fuel - 1, by omega⟩
    obtain ⟨first, more, begun, -⟩ := line.letters_head
    have fresh : ∀ item ∈ document.current, item.1 ≠ line.key := by
      intro item member
      exact (List.pairwise_append.mp distinct).2.2 item member (line.key, .value line.value)
        List.mem_cons_self
    have behind : KeysApart (({ document with
        current := document.current ++ [(line.key, .value line.value)] } : Document).current ++
          drafts lines) := by
      rw [List.append_assoc]
      exact distinct
    have smaller : (lines.flatMap letters ++ rest).length < fuel := by
      rw [List.flatMap_cons, begun] at room
      simp only [List.length_append, List.length_cons] at room ⊢
      omega
    obtain ⟨less, enough, read⟩ := ih behind smaller
    have text : (line :: lines).flatMap letters ++ rest =
        line.letters ++ (lines.flatMap letters ++ rest) := by
      simp
    refine ⟨less, enough, ?_⟩
    rw [text, readLines_line fresh, read, List.append_assoc]
    rfl

end Line

/-! ### Tables -/

/-- A table of a document: its key and its lines. -/
structure Section where
  key : String
  lines : List Line
  bare : IsBareKey key

namespace Section

/-- The characters of a table with its header. -/
def letters (part : Section) : List Char :=
  (header part.key).toList ++ part.lines.flatMap Line.letters

/-- What a table becomes in a document. -/
def draft (part : Section) : String × Draft := (part.key, .table .stated (Line.drafts part.lines))

end Section

/-- A new key leads to nothing. -/
theorem lookup_fresh {root : Items} {key : String} (fresh : ∀ item ∈ root, item.1 ≠ key) :
    root.lookup key = none := by
  rw [List.lookup_eq_none_iff]
  intro item member
  simpa using (fresh item member).symm

/-- What is put under a new key stands behind the others. -/
theorem put_fresh {root : Items} {key : String} (fresh : ∀ item ∈ root, item.1 ≠ key) (draft : Draft) :
    root.put key draft = root ++ [(key, draft)] := by
  have absent : root.any (·.1 == key) = false := by
    rw [List.any_eq_false]
    intro item member
    simpa using fresh item member
  rw [Items.put, absent]
  rfl

/-- A header begins a table whose key is new. -/
theorem beginTable_fresh {document : Document} {root : Items} {key : String}
    (settled : document.settle = some root) (fresh : ∀ item ∈ root, item.1 ≠ key) :
    document.beginTable [key] = some ⟨root, [], [key], false⟩ := by
  rw [Document.beginTable, settled]
  show (within false [] _ .stated root >>= _) = _
  simp [within, lookup_fresh fresh, Document.beginTable.reach]

/-- A table is put in its place, behind the others. -/
theorem settle_fresh {root : Items} {key : String} (fresh : ∀ item ∈ root, item.1 ≠ key)
    (current : Items) :
    Document.settle ⟨root, current, [key], false⟩ = some (root ++ [(key, .table .stated current)]) := by
  show (within false [] _ .stated root >>= _) = _
  simp [within, lookup_fresh fresh, put_fresh fresh]

/-- A header of one step is read up to the end of its line. -/
theorem readHeader_bare {key : String} (bare : IsBareKey key) (rest : List Char) :
    readHeader ('[' :: (key.toList ++ ']' :: '\n' :: rest)) = .ok (([key], false), rest) := by
  -- A second bracket would begin the table of a list, but the key has none.
  have read : readKey (key.toList ++ ']' :: '\n' :: rest) = .ok ([key], ']' :: '\n' :: rest) :=
    readKey_bare bare (by simp; decide) rfl (by decide)
  cases letters : key.toList with
  | nil => exact absurd letters bare.1
  | cons first more =>
    rw [letters] at read
    have begins : isBareKeyChar first = true := bare.2 first (by rw [letters]; exact List.mem_cons_self)
    rw [List.cons_append] at read ⊢
    rw [readHeader]
    · simp only [List.isEmpty_cons, Bool.false_eq_true, if_false, read]
      rfl
    · intro behind same
      exact bare_apart begins (by decide) (List.cons.inj same).1

namespace Section

/-- The lines of a table are read behind its header. -/
theorem readLines_section {part : Section} {document : Document} {root : Items}
    (settled : document.settle = some root) (fresh : ∀ item ∈ root, item.1 ≠ part.key)
    (distinct : KeysApart (Line.drafts part.lines))
    {fuel : Nat} {rest : List Char} (room : (part.letters ++ rest).length < fuel) :
    ∃ less document', rest.length < less ∧ document'.settle = some (root ++ [part.draft]) ∧
      readLines fuel document (part.letters ++ rest) = readLines less document' rest := by
  -- The empty line and the header take one unit of fuel each.
  have text : part.letters ++ rest = '\n' :: '[' :: (part.key.toList ++ ']' :: '\n' ::
      (part.lines.flatMap Line.letters ++ rest)) := by
    simp [letters, header]
  rw [text] at room ⊢
  obtain ⟨fuel, rfl⟩ : ∃ less, fuel = less + 2 := ⟨fuel - 2, by simp at room; omega⟩
  have begun := readHeader_bare part.bare (part.lines.flatMap Line.letters ++ rest)
  have smaller : (part.lines.flatMap Line.letters ++ rest).length < fuel := by
    simp only [List.length_cons, List.length_append] at room ⊢
    omega
  have apart : KeysApart ((⟨root, [], [part.key], false⟩ : Document).current ++ Line.drafts part.lines) :=
    distinct
  obtain ⟨less, enough, read⟩ := Line.readLines_lines apart smaller
  refine ⟨less, ⟨root, Line.drafts part.lines, [part.key], false⟩, enough,
    settle_fresh fresh _, ?_⟩
  have blank : readLines (fuel + 2) document ('\n' :: '[' :: (part.key.toList ++ ']' :: '\n' ::
      (part.lines.flatMap Line.letters ++ rest))) =
      readLines (fuel + 1) document ('[' :: (part.key.toList ++ ']' :: '\n' ::
        (part.lines.flatMap Line.letters ++ rest))) := by
    rw [readLines]
    rfl
  rw [blank, readLines]
  show (readHeader ('[' :: (part.key.toList ++ ']' :: '\n' ::
    (part.lines.flatMap Line.letters ++ rest))) >>= _) = _
  rw [begun, ok_bind]
  simp only [beginTable_fresh settled fresh, Bool.false_eq_true, if_false]
  exact read

/-- The tables of a document are read one after another. -/
theorem readLines_sections {parts : List Section} {document : Document} {root : Items}
    (settled : document.settle = some root) (distinct : KeysApart (root ++ parts.map draft))
    (inside : ∀ part ∈ parts, KeysApart (Line.drafts part.lines)) {fuel : Nat}
    (room : (parts.flatMap letters).length < fuel) :
    ∃ document', document'.settle = some (root ++ parts.map draft) ∧
      readLines fuel document (parts.flatMap letters) = .ok document' := by
  -- What was read so far is settled by the next header, or by the end of the document.
  induction parts generalizing document root fuel with
  | nil =>
    obtain ⟨fuel, rfl⟩ : ∃ less, fuel = less + 1 := ⟨fuel - 1, by simp at room; omega⟩
    refine ⟨document, by simpa using settled, ?_⟩
    show readLines (fuel + 1) document [] = _
    rw [readLines]
    rfl
  | cons part parts ih =>
    have fresh : ∀ item ∈ root, item.1 ≠ part.key := by
      intro item member
      exact (List.pairwise_append.mp distinct).2.2 item member part.draft List.mem_cons_self
    rw [List.flatMap_cons] at room ⊢
    obtain ⟨less, document', enough, settled', read⟩ :=
      readLines_section settled fresh (inside part List.mem_cons_self) room
    have later : KeysApart ((root ++ [part.draft]) ++ parts.map draft) := by
      rw [List.append_assoc]
      exact distinct
    obtain ⟨final, done, others⟩ :=
      ih settled' later (fun part member => inside part (List.mem_cons_of_mem _ member)) enough
    refine ⟨final, ?_, read.trans others⟩
    rw [done, List.append_assoc]
    rfl

end Section

/-! ### Documents -/

/-- The values of lines, under their keys. -/
def Line.items (lines : List Line) : List (String × Toml) :=
  lines.map fun line => (line.key, line.value)

/-- What lines add to a table are their values. -/
theorem itemsToToml_drafts (lines : List Line) : itemsToToml (Line.drafts lines) = Line.items lines := by
  rw [itemsToToml_eq, Line.drafts, List.map_map]
  rfl

/-- The items of a document: the values of its own lines, and its tables. -/
theorem itemsToToml_document (own : List Line) (parts : List Section) :
    itemsToToml (Line.drafts own ++ parts.map Section.draft) =
      Line.items own ++ parts.map fun part => (part.key, .table (Line.items part.lines)) := by
  rw [itemsToToml_eq, List.map_append, ← itemsToToml_eq, itemsToToml_drafts, List.map_map]
  refine congrArg _ (List.map_congr_left fun part _ => ?_)
  show (part.key, Toml.table (itemsToToml (Line.drafts part.lines))) = _
  rw [itemsToToml_drafts]

/-- The text of a document: its own lines, and its tables behind them. -/
def documentText (own : List Line) (parts : List Section) : List Char :=
  own.flatMap Line.letters ++ parts.flatMap Section.letters

/-- A written document begins with no byte order mark. -/
theorem documentText_head (own : List Line) (parts : List Section) :
    (documentText own parts).head? ≠ some '\uFEFF' := by
  cases own with
  | nil =>
    cases parts with
    | nil => simp [documentText]
    | cons part parts => simp [documentText, Section.letters, header]
  | cons line own =>
    obtain ⟨first, more, begun, bare⟩ := line.letters_head
    have solid : first ≠ '\uFEFF' := bare_apart bare (by decide)
    simpa [documentText, begun] using solid

/-- A document in which no key comes twice is read as what was written. -/
theorem parse_documentText {own : List Line} {parts : List Section}
    (distinct : (own.map Line.key ++ parts.map Section.key).Nodup)
    (inside : ∀ part ∈ parts, (part.lines.map Line.key).Nodup) :
    parse (.ofList (documentText own parts)) =
      .ok (.table (Line.items own ++ parts.map fun part => (part.key, .table (Line.items part.lines)))) := by
  have drafted (lines : List Line) (apart : (lines.map Line.key).Nodup) :
      KeysApart (Line.drafts lines) := by
    rw [KeysApart, Line.drafts, List.pairwise_map]
    exact List.pairwise_map.mp apart
  have whole : KeysApart (Line.drafts own ++ parts.map Section.draft) := by
    have keys : (Line.drafts own ++ parts.map Section.draft).map (·.1) =
        own.map Line.key ++ parts.map Section.key := by
      simp [Line.drafts, Section.draft, Function.comp_def]
    rw [← keys] at distinct
    exact List.pairwise_map.mp distinct
  -- The lines before the first header are read first; what they leave is settled by it.
  have own_ : KeysApart (Document.empty.current ++ Line.drafts own) := (List.pairwise_append.mp whole).1
  have room : (own.flatMap Line.letters ++ parts.flatMap Section.letters).length <
      (documentText own parts).length + 1 := Nat.lt_succ_self _
  obtain ⟨less, enough, read⟩ := Line.readLines_lines own_ room
  have settled : Document.settle { Document.empty with current := [] ++ Line.drafts own } =
      some (Line.drafts own) := rfl
  obtain ⟨final, done, others⟩ := Section.readLines_sections settled whole
    (fun part member => drafted _ (inside part member)) enough
  have all : readLines ((documentText own parts).length + 1) .empty (documentText own parts) = .ok final :=
    read.trans others
  have unmarked : ((documentText own parts).head? == some '\uFEFF') = false := by
    rw [beq_eq_false_iff_ne]
    exact documentText_head own parts
  rw [parse]
  simp only [String.toList_ofList, unmarked, Bool.false_eq_true, if_false, all, ok_bind]
  rw [Document.finish, done, Option.map_some, itemsToToml_document]
  rfl

end Placard.Toml

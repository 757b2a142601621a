import Placard.Proofs.Except
import Placard.Proofs.Json.Grammar
import Placard.Proofs.Json.Normal
import Placard.Proofs.Json.Numbers

/-! Every JSON text of whole numbers is read, as deep as the reader goes, and as the value it writes. -/

namespace Placard.Json

/-- A gap is passed over together with what is passed over behind it. -/
theorem skipSpace_append {gap : List Char} (blank : Gap gap) (text : List Char) :
    skipSpace (gap ++ text) = skipSpace text :=
  List.dropWhile_append_of_pos blank

/-- A word is read where it stands. -/
theorem readWord_append (word rest : List Char) : readWord word (word ++ rest) = .ok ((), rest) := by
  induction word with
  | nil => rw [List.nil_append, readWord]
  | cons c word ih => rw [List.cons_append, readWord, if_pos rfl, ih]

/-- A string in its quotation marks goes on behind them. -/
theorem StringText.append {value : String} {text : List Char} (written : StringText value text)
    (rest : List Char) :
    ∃ others, text ++ rest = '"' :: others ∧ readString others = .ok (value.toList, rest) := by
  obtain ⟨spelled, spells, rfl⟩ := written
  exact ⟨spelled ++ '"' :: rest, by simp, readString_spells spells rest⟩

/-- A value is read behind a gap as without it. -/
theorem readValue_gap {gap : List Char} (blank : Gap gap) (fuel depth : Nat) (text : List Char) :
    readValue (fuel + 1) depth (gap ++ text) = readValue (fuel + 1) depth text := by
  rw [readValue, readValue, skipSpace_append blank]

/-- The next item of an array is looked for behind a gap as without it. -/
theorem nextItem_gap {gap : List Char} (blank : Gap gap) (first : Bool) (text : List Char) :
    nextItem first (gap ++ text) = nextItem first text := by
  rw [nextItem, nextItem, skipSpace_append blank]

/-- The next key of an object is looked for behind a gap as without it. -/
theorem nextKey_gap {gap : List Char} (blank : Gap gap) (first : Bool) (text : List Char) :
    nextKey first (gap ++ text) = nextKey first text := by
  rw [nextKey, nextKey, skipSpace_append blank]

/-- An item of an array is found behind its comma and the gaps around it. -/
theorem nextItem_written (first : Bool) {before after shown : List Char} (blankBefore : Gap before)
    (blankAfter : Gap after) (opens : ∃ c rest, shown = c :: rest ∧ isSpace c = false ∧ c ≠ ']')
    (rest : List Char) :
    nextItem first (before ++ (comma first ++ after ++ shown) ++ rest) = .ok (true, shown ++ rest) := by
  -- Whatever value it is, its first character shows that the array goes on.
  obtain ⟨c, letters, rfl, mark, going⟩ := opens
  have found := nextItem_item first blankAfter mark going (letters ++ rest)
  rw [← nextItem_gap blankBefore] at found
  simpa using found

/-- A member of an object is found behind its comma, and its key is read up to the colon. -/
theorem nextKey_written (first : Bool) {before after name : List Char} {key : String}
    (blankBefore : Gap before) (blankAfter : Gap after) (named : StringText key name)
    (between gap shown rest : List Char) :
    ∃ marked, nextKey first
        (before ++ (comma first ++ after ++ name ++ between ++ ':' :: gap ++ shown) ++ rest) =
          .ok (true, marked) ∧
      readString marked = .ok (key.toList, between ++ ':' :: (gap ++ (shown ++ rest))) := by
  obtain ⟨marked, quoted, keyed⟩ := named.append (between ++ ':' :: (gap ++ (shown ++ rest)))
  have found := nextKey_key first blankAfter marked
  rw [← quoted, ← nextKey_gap blankBefore] at found
  exact ⟨marked, by simpa using found, keyed⟩

/-- Where a digit stands, a number is read. -/
theorem readValue_digit {c : Char} (digit : c.isDigit = true) (fuel depth : Nat) (rest : List Char) :
    readValue (fuel + 1) depth (c :: rest) =
      (readNumber false (c :: rest)).map fun (value, after) => (.number value, after) := by
  rw [readValue, skipSpace_solid (solid_cons (isSpace_digit digit))]
  -- No mark that starts another value is a digit.
  split
  · rename_i same
    cases same
  all_goals
    rename_i same
    cases same
    first
    | cases digit
    | exact if_pos digit

/-- A whole number is read where nothing behind it continues it. -/
theorem readValue_integer {value : Int} (whole : Whole (.number (.integer value))) (fuel depth : Nat)
    {rest : List Char} (ended : Ended rest) :
    readValue (fuel + 1) depth ((toString value).toList ++ rest) = .ok (.number (.integer value), rest) := by
  rw [Whole] at whole
  rw [Decimal.toList_toString]
  -- The sign decides which reader comes first; behind it stand the digits of the size.
  by_cases negative : value < 0
  · have positive : 0 < value.natAbs := by omega
    have read := readNumber_neg positive (by omega) ended
    have same : -(value.natAbs : Int) = value := by omega
    rw [if_pos negative, List.append_assoc, List.singleton_append, readValue,
      skipSpace_solid (solid_cons rfl)]
    simp only [read, map_ok, same]
  · have small : value.natAbs ≤ maxWord := by omega
    have read := readNumber_nat small ended
    have same : (value.natAbs : Int) = value := by omega
    have digits := Decimal.isNumeral_toDigits value.natAbs
    obtain ⟨c, others, front⟩ := List.exists_cons_of_ne_nil digits.1
    have digit : c.isDigit = true := digits.2 c (front ▸ List.mem_cons_self)
    rw [if_neg negative, List.nil_append]
    rw [front] at read ⊢
    rw [List.cons_append] at read ⊢
    rw [readValue_digit digit, read]
    simp only [map_ok, same]

/-! ### Texts that are read as values -/

/-- A text is read as a value wherever it stands, with room for its nesting and fuel for its length. -/
structure ReadAs (levels : Nat) (text : List Char) (held : Json) : Prop where
  opens : ∃ c rest, text = c :: rest ∧ isSpace c = false ∧ c ≠ ']'
  read : ∀ {fuel depth : Nat} {rest : List Char}, levels < depth → 2 * text.length ≤ fuel + 1 →
    Ended rest → readValue (fuel + 1) depth (text ++ rest) = .ok (held, rest)

/-- Texts with gaps and commas between them, each of which is read as an item. -/
inductive ReadItems (levels : Nat) : Bool → List Char → List Json → Prop
  | nil (first : Bool) : ReadItems levels first [] []
  | cons {first : Bool} {before after shown more : List Char} {held : Json} {others : List Json}
      (blankBefore : Gap before) (blankAfter : Gap after) (own : ReadAs levels shown held)
      (rest : ReadItems levels false more others) :
      ReadItems levels first (before ++ (comma first ++ after ++ shown) ++ more) (held :: others)

/-- Texts with gaps and commas between them, each of which is a key and is read as a member. -/
inductive ReadMembers (levels : Nat) : Bool → List Char → List (String × Json) → Prop
  | nil (first : Bool) : ReadMembers levels first [] []
  | cons {first : Bool} {before after name between gap shown more : List Char} {key : String} {held : Json}
      {others : List (String × Json)} (blankBefore : Gap before) (blankAfter : Gap after)
      (named : StringText key name) (blankBetween : Gap between) (blankSpace : Gap gap)
      (own : ReadAs levels shown held) (rest : ReadMembers levels false more others) :
      ReadMembers levels first
        (before ++ (comma first ++ after ++ name ++ between ++ ':' :: gap ++ shown) ++ more) ((key, held) :: others)

variable {levels : Nat}

/-- Some characters are read. -/
theorem ReadAs.length_pos {text : List Char} {held : Json} (reads : ReadAs levels text held) : 0 < text.length := by
  obtain ⟨c, rest, rfl, -, -⟩ := reads.opens
  exact Nat.succ_pos _

/-- What needs room for some nesting can do with more. -/
theorem ReadAs.mono {text : List Char} {held : Json} (reads : ReadAs levels text held) {more : Nat}
    (enough : levels ≤ more) : ReadAs more text held :=
  ⟨reads.opens, fun shallow => reads.read (Nat.lt_of_le_of_lt enough shallow)⟩

/-- Behind an item, the others and the end of the array continue no number. -/
theorem ReadItems.ended {text : List Char} {held : List Json} (reads : ReadItems levels false text held)
    {rest : List Char} (ended : Ended rest) : Ended (text ++ rest) := by
  generalize same : false = first at reads
  cases reads with
  | nil => exact ended
  | cons blank =>
    rw [← same, List.append_assoc, List.append_assoc]
    exact Ended.gap blank (ended_mark (.inl rfl) _)

/-- Behind a member, the others and the end of the object continue no number. -/
theorem ReadMembers.ended {text : List Char} {held : List (String × Json)}
    (reads : ReadMembers levels false text held) {rest : List Char} (ended : Ended rest) : Ended (text ++ rest) := by
  generalize same : false = first at reads
  cases reads with
  | nil => exact ended
  | cons blank =>
    rw [← same, List.append_assoc, List.append_assoc]
    exact Ended.gap blank (ended_mark (.inl rfl) _)

/-- Texts that are read as items are read as a list, up to the end of the array. -/
theorem ReadItems.read {first : Bool} {text : List Char} {held : List Json} (reads : ReadItems levels first text held)
    {gap : List Char} (blank : Gap gap) {fuel depth : Nat} (shallow : levels < depth)
    (fuelled : 2 * text.length + 1 ≤ fuel) (rest : List Char) :
    readItems fuel depth first (text ++ (gap ++ ']' :: rest)) = .ok (held, rest) := by
  induction reads generalizing fuel with
  | nil first =>
    obtain ⟨fuel, rfl⟩ := Nat.exists_eq_add_of_le' fuelled
    rw [List.nil_append, List.length_nil, Nat.mul_zero, Nat.zero_add, readItems, nextItem_end first blank]
    rfl
  | @cons first before after shown more held others blankBefore blankAfter own behind ih =>
    have filled := own.length_pos
    -- One step is for the item itself; what is left is enough for it and for the others.
    obtain ⟨left, rfl, room, enough⟩ : ∃ left, fuel = left + 1 + 1 ∧
        2 * shown.length ≤ left + 1 ∧ 2 * more.length + 1 ≤ left + 1 := by
      simp only [List.length_append] at fuelled
      exact ⟨fuel - 2, by omega, by omega, by omega⟩
    have ended := behind.ended (Ended.gap blank (ended_mark (.inr (.inl rfl)) rest))
    rw [List.append_assoc, readItems, nextItem_written first blankBefore blankAfter own.opens]
    simp only [ok_bind, own.read shallow room ended, ih enough, pure_eq_ok]

/-- Texts that are read as members are filed, up to the end of the object. -/
theorem ReadMembers.read {first : Bool} {text : List Char} {members : List (String × Json)}
    (reads : ReadMembers levels first text members) {gap : List Char} (blank : Gap gap) {fuel depth : Nat}
    (shallow : levels < depth) (fuelled : 2 * text.length + 1 ≤ fuel) (held : List (String × Json))
    (rest : List Char) :
    readMembers fuel depth first held (text ++ (gap ++ '}' :: rest)) = .ok (filed held members, rest) := by
  induction reads generalizing fuel held with
  | nil first =>
    obtain ⟨fuel, rfl⟩ := Nat.exists_eq_add_of_le' fuelled
    rw [List.nil_append, List.length_nil, Nat.mul_zero, Nat.zero_add, readMembers, nextKey_end first blank]
    rfl
  | @cons first before after name between space shown more key value others blankBefore blankAfter named
      blankBetween blankSpace own behind ih =>
    -- As with items, one step is for the member itself.
    have filled := own.length_pos
    obtain ⟨left, rfl, room, enough⟩ : ∃ left, fuel = left + 1 + 1 ∧
        2 * shown.length ≤ left + 1 ∧ 2 * more.length + 1 ≤ left + 1 := by
      simp only [List.length_append, List.length_cons] at fuelled
      exact ⟨fuel - 2, by omega, by omega, by omega⟩
    have ended := behind.ended (Ended.gap blank (ended_mark (.inr (.inr rfl)) rest))
    -- The key, the colon and the value are passed one after another.
    obtain ⟨marked, next, keyed⟩ := nextKey_written first blankBefore blankAfter named between space shown
      (more ++ (gap ++ '}' :: rest))
    rw [List.append_assoc, readMembers, next]
    simp only [ok_bind, keyed, readColon_gap blankBetween, readValue_gap blankSpace, own.read shallow room ended,
      String.ofList_toList]
    exact ih enough _

/-- Items between the marks of an array are read as the array, one level up. -/
theorem ReadAs.array {body gap : List Char} {held : List Json} (inside : ReadItems levels true body held)
    (blank : Gap gap) : ReadAs (levels + 1) ('[' :: (body ++ gap) ++ [']']) (.array held) := by
  refine ⟨⟨_, _, rfl, rfl, by decide⟩, fun {fuel depth rest} shallow fuelled _ => ?_⟩
  simp only [List.length_append, List.length_cons] at fuelled
  have read := inside.read blank (show levels < depth - 1 by omega) (show 2 * body.length + 1 ≤ fuel by omega) rest
  have text : '[' :: (body ++ gap) ++ [']'] ++ rest = '[' :: (body ++ (gap ++ ']' :: rest)) := by simp
  rw [text, readValue, skipSpace_solid (solid_cons rfl)]
  simp only [if_neg (show ¬ depth ≤ 1 by omega), read, map_ok]

/-- Members between the marks of an object are read as the object, one level up, and filed. -/
theorem ReadAs.object {body gap : List Char} {held : List (String × Json)}
    (inside : ReadMembers levels true body held) (blank : Gap gap) :
    ReadAs (levels + 1) ('{' :: (body ++ gap) ++ ['}']) (.object (filed [] held)) := by
  refine ⟨⟨_, _, rfl, rfl, by decide⟩, fun {fuel depth rest} shallow fuelled _ => ?_⟩
  simp only [List.length_append, List.length_cons] at fuelled
  have read := inside.read blank (show levels < depth - 1 by omega) (show 2 * body.length + 1 ≤ fuel by omega) [] rest
  have text : '{' :: (body ++ gap) ++ ['}'] ++ rest = '{' :: (body ++ (gap ++ '}' :: rest)) := by simp
  rw [text, readValue, skipSpace_solid (solid_cons rfl)]
  simp only [if_neg (show ¬ depth ≤ 1 by omega), read, map_ok]

/-- The word for nothing is read as nothing. -/
theorem readAs_null : ReadAs levels "null".toList .null := by
  refine ⟨⟨_, _, rfl, rfl, by decide⟩, fun {fuel depth rest} _ _ _ => ?_⟩
  have text : "null".toList ++ rest = 'n' :: ("ull".toList ++ rest) := rfl
  rw [text, readValue, skipSpace_solid (solid_cons rfl)]
  simp only [readWord_append, map_ok]

/-- The word for a truth value is read as that one. -/
theorem readAs_bool (value : Bool) : ReadAs levels (toString value).toList (.bool value) := by
  cases value with
  | true =>
    refine ⟨⟨'t', _, rfl, rfl, by decide⟩, fun {fuel depth rest} _ _ _ => ?_⟩
    have text : (toString true).toList ++ rest = 't' :: ("rue".toList ++ rest) := rfl
    rw [text, readValue, skipSpace_solid (solid_cons rfl)]
    simp only [readWord_append, map_ok]
  | false =>
    refine ⟨⟨'f', _, rfl, rfl, by decide⟩, fun {fuel depth rest} _ _ _ => ?_⟩
    have text : (toString false).toList ++ rest = 'f' :: ("alse".toList ++ rest) := rfl
    rw [text, readValue, skipSpace_solid (solid_cons rfl)]
    simp only [readWord_append, map_ok]

/-- A whole number of 64 bits is read in its decimal. -/
theorem readAs_integer {value : Int} (whole : Whole (.number (.integer value))) :
    ReadAs levels (toString value).toList (.number (.integer value)) :=
  ⟨Written.head (show Written (.number (.integer value)) (toString value).toList from rfl),
    fun {fuel depth _} _ _ ended => readValue_integer whole fuel depth ended⟩

/-- A string is read as its text, whatever escapes spell it. -/
theorem StringText.readAs {value : String} {text : List Char} (written : StringText value text) :
    ReadAs levels text (.string value) := by
  refine ⟨Written.head (show Written (.string value) text from written), fun {fuel depth rest} _ _ _ => ?_⟩
  obtain ⟨others, quoted, read⟩ := written.append rest
  rw [quoted, readValue, skipSpace_solid (solid_cons rfl)]
  simp only [read, map_ok, String.ofList_toList]

/-- What is read as a value is parsed as the value, if it is not nested too deep. -/
theorem ReadAs.parse {written before after : List Char} {held : Json} (reads : ReadAs levels written held)
    (shallow : levels < depthLimit) (blankBefore : Gap before) (blankAfter : Gap after) {text : String}
    (same : text.toList = before ++ written ++ after) : parse text = .ok held := by
  have ended : Ended after := by
    have passed := ended_nil.gap blankAfter
    rwa [List.append_nil] at passed
  rw [Json.parse, ofChars?, same, List.append_assoc, readValue_gap blankBefore]
  -- The whole text gives at least the fuel that the value in it takes.
  have fuelled : 2 * written.length ≤ 2 * (before ++ (written ++ after)).length + 1 + 1 := by
    simp only [List.length_append]
    omega
  rw [reads.read shallow fuelled ended, ok_bind, readEnd_gap blankAfter]

/-! ### Values of whole numbers -/

/-- Items that are read wherever they are written are read where they are written in a row. -/
theorem readItems_written {items : List Json}
    (each : ∀ item ∈ items, ∀ {shown}, Written item shown → ReadAs levels shown item.normal) {first : Bool}
    {text : List Char} (written : WrittenItems first items text) :
    ReadItems levels first text (normalItems items) := by
  induction items generalizing first text with
  | nil =>
    rw [WrittenItems] at written
    exact written ▸ .nil first
  | cons item others ih =>
    rw [List.forall_mem_cons] at each
    rw [WrittenItems] at written
    obtain ⟨before, after, shown, more, blankBefore, blankAfter, own, behind, rfl⟩ := written
    exact .cons blankBefore blankAfter (each.1 own) (ih each.2 behind)

/-- Members that are read wherever they are written are read where they are written in a row. -/
theorem readMembers_written {members : List (String × Json)}
    (each : ∀ member ∈ members, ∀ {shown}, Written member.2 shown → ReadAs levels shown member.2.normal)
    {first : Bool} {text : List Char} (written : WrittenMembers first members text) :
    ReadMembers levels first text (normalMembers members) := by
  induction members generalizing first text with
  | nil =>
    rw [WrittenMembers] at written
    exact written ▸ .nil first
  | cons member others ih =>
    obtain ⟨key, value⟩ := member
    rw [List.forall_mem_cons] at each
    rw [WrittenMembers] at written
    obtain ⟨before, after, name, between, space, shown, more, blankBefore, blankAfter, named, blankBetween,
      blankSpace, own, behind, rfl⟩ := written
    exact .cons blankBefore blankAfter named blankBetween blankSpace (each.1 own) (ih each.2 behind)

/-- Every value with whole numbers is read from every text that writes it. -/
theorem Whole.readAs {value : Json} (whole : Whole value) {written : List Char} (writes : Written value written) :
    ReadAs value.depth written value.normal := by
  -- An array or an object hands its items the nesting that its marks leave.
  induction value using nested_induction generalizing written with
  | null =>
    rw [Written] at writes
    exact writes ▸ readAs_null
  | bool value =>
    rw [Written] at writes
    exact writes ▸ readAs_bool value
  | number value =>
    cases value with
    | integer value =>
      rw [Written, Number.Text] at writes
      exact writes ▸ readAs_integer whole
    | float value =>
      rw [Whole] at whole
      exact whole.elim
  | string value =>
    rw [Written] at writes
    exact writes.readAs
  | array items ih =>
    rw [Whole, wholeItems_iff] at whole
    rw [Written] at writes
    obtain ⟨body, gap, inside, blank, rfl⟩ := writes
    have below := depthItems_le_iff.mp (Nat.le_refl (depthItems items))
    exact .array (readItems_written (fun item among _ own =>
      (ih item among (whole item among) own).mono (below item among)) inside) blank
  | object members ih =>
    rw [Whole, wholeMembers_iff] at whole
    rw [Written] at writes
    obtain ⟨body, gap, inside, blank, rfl⟩ := writes
    have below := depthMembers_le_iff.mp (Nat.le_refl (depthMembers members))
    exact .object (readMembers_written (fun member among _ own =>
      (ih member among (whole member among) own).mono (below member among)) inside) blank

/-- A text that writes a value of whole numbers is read as the value, if it is not nested too deep. -/
theorem parse_writes {text : String} {value : Json} (writes : Writes text value) (whole : Whole value)
    (shallow : value.depth < depthLimit) : parse text = .ok value.normal := by
  obtain ⟨before, written, after, blankBefore, own, blankAfter, same⟩ := writes
  exact (whole.readAs own).parse shallow blankBefore blankAfter same

/-- The writer makes a text that writes its value. -/
theorem writes_compact {value : Json} (whole : Whole value) : Writes value.compact value := by
  refine ⟨[], value.compactChars, [], gap_nil, written_compactChars whole, gap_nil, ?_⟩
  rw [compact, String.toList_ofList, List.nil_append, List.append_nil]

/-- What the writer makes of a value of whole numbers is read as the value. -/
theorem parse_compact {value : Json} (whole : Whole value) (shallow : value.depth < depthLimit) :
    parse value.compact = .ok value.normal :=
  parse_writes (writes_compact whole) whole shallow

/-! ### Strings where they are wanted -/

/-- A written string is read behind a gap, where a string is wanted. -/
theorem readText_written {gap text : List Char} (blank : Gap gap) (wanted : String) {value : String}
    (written : StringText value text) (rest : List Char) :
    readText wanted (gap ++ (text ++ rest)) = .ok (value, rest) := by
  obtain ⟨spelled, spells, rfl⟩ := written
  rw [List.append_assoc, List.cons_append, readText, skipSpace_gap blank (solid_cons rfl)]
  simp only [List.singleton_append, readString_spells spells, map_ok, String.ofList_toList]

/-- A written word is read behind a gap, where words are known and it is one of them. -/
theorem readKnown_written {α : Type} {gap text : List Char} (blank : Gap gap) {known : List (String × α)}
    {word : String} {meaning : α} (found : known.lookup word = some meaning) (written : StringText word text)
    (rest : List Char) : readKnown known (gap ++ (text ++ rest)) = .ok (meaning, rest) := by
  obtain ⟨spelled, spells, rfl⟩ := written
  rw [List.append_assoc, List.cons_append, readKnown, skipSpace_gap blank (solid_cons rfl)]
  simp [readString_spells spells, knownWord, found]

end Placard.Json

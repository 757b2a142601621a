import Placard.Proofs.Except
import Placard.Proofs.Json.Numbers

/-! Nothing but JSON text is read. -/

namespace Placard.Json

/-- What is passed over as space is a gap. -/
theorem skipSpace_sound (text : List Char) : ∃ gap, Gap gap ∧ text = gap ++ skipSpace text :=
  ⟨text.takeWhile isSpace, fun _ member => List.mem_takeWhile_imp member,
    (List.takeWhile_append_dropWhile).symm⟩

/-- A word that is read stands in front of the rest. -/
theorem readWord_sound {word text rest : List Char} {read_ : Unit}
    (read : readWord word text = .ok (read_, rest)) : text = word ++ rest := by
  induction word generalizing text with
  | nil =>
    cases read
    rfl
  | cons w word ih =>
    cases text with
    | nil => cases read
    | cons c text =>
      rw [readWord] at read
      split at read
      · rename_i same
        rw [same, ih read, List.cons_append]
      · cases read

/-- A character put in front of a string that was read is its first one. -/
private theorem consRead_eq_ok_iff {c : Char} {read : Except Fault (List Char × List Char)}
    {value rest : List Char} :
    consRead c read = .ok (value, rest) ↔ ∃ others, value = c :: others ∧ read = .ok (others, rest) := by
  cases read with
  | error fault => simp [consRead, Except.map]
  | ok found =>
    obtain ⟨text, left⟩ := found
    simp only [consRead, map_ok, Except.ok.injEq, Prod.mk.injEq]
    constructor
    · rintro ⟨rfl, rfl⟩
      exact ⟨text, rfl, rfl, rfl⟩
    · rintro ⟨others, rfl, rfl, rfl⟩
      exact ⟨rfl, rfl⟩

/-- A string that is read is spelled in front of its closing mark. -/
theorem readString_sound {text value rest : List Char} (read : readString text = .ok (value, rest)) :
    ∃ spelled, Spells spelled value ∧ text = spelled ++ '"' :: rest := by
  -- Each character that is read has one of the spellings; every other case is a fault.
  have step {written : List Char} {c : Char} {after : List Char} (spells : SpellsChar written c)
      (ih : ∀ {value : List Char}, readString after = .ok (value, rest) →
        ∃ spelled, Spells spelled value ∧ after = spelled ++ '"' :: rest)
      {value : List Char} (read : consRead c (readString after) = .ok (value, rest)) :
      ∃ spelled, Spells spelled value ∧ written ++ after = spelled ++ '"' :: rest := by
    obtain ⟨others, rfl, further⟩ := consRead_eq_ok_iff.mp read
    obtain ⟨spelled, more, rfl⟩ := ih further
    exact ⟨written ++ spelled, .next spells more, (List.append_assoc _ _ _).symm⟩
  fun_induction readString text generalizing value with
  | case2 rest_ =>
    cases read
    exact ⟨[], .done, rfl⟩
  | case5 a b c d code quad other opens e f g h after trailing second ih =>
    obtain ⟨found, closes⟩ := Option.filter_eq_some_iff.mp second
    exact step (.pair quad opens found closes) ih read
  | case8 a b c d after code quad other whole ih =>
    exact step (.code quad ⟨by simpa using whole, by simpa using other⟩) ih read
  | case11 c after _ _ plain known ih => exact step (.short known) ih read
  | case14 c after unquoted _ _ alone escape visible ih =>
    -- A backslash would have begun an escape.
    have unescaped : c ≠ '\\' := by
      rintro rfl
      cases after with
      | nil => exact alone rfl rfl
      | cons next others => exact escape next others rfl rfl
    exact step (.plain unquoted unescaped (by omega)) ih read
  | _ => cases read

/-- Where another item of an array is found, it stands behind its comma and gaps. -/
theorem nextItem_more {first : Bool} {text rest : List Char}
    (found : nextItem first text = .ok (true, rest)) :
    ∃ before after, Gap before ∧ Gap after ∧ text = before ++ (comma first ++ after) ++ rest := by
  obtain ⟨before, blank, parted⟩ := skipSpace_sound text
  unfold nextItem at found
  split at found
  · cases found
  · cases found
  · rename_i c others _ same
    rw [same] at parted
    split at found
    · -- The first item has no comma in front.
      rename_i isFirst
      cases found
      exact ⟨before, [], blank, gap_nil, by simp [comma, isFirst, parted]⟩
    · -- Behind the comma of a later item, the array must not end.
      rename_i later
      split at found
      · cases found
      · rename_i isComma
        obtain ⟨after, blankAfter, partedAfter⟩ := skipSpace_sound others
        have mark : c = ',' := by simpa using isComma
        split at found
        · cases found
        · cases found
        · cases found
          refine ⟨before, after, blank, blankAfter, ?_⟩
          rw [parted, mark]
          simpa [comma, later] using partedAfter

/-- Where an array ends, its mark stands behind a gap. -/
theorem nextItem_last {first : Bool} {text rest : List Char}
    (found : nextItem first text = .ok (false, rest)) : ∃ gap, Gap gap ∧ text = gap ++ ']' :: rest := by
  obtain ⟨gap, blank, parted⟩ := skipSpace_sound text
  unfold nextItem at found
  split at found
  · cases found
  · rename_i same
    cases found
    exact ⟨gap, blank, same ▸ parted⟩
  · repeat' split at found
    all_goals cases found

/-- Where another key of an object is found, its mark stands behind its comma and gaps. -/
theorem nextKey_more {first : Bool} {text rest : List Char}
    (found : nextKey first text = .ok (true, rest)) :
    ∃ before after, Gap before ∧ Gap after ∧ text = before ++ (comma first ++ after) ++ '"' :: rest := by
  obtain ⟨before, blank, parted⟩ := skipSpace_sound text
  unfold nextKey at found
  split at found
  · cases found
  · cases found
  · -- A quotation mark may stand there at once only for the first key.
    rename_i same
    rw [same] at parted
    split at found
    · rename_i isFirst
      cases found
      exact ⟨before, [], blank, gap_nil, by simp [comma, isFirst, parted]⟩
    · cases found
  · -- Every later key stands behind a comma.
    rename_i c others _ _ same
    rw [same] at parted
    split at found
    · cases found
    · rename_i later
      split at found
      · cases found
      · rename_i isComma
        obtain ⟨after, blankAfter, partedAfter⟩ := skipSpace_sound others
        have mark : c = ',' := by simpa using isComma
        split at found
        · cases found
        · rename_i quoted
          cases found
          refine ⟨before, after, blank, blankAfter, ?_⟩
          rw [parted, mark, partedAfter, quoted]
          simp [comma, later]
        · cases found
        · cases found

/-- Where an object ends, its mark stands behind a gap. -/
theorem nextKey_last {first : Bool} {text rest : List Char}
    (found : nextKey first text = .ok (false, rest)) : ∃ gap, Gap gap ∧ text = gap ++ '}' :: rest := by
  obtain ⟨gap, blank, parted⟩ := skipSpace_sound text
  unfold nextKey at found
  split at found
  · cases found
  · rename_i same
    cases found
    exact ⟨gap, blank, same ▸ parted⟩
  all_goals
    repeat' split at found
    all_goals cases found

/-- A colon that is found stands behind a gap. -/
theorem readColon_sound {text rest : List Char} (read : readColon text = .ok rest) :
    ∃ gap, Gap gap ∧ text = gap ++ ':' :: rest := by
  obtain ⟨gap, blank, parted⟩ := skipSpace_sound text
  unfold readColon at read
  split at read
  · rename_i same
    cases read
    exact ⟨gap, blank, same ▸ parted⟩
  · cases read
  · cases read

/-- Where a text ends behind a value, nothing but a gap was left. -/
theorem readEnd_sound {α : Type} {value found : α} {rest : List Char}
    (read : readEnd (value, rest) = .ok found) : Gap rest := by
  obtain ⟨gap, blank, parted⟩ := skipSpace_sound rest
  unfold readEnd at read
  split at read
  · rename_i same
    rw [same, List.append_nil] at parted
    exact parted ▸ blank
  · cases read

/-! ### Values -/

/-- A part of a text that was read as a value writes some value, with a gap in front of it. -/
def SoundValue (text rest : List Char) : Prop :=
  ∃ gap shown written, Gap gap ∧ Written shown written ∧ text = gap ++ written ++ rest

/-- A part of a text that was read as items of an array writes such items, up to the end of the array. -/
def SoundItems (first : Bool) (text rest : List Char) : Prop :=
  ∃ shown body gap, WrittenItems first shown body ∧ Gap gap ∧ text = body ++ (gap ++ ']' :: rest)

/-- A part of a text that was read as members of an object writes such members, up to its end. -/
def SoundMembers (first : Bool) (text rest : List Char) : Prop :=
  ∃ shown body gap, WrittenMembers first shown body ∧ Gap gap ∧ text = body ++ (gap ++ '}' :: rest)

/-- Two gaps in a row are one. -/
theorem Gap.append {first second : List Char} (blank : Gap first) (blankToo : Gap second) :
    Gap (first ++ second) :=
  fun c member => (List.mem_append.mp member).elim (blank c) (blankToo c)

/-- An item behind its comma, and the others behind it, are items. -/
theorem SoundItems.cons {first : Bool} {before after text middle rest : List Char} (blank : Gap before)
    (blankAfter : Gap after) (item : SoundValue text middle) (others : SoundItems false middle rest) :
    SoundItems first (before ++ (comma first ++ after) ++ text) rest := by
  obtain ⟨gap, shown, written, blankItem, own, rfl⟩ := item
  obtain ⟨more, body, last, inside, blankLast, rfl⟩ := others
  refine ⟨shown :: more, before ++ (comma first ++ (after ++ gap) ++ written) ++ body, last, ?_, blankLast,
    by simp⟩
  rw [WrittenItems]
  exact ⟨before, after ++ gap, written, body, blank, blankAfter.append blankItem, own, inside, rfl⟩

/-- A member behind its comma, and the others behind it, are members. -/
theorem SoundMembers.cons {first : Bool} {before after spelled key between text middle rest : List Char}
    (blank : Gap before) (blankAfter : Gap after) (named : Spells spelled key) (blankBetween : Gap between)
    (value : SoundValue text middle) (others : SoundMembers false middle rest) :
    SoundMembers first (before ++ (comma first ++ after) ++ '"' ::
      (spelled ++ '"' :: (between ++ ':' :: text))) rest := by
  obtain ⟨gap, shown, written, blankValue, own, rfl⟩ := value
  obtain ⟨more, body, last, inside, blankLast, rfl⟩ := others
  refine ⟨(.ofList key, shown) :: more, before ++ (comma first ++ after ++ ('"' :: spelled ++ ['"']) ++
    between ++ ':' :: gap ++ written) ++ body, last, ?_, blankLast, by simp⟩
  rw [WrittenMembers]
  exact ⟨before, after, '"' :: spelled ++ ['"'], between, gap, written, body, blank, blankAfter,
    ⟨spelled, by rwa [String.toList_ofList], rfl⟩, blankBetween, blankValue, own, inside, rfl⟩

/-- What is read as a value writes one, if what is read as items and as members inside it writes such. -/
theorem readValue_sound {fuel depth : Nat} {text rest : List Char} {value : Json}
    (items : ∀ {depth first text items rest}, readItems fuel depth first text = .ok (items, rest) →
      SoundItems first text rest)
    (members : ∀ {depth first held text members rest},
      readMembers fuel depth first held text = .ok (members, rest) → SoundMembers first text rest)
    (read : readValue (fuel + 1) depth text = .ok (value, rest)) : SoundValue text rest := by
  obtain ⟨gap, blank, parted⟩ := skipSpace_sound text
  -- The first character decides what kind of value is read.
  suffices found : ∃ shown written, Written shown written ∧ skipSpace text = written ++ rest by
    obtain ⟨shown, written, own, same⟩ := found
    exact ⟨gap, shown, written, blank, own, by rw [List.append_assoc, ← same, ← parted]⟩
  -- A word that is read behind its first letter writes the value for which it stands.
  have word {letter : Char} {letters others : List Char} {made : Json}
      (own : Written made (letter :: letters)) (same : skipSpace text = letter :: others)
      (read : (readWord letters others).map (fun found => (made, found.2)) = .ok (value, rest)) :
      ∃ shown written, Written shown written ∧ skipSpace text = written ++ rest := by
    obtain ⟨⟨_, after⟩, stands, goes⟩ := map_eq_ok_iff.mp read
    cases goes
    exact ⟨value, letter :: letters, own, by rw [same, readWord_sound stands, List.cons_append]⟩
  rw [readValue] at read
  split at read
  · cases read
  iterate 3
    rename_i others same
    refine word ?_ same read
    rfl
  · -- A quotation mark begins a string.
    rename_i others same
    obtain ⟨⟨letters, after⟩, string, made⟩ := map_eq_ok_iff.mp read
    cases made
    obtain ⟨spelled, spells, rfl⟩ := readString_sound string
    exact ⟨.string (.ofList letters), '"' :: spelled ++ ['"'],
      ⟨spelled, by rwa [String.toList_ofList], rfl⟩, by rw [same]; simp⟩
  · -- A literal of a number writes any floating-point number, whichever was read.
    rename_i others same
    obtain ⟨⟨number, after⟩, read, made⟩ := map_eq_ok_iff.mp read
    cases made
    obtain ⟨literal, rfl, shown⟩ := readNumber_sound read
    exact ⟨.number (.float 0), '-' :: literal, shown, same⟩
  · -- Inside an array and an object, what is assumed of the readers for them says what was written.
    rename_i others same
    split at read
    · cases read
    · obtain ⟨⟨list, after⟩, read, made⟩ := map_eq_ok_iff.mp read
      cases made
      obtain ⟨shown, body, last, inside, blankLast, rfl⟩ := items read
      exact ⟨.array shown, '[' :: (body ++ last) ++ [']'], ⟨body, last, inside, blankLast, rfl⟩,
        by rw [same]; simp⟩
  · rename_i others same
    split at read
    · cases read
    · obtain ⟨⟨list, after⟩, read, made⟩ := map_eq_ok_iff.mp read
      cases made
      obtain ⟨shown, body, last, inside, blankLast, rfl⟩ := members read
      exact ⟨.object shown, '{' :: (body ++ last) ++ ['}'], ⟨body, last, inside, blankLast, rfl⟩,
        by rw [same]; simp⟩
  · -- Anything else is a number without a sign, or a fault.
    rename_i c others _ _ _ _ _ _ _ same
    split at read
    · obtain ⟨⟨number, after⟩, read, made⟩ := map_eq_ok_iff.mp read
      cases made
      obtain ⟨literal, parted, shown⟩ := readNumber_sound read
      exact ⟨.number (.float 0), literal, shown, by rw [same, parted]⟩
    · cases read

/-- Whatever is read as a value, as items or as members writes such. -/
theorem read_sound (fuel : Nat) :
    (∀ {depth text value rest}, readValue fuel depth text = .ok (value, rest) → SoundValue text rest) ∧
    (∀ {depth first text items rest}, readItems fuel depth first text = .ok (items, rest) →
      SoundItems first text rest) ∧
    ∀ {depth first held text members rest}, readMembers fuel depth first held text = .ok (members, rest) →
      SoundMembers first text rest := by
  -- Each reader calls the others with less fuel.
  induction fuel with
  | zero =>
    refine ⟨fun read => ?_, fun read => ?_, fun read => ?_⟩
    · rw [readValue] at read
      cases read
    · rw [readItems] at read
      cases read
    · rw [readMembers] at read
      cases read
  | succ fuel ih =>
    obtain ⟨soundValue, soundItems, soundMembers⟩ := ih
    refine ⟨fun {depth text value rest} read => ?_, fun {depth first text items rest} read => ?_,
      fun {depth first held text members rest} read => ?_⟩
    · exact readValue_sound soundItems soundMembers read
    · -- Items end with the array, or one more stands in front of the others.
      rw [readItems] at read
      obtain ⟨⟨more, behind⟩, next, goes⟩ := bind_eq_ok_iff.mp read
      cases more with
      | false =>
        cases goes
        obtain ⟨gap, blank, same⟩ := nextItem_last next
        exact ⟨[], [], gap, rfl, blank, same⟩
      | true =>
        dsimp only at goes
        obtain ⟨⟨item, middle⟩, own, goes⟩ := bind_eq_ok_iff.mp goes
        obtain ⟨⟨others, last⟩, more, goes⟩ := bind_eq_ok_iff.mp goes
        cases goes
        obtain ⟨before, after, blank, blankAfter, rfl⟩ := nextItem_more next
        exact .cons blank blankAfter (soundValue own) (soundItems more)
    · rw [readMembers] at read
      obtain ⟨⟨more, behind⟩, next, goes⟩ := bind_eq_ok_iff.mp read
      cases more with
      | false =>
        cases goes
        obtain ⟨gap, blank, same⟩ := nextKey_last next
        exact ⟨[], [], gap, rfl, blank, same⟩
      | true =>
        dsimp only at goes
        obtain ⟨⟨key, afterKey⟩, named, goes⟩ := bind_eq_ok_iff.mp goes
        obtain ⟨afterColon, colon, goes⟩ := bind_eq_ok_iff.mp goes
        obtain ⟨⟨value, middle⟩, own, others⟩ := bind_eq_ok_iff.mp goes
        obtain ⟨before, after, blank, blankAfter, rfl⟩ := nextKey_more next
        obtain ⟨spelled, spells, rfl⟩ := readString_sound named
        obtain ⟨between, blankBetween, rfl⟩ := readColon_sound colon
        exact .cons blank blankAfter spells blankBetween (soundValue own) (soundMembers others)

/-- A text that is read as a value writes some value. -/
theorem writes_of_parse {text : String} {value : Json} (read : parse text = .ok value) :
    ∃ shown, Writes text shown := by
  obtain ⟨⟨found, rest⟩, read, ended⟩ := bind_eq_ok_iff.mp read
  obtain ⟨gap, shown, written, blank, own, same⟩ := (read_sound _).1 read
  exact ⟨shown, gap, written, rest, blank, own, readEnd_sound ended, same⟩

end Placard.Json

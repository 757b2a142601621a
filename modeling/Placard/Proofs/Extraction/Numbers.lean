import Placard.Proofs.Decimal.Marked
import Placard.Proofs.Extraction
import Placard.Proofs.Json.Located

/-! Numbers taken out of JSON bodies: which literals are shown as they stand, and which are written anew. -/

namespace Placard

namespace Json

/-- Keys that lead through the value of a member lead through an object with only that member. -/
theorem LeadsTo.only {keys : List String} {inner literal : List Char} (leads : LeadsTo keys inner literal)
    (key : String) : LeadsTo (key :: keys) ('{' :: (quote key ++ ':' :: (inner ++ ['}']))) literal := by
  have keyed : KeyText true key (quote key ++ [':']) :=
    ⟨[], [], quote key, [], [], gap_nil, gap_nil, stringText_quote key, gap_nil, gap_nil, by simp [comma]⟩
  have alone := @LeadsTo.member key keys [] [] [] _ inner [] [] literal rfl keyed leads rfl
    List.not_mem_nil gap_nil
  simpa using alone

/-- Keys that lead to a literal in the text of an object lead to it in the whole text. -/
theorem LeadsTo.locatedAt {keys : List String} {text : String} {literal : List Char}
    (leads : LeadsTo keys text.toList literal) : LocatedAt keys text literal :=
  ⟨[], text.toList, [], gap_nil, leads, gap_nil, (List.append_nil _).symm⟩

/-- The literal of a negative zero. -/
theorem numberText_negativeZero : NumberText ['-', '0'] :=
  ⟨['-'], ['0'], [], [], rfl, .inr rfl, Decimal.isWhole_zero, .inl rfl, .inl rfl⟩

/-- A negative zero stands at the end of a key in an object with nothing else. -/
theorem locatedAt_negativeZero : LocatedAt ["n"] "\x7b\"n\":-0\x7d" "-0".toList :=
  ((LeadsTo.here numberText_negativeZero).only "n").locatedAt

/-- The object with nothing but a negative zero is read. -/
theorem parse_negativeZero : ∃ root, Json.parse "\x7b\"n\":-0\x7d" = .ok root := by
  have read : (Json.parse "\x7b\"n\":-0\x7d").toOption.isSome = true := by decide +kernel
  obtain ⟨root, found⟩ := Option.isSome_iff_exists.mp read
  exact ⟨root, toOption_eq_some_iff.mp found⟩

/-- A negative zero is the decimal of no whole number. -/
theorem not_plain_negativeZero : ¬ ∃ value, Plain ['-', '0'] value := by
  rintro ⟨value, -, same⟩
  rw [Decimal.toList_toString] at same
  -- Behind its sign a negative number has a size, and any other number has no sign.
  split at same
  · rename_i negative
    rw [List.singleton_append] at same
    have size := congrArg (Decimal.natural 0) (List.cons.inj same).2
    rw [Decimal.natural_toDigits] at size
    have zero : Decimal.natural 0 ['0'] = 0 := rfl
    omega
  · have digit := (Decimal.isNumeral_toDigits value.natAbs).2 '-'
    rw [List.nil_append] at same
    rw [← same] at digit
    cases digit List.mem_cons_self

/-- A floating-point number is shown in another spelling than a literal with no mark for it. -/
theorem write_float_ne {literal : List Char} (shown : NumberText literal)
    (marks : 'E' ∈ literal ∨ '.' ∉ literal ∧ 'e' ∉ literal) (value : Float) :
    (Number.float value).write ≠ .ofList literal := by
  intro same
  rcases Decimal.write_float value with null | marked
  · -- No literal begins as null does.
    obtain ⟨c, rest, rfl, start⟩ := shown.head
    rw [null] at same
    have front := congrArg (·.toList.head?) same
    simp only [String.toList_ofList, List.head?_cons] at front
    cases front
    rcases start with sign | digit
    · cases sign
    · cases digit
  · rw [same, String.toList_ofList] at marked
    rcases marks with large | ⟨noPoint, noMark⟩
    · exact absurd (marked.each _ large) (by unfold Decimal.Marking; decide)
    · exact marked.some_.elim noPoint noMark

end Json

/-- At the end of a path of keys, a number is shown as it is written, trimmed. -/
theorem extract_descended {body : String} {root : Json} {keys : List String} {found : Json.Number}
    (read : Json.parse body = .ok root) (dotless : ∀ key ∈ keys, '.' ∉ key.toList)
    (filled : Text.allBlank (Text.joinWith "." keys) = false)
    (reached : Json.descend? keys root = some (.number found)) :
    extract body .json (Text.joinWith "." keys) = .ok (Text.trim found.write) := by
  have some_ : keys ≠ [] := by
    rintro rfl
    cases filled
  have shown : Extraction.nodeText (.number found) = found.write := String.ofList_toList
  simp only [extract, filled, Bool.false_eq_true, if_false, Extraction.alongPath, read,
    Text.splitAt_joinWith some_ dotless, reached, shown]
  rfl

/-- Where keys lead to a literal in a JSON body, the number of the literal is shown.

The decimal of a whole number of 64 bits is shown as it stands. Any other literal is read as a
floating-point number and written anew: never with a large mark, and never without a point or an
exponent, so a negative zero, more digits and a large mark do not come out as they went in. -/
theorem extract_number {body : String} {root : Json} {keys : List String} {literal : List Char}
    (read : Json.parse body = .ok root) (located : Json.LocatedAt keys body literal)
    (dotless : ∀ key ∈ keys, '.' ∉ key.toList)
    (filled : Text.allBlank (Text.joinWith "." keys) = false) :
    ∃ shown, extract body .json (Text.joinWith "." keys) = .ok shown ∧
      ((∃ value, Json.Plain literal value) → shown = .ofList literal) ∧
      ((¬ ∃ value, Json.Plain literal value) → ∃ value : Float,
        Json.parse (.ofList literal) = .ok (.number (.float value)) ∧
          shown = (Json.Number.float value).write ∧
          ('E' ∈ literal ∨ '.' ∉ literal ∧ 'e' ∉ literal → shown ≠ .ofList literal)) := by
  obtain ⟨found, alone, reached⟩ := located.parse read
  have number := located.numberText
  refine ⟨_, extract_descended read dotless filled reached, ?_, ?_⟩
  · rintro ⟨value, plain⟩
    cases plain.parse.symm.trans alone
    rw [plain.2, String.ofList_toList]
    exact Extraction.trim_integer value
  · -- A literal that is read as a whole number is the decimal of one.
    intro other
    cases found with
    | integer value => exact absurd ⟨value, (Json.parse_integer_iff number).mp alone⟩ other
    | float value =>
      refine ⟨value, alone, Decimal.trim_write_float value, fun marks => ?_⟩
      rw [Decimal.trim_write_float]
      exact Json.write_float_ne number marks value

/-- A whole number is shown as it stands, a negative zero is not, and keys lead through objects to both. -/
theorem extract_number_nested :
    (∃ root, Json.parse "\x7b\"a\":\x7b\"n\":-7\x7d\x7d" = .ok root) ∧
      Json.LocatedAt ["a", "n"] "\x7b\"a\":\x7b\"n\":-7\x7d\x7d" "-7".toList ∧
      extract "\x7b\"a\":\x7b\"n\":-7\x7d\x7d" .json "a.n" = .ok "-7" ∧
      (∃ root, Json.parse "\x7b\"n\":-0\x7d" = .ok root) ∧ Json.LocatedAt ["n"] "\x7b\"n\":-0\x7d" "-0".toList ∧
      ∃ shown, extract "\x7b\"n\":-0\x7d" .json "n" = .ok shown ∧ shown ≠ "-0" := by
  have seven : Json.LocatedAt ["a", "n"] "\x7b\"a\":\x7b\"n\":-7\x7d\x7d" "-7".toList :=
    (((Json.LeadsTo.here (Json.numberText_int (-7))).only "n").only "a").locatedAt
  have readSeven : (Json.parse "\x7b\"a\":\x7b\"n\":-7\x7d\x7d").toOption.isSome = true := by decide +kernel
  obtain ⟨root, read⟩ := Option.isSome_iff_exists.mp readSeven
  rw [toOption_eq_some_iff] at read
  obtain ⟨rootZero, alsoRead⟩ := Json.parse_negativeZero
  obtain ⟨shown, found, kept, -⟩ := extract_number read seven (by decide) (by decide)
  obtain ⟨shownZero, foundZero, -, changed⟩ :=
    extract_number alsoRead Json.locatedAt_negativeZero (by decide) (by decide)
  obtain ⟨-, -, -, differs⟩ := changed Json.not_plain_negativeZero
  have plain : Json.Plain "-7".toList (-7) := ⟨⟨by decide, by decide⟩, rfl⟩
  have path : Text.joinWith "." ["a", "n"] = "a.n" := by decide
  have pathZero : Text.joinWith "." ["n"] = "n" := by decide
  rw [kept ⟨_, plain⟩, String.ofList_toList, path] at found
  rw [pathZero] at foundZero
  have other := differs (.inr (by decide))
  rw [String.ofList_toList] at other
  exact ⟨⟨root, read⟩, seven, found, ⟨rootZero, alsoRead⟩, Json.locatedAt_negativeZero, shownZero, foundZero,
    other⟩

/-- A negative zero is shown in another spelling than the one that stands in the body. -/
theorem extract_number_respelled :
    Json.LocatedAt ["n"] "\x7b\"n\":-0\x7d" "-0".toList ∧
      ∃ shown, extract "\x7b\"n\":-0\x7d" .json "n" = .ok shown ∧ shown ≠ "-0" := by
  have zero := Json.locatedAt_negativeZero
  obtain ⟨root, read⟩ := Json.parse_negativeZero
  obtain ⟨found, alone, reached⟩ := zero.parse read
  have shown := extract_descended read (by decide) (by decide) reached
  have path : Text.joinWith "." ["n"] = "n" := by decide
  rw [path] at shown
  refine ⟨zero, _, shown, ?_⟩
  cases found with
  | integer value =>
    exact absurd ⟨value, (Json.parse_integer_iff zero.numberText).mp alone⟩ Json.not_plain_negativeZero
  | float value =>
    rw [Decimal.trim_write_float]
    exact Json.write_float_ne zero.numberText (.inr (by decide)) value

end Placard

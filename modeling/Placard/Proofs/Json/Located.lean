import Placard.Proofs.Json.Literals
import Placard.Proofs.Json.Sound

/-! Literals of numbers in JSON texts: where keys lead to one, its number is found. -/

namespace Placard.Json

/-- A key of an object with what leads from the member before it to its value. -/
def KeyText (first : Bool) (key : String) (text : List Char) : Prop :=
  ∃ before after name between gap, Gap before ∧ Gap after ∧ StringText key name ∧ Gap between ∧ Gap gap ∧
    text = before ++ (comma first ++ after ++ name ++ between ++ ':' :: gap)

/-- Keys lead through the objects of a text to a literal of a number, each by the last member with the key. -/
inductive LeadsTo : List String → List Char → List Char → Prop
  | here {literal : List Char} (shown : NumberText literal) : LeadsTo [] literal literal
  | member {key : String} {keys : List String} {before after : List (String × Json)}
      {front lead inner back gap literal : List Char} (earlier : WrittenMembers true before front)
      (keyed : KeyText before.isEmpty key lead) (others : LeadsTo keys inner literal)
      (later : WrittenMembers false after back) (last : key ∉ after.map (·.1)) (blank : Gap gap) :
      LeadsTo (key :: keys) ('{' :: (front ++ (lead ++ (inner ++ (back ++ (gap ++ ['}'])))))) literal

/-- Keys lead to a literal in a whole text, with nothing but gaps around the outermost object. -/
def LocatedAt (keys : List String) (text : String) (literal : List Char) : Prop :=
  ∃ before inner after, Gap before ∧ LeadsTo keys inner literal ∧ Gap after ∧
    text.toList = before ++ (inner ++ after)

/-- Where keys lead, a literal of a number stands. -/
theorem LeadsTo.numberText {keys : List String} {text literal : List Char}
    (leads : LeadsTo keys text literal) : NumberText literal := by
  induction leads with
  | here shown => exact shown
  | member _ _ _ _ _ _ ih => exact ih

/-- Where keys lead in a whole text, a literal of a number stands. -/
theorem LocatedAt.numberText {keys : List String} {text : String} {literal : List Char}
    (located : LocatedAt keys text literal) : NumberText literal := by
  obtain ⟨before, inner, after, -, leads, -⟩ := located
  exact leads.numberText

variable {first : Bool} {key : String} {fuel depth : Nat} {held members : List (String × Json)}
  {lead tail rest : List Char}

/-- The members of an object are a key with its value, and the others behind them. -/
theorem writtenMembers_cons {value : Json} {others : List (String × Json)} {text : List Char} :
    WrittenMembers first ((key, value) :: others) text ↔ ∃ lead written more, KeyText first key lead ∧
      Written value written ∧ WrittenMembers false others more ∧ text = lead ++ (written ++ more) := by
  rw [WrittenMembers]
  constructor
  · rintro ⟨before, after, name, between, gap, written, more, blank, blankAfter, named, blankBetween, blankGap,
      own, later, rfl⟩
    exact ⟨_, written, more, ⟨before, after, name, between, gap, blank, blankAfter, named, blankBetween,
      blankGap, rfl⟩, own, later, by simp⟩
  · rintro ⟨_, written, more, ⟨before, after, name, between, gap, blank, blankAfter, named, blankBetween,
      blankGap, rfl⟩, own, later, rfl⟩
    exact ⟨before, after, name, between, gap, written, more, blank, blankAfter, named, blankBetween, blankGap,
      own, later, by simp⟩

/-- A key, and the comma in front of it, continue no number. -/
theorem KeyText.ended (keyed : KeyText first key lead) (tail : List Char) : Ended (lead ++ tail) := by
  obtain ⟨before, after, name, between, gap, blank, blankAfter, ⟨spelled, -, rfl⟩, -, -, rfl⟩ := keyed
  have quoted (rest : List Char) : Ended ('"' :: rest) := by
    rintro _ ⟨rfl⟩
    decide
  simp only [List.append_assoc]
  refine Ended.gap blank ?_
  cases first with
  | true => exact Ended.gap (show Gap (comma true) from gap_nil) (Ended.gap blankAfter (quoted _))
  | false => exact ended_mark (.inl rfl) _

/-! ### Where a reader stands behind a value -/

/-- Where members are read on, what is left of the text continues no number. -/
theorem readMembers_ended (read : readMembers fuel depth false held tail = .ok (members, rest)) :
    Ended tail := by
  cases fuel with
  | zero =>
    rw [readMembers] at read
    cases read
  | succ fuel =>
    rw [readMembers] at read
    obtain ⟨⟨more, behind⟩, next, -⟩ := bind_eq_ok_iff.mp read
    cases more with
    | true =>
      obtain ⟨before, after, blank, -, rfl⟩ := nextKey_more next
      simp only [List.append_assoc]
      exact Ended.gap blank (ended_mark (.inl rfl) _)
    | false =>
      obtain ⟨gap, blank, rfl⟩ := nextKey_last next
      exact Ended.gap blank (ended_mark (.inr (.inr rfl)) _)

/-- A reader stands behind the value that was written, if neither way anything continues a number. -/
theorem readValue_rest {shown value : Json} {written after : List Char} (own : Written shown written)
    (ended : Ended rest) (read : readValue fuel depth (written ++ rest) = .ok (value, after))
    (endedAfter : Ended after) : after = rest := by
  -- Whatever the reader took for the value is passed over, as the written value is.
  obtain ⟨gap, other, letters, blank, otherOwn, same⟩ := (read_sound fuel).1 read
  have passed := skipValue_written own gap_nil (Nat.le_add_right _ letters.length) ended
  have alsoPassed := skipValue_written otherOwn blank (Nat.le_add_left _ written.length) endedAfter
  rw [← List.append_assoc gap, ← same] at alsoPassed
  exact Except.ok.inj (alsoPassed.symm.trans passed)

/-- Behind the mark of an object its members are read. -/
theorem readValue_object {value : Json}
    (read : readValue (fuel + 1) depth ('{' :: tail) = .ok (value, rest)) :
    ∃ members, value = .object members ∧ readMembers fuel (depth - 1) true [] tail = .ok (members, rest) := by
  have same : readValue (fuel + 1) depth ('{' :: tail) =
      if depth ≤ 1 then .error (.on .tooDeep ('{' :: tail))
      else (readMembers fuel (depth - 1) true [] tail).map fun found => (.object found.1, found.2) := by
    rw [readValue, skipSpace_solid (solid_cons rfl)]
    rfl
  rw [same] at read
  split at read
  · cases read
  · obtain ⟨⟨members, after⟩, inside, made⟩ := map_eq_ok_iff.mp read
    cases made
    exact ⟨members, rfl, inside⟩

/-- Where an object ends, the members that were held are read. -/
theorem readMembers_end {gap : List Char} (blank : Gap gap) {left : List Char}
    (read : readMembers fuel depth first held (gap ++ '}' :: rest) = .ok (members, left)) :
    members = held ∧ left = rest := by
  cases fuel with
  | zero =>
    rw [readMembers] at read
    cases read
  | succ fuel =>
    rw [readMembers, nextKey_end first blank] at read
    cases read
    exact ⟨rfl, rfl⟩

/-- Behind a key its value is read, and then the other members, into those with this one. -/
theorem readMembers_key (keyed : KeyText first key lead)
    (read : readMembers fuel depth first held (lead ++ tail) = .ok (members, rest)) :
    ∃ less value after, readValue (less + 1) depth tail = .ok (value, after) ∧
      readMembers (less + 1) depth false (insertSorted key value held) after = .ok (members, rest) := by
  obtain ⟨before, after, name, between, gap, blank, blankAfter, named, blankBetween, blankGap, rfl⟩ := keyed
  obtain ⟨marked, next, keyed⟩ := nextKey_written first blank blankAfter named between gap [] tail
  rw [List.append_nil] at next
  cases fuel with
  | zero =>
    rw [readMembers] at read
    cases read
  | succ fuel =>
    rw [readMembers, next, ok_bind] at read
    simp only [keyed, ok_bind, readColon_gap blankBetween, List.nil_append, String.ofList_toList] at read
    obtain ⟨⟨value, left⟩, own, others⟩ := bind_eq_ok_iff.mp read
    cases fuel with
    | zero =>
      rw [readValue] at own
      cases own
    | succ fuel =>
      rw [readValue_gap blankGap] at own
      exact ⟨fuel, value, left, own, others⟩

/-- Members that are written are read, and change what is found under their own keys only. -/
theorem readMembers_front {before : List (String × Json)} {front : List Char}
    (written : WrittenMembers first before front) (ended : Ended tail)
    (read : readMembers fuel depth first held (front ++ tail) = .ok (members, rest)) :
    ∃ less filed, readMembers less depth (first && before.isEmpty) filed tail = .ok (members, rest) ∧
      ∀ key ∉ before.map (·.1), member? key filed = member? key held := by
  induction before generalizing first front fuel held with
  | nil =>
    rw [WrittenMembers] at written
    subst written
    exact ⟨fuel, held, by simpa using read, fun _ _ => rfl⟩
  | cons member others ih =>
    obtain ⟨name, value⟩ := member
    obtain ⟨lead, own, more, keyed, writes, later, rfl⟩ := writtenMembers_cons.mp written
    simp only [List.append_assoc] at read
    obtain ⟨less, found, after, valued, further⟩ := readMembers_key keyed read
    -- The value ends where it does in the text, so reading goes on with the other members.
    have same := readValue_rest writes (later.ended ended) valued (readMembers_ended further)
    subst same
    obtain ⟨least, filed, goes, kept⟩ := ih later further
    refine ⟨least, filed, by simpa using goes, fun key absent => ?_⟩
    rw [List.map_cons, List.mem_cons, not_or] at absent
    rw [kept key absent.2, member?_insertSorted, if_neg (Ne.symm absent.1)]

/-! ### The number at the end of the keys -/

/-- Where keys lead to a literal, they lead through the value that is read to the number of the literal. -/
theorem LeadsTo.read {keys : List String} {text literal : List Char} (leads : LeadsTo keys text literal)
    {fuel depth : Nat} {rest after : List Char} {value : Json} (ended : Ended rest)
    (read : readValue (fuel + 1) depth (text ++ rest) = .ok (value, after)) :
    after = rest ∧ ∃ found, Json.parse (.ofList literal) = .ok (.number found) ∧
      descend? keys value = some (.number found) := by
  induction leads generalizing fuel depth rest after value with
  | here shown =>
    obtain ⟨same, found, rfl, alone⟩ := readValue_literal shown ended read
    exact ⟨same, found, alone, rfl⟩
  | @member key keys before behind front lead inner back gap literal earlier keyed others later last blank ih =>
    rw [List.cons_append] at read
    obtain ⟨members, rfl, inside⟩ := readValue_object read
    simp only [List.append_assoc, List.singleton_append] at inside
    have closes : Ended (gap ++ '}' :: rest) := Ended.gap blank (ended_mark (.inr (.inr rfl)) rest)
    obtain ⟨less, filed, entry, -⟩ := readMembers_front earlier (keyed.ended _) inside
    obtain ⟨least, found, left, valued, further⟩ := readMembers_key keyed entry
    obtain ⟨rfl, number, alone, reached⟩ := ih (later.ended closes) valued
    -- The later members have other keys, so the value is still found under its own.
    obtain ⟨few, kept, ends, unchanged⟩ := readMembers_front later closes further
    obtain ⟨rfl, rfl⟩ := readMembers_end blank ends
    refine ⟨rfl, number, alone, ?_⟩
    rw [descend?, unchanged key last, member?_insertSorted, if_pos rfl]
    exact reached

/-- In a body that is read, keys that lead to a literal lead to its number. -/
theorem LocatedAt.parse {keys : List String} {text : String} {literal : List Char}
    (located : LocatedAt keys text literal) {root : Json} (read : Json.parse text = .ok root) :
    ∃ found, Json.parse (.ofList literal) = .ok (.number found) ∧
      descend? keys root = some (.number found) := by
  obtain ⟨before, inner, after, blank, leads, blankAfter, same⟩ := located
  rw [Json.parse, ofChars?, same, readValue_gap blank] at read
  obtain ⟨⟨value, left⟩, valued, ends⟩ := bind_eq_ok_iff.mp read
  have ended : Ended after := by
    have closes := Ended.gap blankAfter ended_nil
    rwa [List.append_nil] at closes
  obtain ⟨rfl, found, alone, reached⟩ := leads.read ended valued
  rw [readEnd_gap blankAfter] at ends
  cases ends
  exact ⟨found, alone, reached⟩

end Placard.Json

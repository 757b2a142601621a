import Placard.Pattern.Search

/-! What patterns match: the spans of a text, told without a machine. -/

namespace Placard.Pattern

/-- The character in front of a place of a text. -/
def charBefore? (text : List Char) : Nat → Option Char
  | 0 => none
  | place + 1 => text[place]?

/-- A number of rounds, one behind the other, with what they note; the latest notes come first. -/
inductive Rounds (round : Nat → Nat → Notes → Prop) : Nat → Nat → Nat → Notes → Prop
  | none (place : Nat) : Rounds round 0 place place []
  | next {count start middle stop : Nat} {earlier later : Notes} (first : round start middle earlier)
      (others : Rounds round count middle stop later) :
      Rounds round (count + 1) start stop (later ++ earlier)

/-- A pattern matches a text from one place to another, and its groups note where they open and close. -/
def Spans (text : List Char) : Pattern → Nat → Nat → Notes → Prop
  -- Places count characters; the slots of a group are twice its number and the one behind.
  | .nothing, start, stop, notes => stop = start ∧ notes = []
  | .one set, start, stop, notes =>
    (∃ c, text[start]? = some c ∧ set.contains c = true) ∧ stop = start + 1 ∧ notes = []
  | .look condition, start, stop, notes =>
    condition.holds (charBefore? text start) text[start]? = true ∧ stop = start ∧ notes = []
  | .sequence first second, start, stop, notes => ∃ middle earlier later,
    Spans text first start middle earlier ∧ Spans text second middle stop later ∧
      notes = later ++ earlier
  | .either first second, start, stop, notes =>
    Spans text first start stop notes ∨ Spans text second start stop notes
  | .repeated low high _ inner, start, stop, notes =>
    -- At least the lower number of rounds is made, even where the upper one is smaller.
    ∃ count, low ≤ count ∧ (∀ most, high = some most → count ≤ max low most) ∧
      Rounds (Spans text inner) count start stop notes
  | .group index inner, start, stop, notes => ∃ within, Spans text inner start stop within ∧
    notes = (2 * index + 1, stop) :: (within ++ [(2 * index, start)])

/-- A pattern matches somewhere from a place of a text on. -/
def MatchesAt (pattern : Pattern) (text : List Char) (start : Nat) : Prop :=
  start ≤ text.length ∧ ∃ stop notes, Spans text pattern start stop notes

section

variable {round : Nat → Nat → Notes → Prop}

/-- One round is a number of rounds. -/
theorem Rounds.one {start stop : Nat} {notes : Notes} (made : round start stop notes) :
    Rounds round 1 start stop notes := by
  have only := Rounds.next made (.none stop)
  rwa [List.nil_append] at only

/-- Rounds go on with further rounds. -/
theorem Rounds.append {count more start middle stop : Nat} {earlier later : Notes}
    (first : Rounds round count start middle earlier) (others : Rounds round more middle stop later) :
    Rounds round (count + more) start stop (later ++ earlier) := by
  induction first with
  | none place => simpa using others
  | next made _ ih =>
    have further := Rounds.next made (ih others)
    rwa [List.append_assoc, Nat.add_right_comm] at further

/-- Rounds are parted after any number of them. -/
theorem Rounds.parted {count more start stop : Nat} {notes : Notes}
    (made : Rounds round (count + more) start stop notes) :
    ∃ middle earlier later, Rounds round count start middle earlier ∧
      Rounds round more middle stop later ∧ notes = later ++ earlier := by
  induction count generalizing start notes with
  | zero =>
    rw [Nat.zero_add] at made
    exact ⟨start, [], notes, .none start, made, (List.append_nil notes).symm⟩
  | succ count ih =>
    rw [Nat.add_right_comm] at made
    cases made with
    | next first others =>
      obtain ⟨middle, earlier, later, rounds, rest, rfl⟩ := ih others
      exact ⟨middle, _, later, .next first rounds, rest, List.append_assoc _ _ _⟩

/-- Rounds that each end inside a text end inside it, and behind their start. -/
theorem Rounds.inside {size count start stop : Nat} {notes : Notes}
    (made : Rounds round count start stop notes)
    (each : ∀ {start stop notes}, round start stop notes → start ≤ size → start ≤ stop ∧ stop ≤ size)
    (begins : start ≤ size) : start ≤ stop ∧ stop ≤ size := by
  induction made with
  | none place => exact ⟨Nat.le_refl place, begins⟩
  | next first _ ih =>
    obtain ⟨onward, within⟩ := each first begins
    exact ⟨Nat.le_trans onward (ih within).1, (ih within).2⟩

end

/-- A match ends inside the text, and not before its start. -/
theorem Spans.inside {text : List Char} {pattern : Pattern} {start stop : Nat} {notes : Notes}
    (spans : pattern.Spans text start stop notes) (begins : start ≤ text.length) :
    start ≤ stop ∧ stop ≤ text.length := by
  induction pattern generalizing start stop notes with
  | nothing =>
    rw [spans.1]
    exact ⟨Nat.le_refl start, begins⟩
  | one set =>
    obtain ⟨⟨c, found, -⟩, rfl, -⟩ := spans
    obtain ⟨within, -⟩ := List.getElem?_eq_some_iff.mp found
    exact ⟨Nat.le_succ start, within⟩
  | look condition =>
    rw [spans.2.1]
    exact ⟨Nat.le_refl start, begins⟩
  | sequence first second ihFirst ihSecond =>
    obtain ⟨middle, earlier, later, before, behind, -⟩ := spans
    obtain ⟨onward, within⟩ := ihFirst before begins
    obtain ⟨further, inside⟩ := ihSecond behind within
    exact ⟨Nat.le_trans onward further, inside⟩
  | either first second ihFirst ihSecond =>
    rcases spans with left | right
    · exact ihFirst left begins
    · exact ihSecond right begins
  | repeated low high greedy inner ih =>
    obtain ⟨count, -, -, rounds⟩ := spans
    exact rounds.inside (fun made => ih made) begins
  | group index inner ih =>
    obtain ⟨within, spans, -⟩ := spans
    exact ih spans begins

/-! ### What a group notes -/

/-- A group notes nothing, or where it opens and closes last, between two places. -/
def Noted (notes : Notes) (index start stop : Nat) : Prop :=
  (notes.lookup (2 * index) = none ∧ notes.lookup (2 * index + 1) = none) ∨
  ∃ opening closing, notes.lookup (2 * index) = some opening ∧
    notes.lookup (2 * index + 1) = some closing ∧ start ≤ opening ∧ opening ≤ closing ∧ closing ≤ stop

section

variable {index start middle stop : Nat} {earlier later notes : Notes}

/-- Without notes no group is noted. -/
theorem noted_nil (index start stop : Nat) : Noted [] index start stop :=
  .inl ⟨rfl, rfl⟩

/-- What a group notes later counts, else what it noted earlier. -/
theorem Noted.append (first : Noted earlier index start middle) (second : Noted later index middle stop)
    (onward : start ≤ middle) (further : middle ≤ stop) : Noted (later ++ earlier) index start stop := by
  rcases second with ⟨unopened, unclosed⟩ | ⟨opening, closing, opened, closed, low, between, high⟩
  · rcases first with ⟨never, ever⟩ | ⟨opening, closing, opened, closed, low, between, high⟩
    · exact .inl ⟨by simp [List.lookup_append, unopened, never], by simp [List.lookup_append, unclosed, ever]⟩
    · exact .inr ⟨opening, closing, by simp [List.lookup_append, unopened, opened],
        by simp [List.lookup_append, unclosed, closed], low, between, Nat.le_trans high further⟩
  · exact .inr ⟨opening, closing, by simp [List.lookup_append, opened],
      by simp [List.lookup_append, closed], Nat.le_trans onward low, between, high⟩

/-- A group notes where it opens and closes, around what is noted inside it. -/
theorem Noted.enclosed {other : Nat} (inside : Noted notes index start stop) (onward : start ≤ stop) :
    Noted ((2 * other + 1, stop) :: (notes ++ [(2 * other, start)])) index start stop := by
  -- The slot of an opening is even, that of a closing is odd, and no two groups share one.
  have opens : (2 * index + 1 == 2 * other) = false := beq_eq_false_iff_ne.mpr (by omega)
  have closes : (2 * index == 2 * other + 1) = false := beq_eq_false_iff_ne.mpr (by omega)
  by_cases same : index = other
  · subst same
    -- The closing is noted last of all, the opening first, so that one inside counts in its stead.
    rcases inside with ⟨unopened, -⟩ | ⟨opening, closing, opened, -, low, between, high⟩
    · refine .inr ⟨start, stop, ?_, ?_, Nat.le_refl _, onward, Nat.le_refl _⟩
      · simp [List.lookup_cons, List.lookup_append, closes, unopened]
      · exact List.lookup_cons_self
    · refine .inr ⟨opening, stop, ?_, ?_, low, Nat.le_trans between high, Nat.le_refl _⟩
      · simp [List.lookup_cons, List.lookup_append, closes, opened]
      · exact List.lookup_cons_self
  · have apart : (2 * index + 1 == 2 * other + 1) = false := beq_eq_false_iff_ne.mpr (by omega)
    have aside : (2 * index == 2 * other) = false := beq_eq_false_iff_ne.mpr (by omega)
    have outside : ∀ slot, (slot == 2 * other) = false → (slot == 2 * other + 1) = false →
        ((2 * other + 1, stop) :: (notes ++ [(2 * other, start)])).lookup slot = notes.lookup slot := by
      intro slot front back
      simp [List.lookup_cons, List.lookup_append, front, back]
    rw [Noted, outside _ aside closes, outside _ opens apart]
    exact inside

/-- What rounds note of a group lies between their ends. -/
theorem Rounds.noted {round : Nat → Nat → Notes → Prop} {size count : Nat}
    (made : Rounds round count start stop notes)
    (inside : ∀ {start stop notes}, round start stop notes → start ≤ size → start ≤ stop ∧ stop ≤ size)
    (each : ∀ {start stop notes}, round start stop notes → start ≤ size → Noted notes index start stop)
    (begins : start ≤ size) : Noted notes index start stop := by
  induction made with
  | none place => exact noted_nil index place place
  | next first others ih =>
    obtain ⟨onward, within⟩ := inside first begins
    exact (each first begins).append (ih within) onward (others.inside inside within).1

end

/-- Of every group a match notes nothing, or where it opens and closes inside the match. -/
theorem Spans.noted {text : List Char} {pattern : Pattern} {start stop : Nat} {notes : Notes}
    (spans : pattern.Spans text start stop notes) (begins : start ≤ text.length) (index : Nat) :
    Noted notes index start stop := by
  induction pattern generalizing start stop notes with
  | nothing => exact spans.2 ▸ noted_nil index start stop
  | one set => exact spans.2.2 ▸ noted_nil index start stop
  | look condition => exact spans.2.2 ▸ noted_nil index start stop
  | sequence first second ihFirst ihSecond =>
    obtain ⟨middle, earlier, later, before, behind, rfl⟩ := spans
    obtain ⟨onward, within⟩ := before.inside begins
    exact (ihFirst before begins).append (ihSecond behind within) onward (behind.inside within).1
  | either first second ihFirst ihSecond =>
    rcases spans with left | right
    · exact ihFirst left begins
    · exact ihSecond right begins
  | repeated low high greedy inner ih =>
    obtain ⟨count, -, -, rounds⟩ := spans
    exact rounds.noted Spans.inside ih begins
  | group other inner ih =>
    obtain ⟨within, spans, rfl⟩ := spans
    exact (ih spans begins).enclosed (spans.inside begins).1

end Placard.Pattern

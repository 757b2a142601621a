import Placard.Text.Blank
import Mathlib.Data.List.DropRight
import Mathlib.Data.List.TakeWhile

/-! Trimming takes the blanks off the end of a text, and nothing else. -/

namespace Placard.Text

/-- A text is another one without the blanks at its end. -/
def TrimsTo (whole trimmed : List Char) : Prop :=
  -- What is missing is blank, and what is left does not end in a blank.
  (∃ blanks, whole = trimmed ++ blanks ∧ ∀ c ∈ blanks, isBlank c = true) ∧
    ∀ c, trimmed.getLast? = some c → isBlank c = false

/-- Cutting blanks off the end leaves the text without exactly those. -/
theorem trimsTo_cutBlanks (text : List Char) : TrimsTo text (cutBlanks text) := by
  -- Read backwards, the blanks at the end are the longest blank beginning.
  have split := List.takeWhile_append_dropWhile (p := isBlank) (l := text.reverse)
  refine ⟨⟨(text.reverse.takeWhile isBlank).reverse, ?_, fun c member => ?_⟩, fun c last => ?_⟩
  · rw [cutBlanks, ← List.reverse_append, split, List.reverse_reverse]
  · exact List.mem_takeWhile_imp (List.mem_reverse.mp member)
  · rw [cutBlanks, List.getLast?_reverse] at last
    have kept := List.head?_dropWhile_not isBlank text.reverse
    rw [last] at kept
    simpa using kept

/-- A blank at the end is cut off behind a character that stays. -/
theorem cutBlanks_cons {c : Char} (solid : isBlank c = false) (rest : List Char) :
    cutBlanks (c :: rest) = c :: cutBlanks rest := by
  -- Read backwards, the character that stays ends the run of blanks at the latest.
  rw [cutBlanks, List.reverse_cons, List.dropWhile_append]
  split
  · rename_i blank
    rw [List.isEmpty_iff] at blank
    rw [List.dropWhile_cons_of_neg (by simp [solid]), cutBlanks, blank]
    rfl
  · rw [List.reverse_concat, cutBlanks]

/-- Blanks at the end are cut off behind characters that stay. -/
theorem cutBlanks_append {front : List Char} (solid : ∀ c ∈ front, isBlank c = false)
    (rest : List Char) : cutBlanks (front ++ rest) = front ++ cutBlanks rest := by
  induction front with
  | nil => rfl
  | cons c front ih =>
    rw [List.cons_append, cutBlanks_cons (solid c List.mem_cons_self),
      ih fun c member => solid c (List.mem_cons_of_mem _ member), List.cons_append]

/-- Behind leading blanks a text begins with another character, if it goes on. -/
theorem dropBlanks_head {text rest : List Char} {c : Char} (start : dropBlanks text = c :: rest) :
    isBlank c = false := by
  have first := List.head?_dropWhile_not isBlank text
  rw [dropBlanks] at start
  simpa [start] using first

/-- What follows blanks stays as it is when blanks are dropped. -/
theorem dropBlanks_cons {c : Char} (solid : isBlank c = false) (rest : List Char) :
    dropBlanks (c :: rest) = c :: rest := by
  rw [dropBlanks, List.dropWhile_cons_of_neg (by simp [solid])]

/-- Blanks that were cut off are not cut off again. -/
theorem cutBlanks_cutBlanks (text : List Char) : cutBlanks (cutBlanks text) = cutBlanks text := by
  rw [cutBlanks, cutBlanks, List.reverse_reverse, List.dropWhile_idempotent]

/-- Blanks are dropped and cut off at the ends only. -/
theorem inner_infix (text : List Char) : inner text <:+: text := by
  have front : cutBlanks (dropBlanks text) <+: dropBlanks text :=
    List.reverse_suffix.mp (by
      rw [cutBlanks, List.reverse_reverse]
      exact List.dropWhile_suffix isBlank)
  exact front.isInfix.trans (List.dropWhile_suffix isBlank).isInfix

/-- A character that is not blank stands between the blanks at the ends. -/
theorem mem_inner {text : List Char} {c : Char} (member : c ∈ text) (solid : isBlank c = false) :
    c ∈ inner text := by
  have front := List.takeWhile_append_dropWhile (p := isBlank) (l := text)
  obtain ⟨blanks, back, blank⟩ := (trimsTo_cutBlanks (dropBlanks text)).1
  -- The text is blanks, what is between, and blanks, and the character is none of the blanks.
  rw [← front, List.mem_append] at member
  have kept : c ∈ dropBlanks text := by
    refine member.resolve_left fun early => ?_
    simp [List.mem_takeWhile_imp early] at solid
  rw [back, List.mem_append] at kept
  refine kept.resolve_right fun late => ?_
  simp [blank c late] at solid

/-- A text without blanks at its ends has none to lose. -/
theorem inner_inner (text : List Char) : inner (inner text) = inner text := by
  rw [inner, inner]
  cases start : dropBlanks text with
  | nil => rfl
  | cons c rest =>
    have solid := dropBlanks_head start
    rw [cutBlanks_cons solid, dropBlanks_cons solid, ← cutBlanks_cons solid, cutBlanks_cutBlanks]

/-- A digit is no blank. -/
theorem isBlank_of_isDigit {c : Char} (digit : c.isDigit = true) : isBlank c = false := by
  simp only [Char.isDigit, Bool.and_eq_true, decide_eq_true_eq, ge_iff_le, UInt32.le_iff_toNat_le] at digit
  have low : '0'.val.toNat = 48 := rfl
  have high : '9'.val.toNat = 57 := rfl
  have code : c.val.toNat = c.toNat := rfl
  simp only [isBlank, Bool.or_eq_false_iff, Bool.and_eq_false_iff, decide_eq_false_iff_not,
    beq_eq_false_iff_ne]
  omega

/-- A text that begins and ends with no blank is the same when it is trimmed. -/
theorem trim_solid {text : String} (begins : ∀ c, text.toList.head? = some c → isBlank c = false)
    (ends : ∀ c, text.toList.getLast? = some c → isBlank c = false) : trim text = text := by
  have front : dropBlanks text.toList = text.toList := by
    cases letters : text.toList with
    | nil => rfl
    | cons c rest => exact dropBlanks_cons (begins c (by rw [letters]; rfl)) rest
  have back : cutBlanks text.toList = text.toList := by
    rw [← List.head?_reverse] at ends
    cases letters : text.toList.reverse with
    | nil => simp [cutBlanks, List.reverse_eq_nil_iff.mp letters]
    | cons c rest =>
      rw [cutBlanks, letters, List.dropWhile_cons_of_neg (by simp [ends c (by rw [letters]; rfl)]),
        ← letters, List.reverse_reverse]
  rw [trim, inner, front, back, String.ofList_toList]

/-- A text without blanks is the same when it is trimmed. -/
theorem trim_of_forall {text : String} (solid : ∀ c ∈ text.toList, isBlank c = false) :
    trim text = text :=
  trim_solid (fun c front => solid c (List.mem_of_mem_head? front))
    (fun c back => solid c (List.mem_of_getLast? back))

end Placard.Text

import Placard.Json.Writer
import Placard.Proofs.Decimal.Numeral
import Placard.Proofs.Text.Blank

/-! Floating-point numbers in JSON text: they are written with a point or an exponent. -/

namespace Placard.Decimal

/-- A character that may stand in a number with a point or an exponent. -/
def Marking (c : Char) : Prop :=
  c.isDigit = true ∨ c = '.' ∨ c = 'e' ∨ c = '-' ∨ c = '+'

/-- A text of a number has a point, or an exponent with a small mark. -/
structure Marked (text : List Char) : Prop where
  each : ∀ c ∈ text, Marking c
  some_ : '.' ∈ text ∨ 'e' ∈ text

/-- In front of a marked text other characters of a number may stand. -/
theorem Marked.before {text front : List Char} (marked : Marked text) (all : ∀ c ∈ front, Marking c) :
    Marked (front ++ text) where
  each c among := (List.mem_append.mp among).elim (all c) (marked.each c)
  some_ := marked.some_.imp (List.mem_append_right front) (List.mem_append_right front)

/-- A mark with other characters of a number behind it makes a marked text. -/
theorem marked_cons {mark : Char} (is_ : mark = '.' ∨ mark = 'e') {text : List Char}
    (all : ∀ c ∈ text, Marking c) : Marked (mark :: text) where
  each := List.forall_mem_cons.mpr ⟨.inr (is_.imp_right .inl), all⟩
  some_ := by
    rcases is_ with rfl | rfl
    · exact .inl List.mem_cons_self
    · exact .inr List.mem_cons_self

/-- Digits may stand in a marked text. -/
theorem marking_digits {digits : List Char} (all : ∀ c ∈ digits, c.isDigit = true) :
    ∀ c ∈ digits, Marking c :=
  fun c among => .inl (all c among)

/-- Digits around a point make a marked text. -/
theorem positionalText_marked {digits : List Char} (all : ∀ c ∈ digits, c.isDigit = true) (point : Int) :
    Marked (positionalText json digits point).toList := by
  have keeps : (if json.keepsPoint then ".0" else "") = ".0" := rfl
  have zeros_ (count : Nat) := marking_digits (@isDigit_of_mem_zeros count)
  have lone : ∀ c ∈ ['0'], c.isDigit = true := @isDigit_of_mem_zeros 1
  unfold positionalText
  simp only [keeps]
  split
  · -- All digits stand behind the point.
    have same : ("0." ++ zeros (-point).toNat ++ String.ofList digits).toList =
        ['0'] ++ '.' :: (List.replicate (-point).toNat '0' ++ digits) := by simp [zeros]
    rw [same]
    exact (marked_cons (.inl rfl) (List.forall_mem_append.mpr ⟨zeros_ _, marking_digits all⟩)).before
      (marking_digits lone)
  split
  · -- All digits stand before the point.
    have same : (String.ofList digits ++ zeros (point.toNat - digits.length) ++ ".0").toList =
        (digits ++ List.replicate (point.toNat - digits.length) '0') ++ ['.', '0'] := by simp [zeros]
    rw [same]
    exact (marked_cons (.inl rfl) (marking_digits lone)).before
      (List.forall_mem_append.mpr ⟨marking_digits all, zeros_ _⟩)
  · -- The point stands between two digits.
    have same : (String.ofList (digits.take point.toNat) ++ "." ++ String.ofList (digits.drop point.toNat)).toList =
        digits.take point.toNat ++ '.' :: digits.drop point.toNat := by simp
    rw [same]
    exact (marked_cons (.inl rfl) (marking_digits fun c among => all c (List.mem_of_mem_drop among))).before
      (marking_digits fun c among => all c (List.mem_of_mem_take among))

/-- Digits with an exponent make a marked text. -/
theorem scientificText_marked {digits : List Char} (all : ∀ c ∈ digits, c.isDigit = true) (point : Int) :
    Marked (scientificText json digits point).toList := by
  have first : ∀ c ∈ digits.take 1, Marking c := fun c among => .inl (all c (List.mem_of_mem_take among))
  have others : ∀ c ∈ digits.drop 1, Marking c := fun c among => .inl (all c (List.mem_of_mem_drop among))
  have size := marking_digits (isNumeral_toDigits (point - 1).natAbs).2
  -- The fraction may be missing, and the exponent has a sign.
  obtain ⟨fraction, split_, shown⟩ : ∃ fraction : List Char, (if digits.length ≤ 1 then ""
      else "." ++ String.ofList (digits.drop 1)).toList = fraction ∧ ∀ c ∈ fraction, Marking c := by
    refine ⟨_, rfl, ?_⟩
    split
    · simp
    · have parted : ("." ++ String.ofList (digits.drop 1)).toList = '.' :: digits.drop 1 := by simp
      rw [parted]
      exact List.forall_mem_cons.mpr ⟨.inr (.inl rfl), others⟩
  obtain ⟨sign, marked, signed⟩ : ∃ sign, (if point - 1 < 0 then "e-" else if json.signsExponent then "e+"
      else "e").toList = ['e', sign] ∧ Marking sign := by
    split
    · exact ⟨'-', rfl, .inr (.inr (.inr (.inl rfl)))⟩
    · exact ⟨'+', rfl, .inr (.inr (.inr (.inr rfl)))⟩
  unfold scientificText
  simp only [String.toList_append, String.toList_ofList, split_, marked]
  have written : (toString (point - 1).natAbs).toList = Nat.toDigits 10 (point - 1).natAbs := Nat.toList_repr
  rw [written, List.append_assoc, List.append_assoc]
  exact ((marked_cons (.inr rfl) (List.forall_mem_cons.mpr ⟨signed, size⟩)).before shown).before first

/-- The size of a floating-point number makes a marked text. -/
theorem magnitudeText_marked (value : Float) : Marked (magnitudeText json value).toList := by
  have digits := (isNumeral_toDigits (magnitude value).shortest.digits).2
  unfold magnitudeText
  split
  · exact (marked_cons (.inl rfl) (marking_digits (@isDigit_of_mem_zeros 1))).before
      (marking_digits (@isDigit_of_mem_zeros 1))
  · simp only [json]
    split
    · exact positionalText_marked digits _
    · exact scientificText_marked digits _

/-- A floating-point number is written as null in JSON text, or with a point or an exponent. -/
theorem write_float (value : Float) :
    (Json.Number.float value).write = "null" ∨ Marked (Json.Number.float value).write.toList := by
  rw [Json.Number.write]
  split
  · exact .inl rfl
  · rename_i finite
    rw [Bool.or_eq_true, not_or, Bool.not_eq_true, Bool.not_eq_true] at finite
    -- A finite number is its size behind a sign.
    have written : json.write value = (if isNegative value then "-" else "") ++ magnitudeText json value := by
      rw [Layout.write, finite.1, finite.2]
      rfl
    rw [written, String.toList_append]
    refine .inr ((magnitudeText_marked value).before ?_)
    split
    · exact List.forall_mem_cons.mpr ⟨.inr (.inr (.inr (.inl rfl))), by simp⟩
    · simp

/-- What may stand in the text of a number is no blank. -/
theorem Marking.isBlank {c : Char} (marking : Marking c) : Text.isBlank c = false := by
  rcases marking with digit | rfl | rfl | rfl | rfl
  · exact Text.isBlank_of_isDigit digit
  all_goals rfl

/-- A floating-point number is written without blanks. -/
theorem trim_write_float (value : Float) :
    Text.trim (Json.Number.float value).write = (Json.Number.float value).write := by
  rcases write_float value with null | marked
  · rw [null]
    decide
  · exact Text.trim_of_forall fun c among => (marked.each c among).isBlank

end Placard.Decimal

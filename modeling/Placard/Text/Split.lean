/-! Cutting a text at separators, and looking for one text inside another. -/

namespace Placard.Text

/-- The pieces of a text between the characters that satisfy a test, the empty ones included. -/
def pieces (isSeparator : Char → Bool) : List Char → List (List Char)
  | [] => [[]]
  | c :: rest =>
    -- A separator closes the piece before it; any other character joins the piece after it.
    if isSeparator c then [] :: pieces isSeparator rest
    else match pieces isSeparator rest with
      | [] => [[c]]
      | piece :: others => (c :: piece) :: others

/-- The pieces of a text between the occurrences of one character. -/
def splitAt (separator : Char) (text : String) : List String :=
  (pieces (· == separator) text.toList).map .ofList

/-- The rest of a text after a given beginning, if the text begins so. -/
def dropPrefix? : List Char → List Char → Option (List Char)
  | [], text => some text
  | _ :: _, [] => none
  | p :: beginning, c :: text => if p = c then dropPrefix? beginning text else none

/-- A text starts with a beginning exactly when something follows the beginning in it. -/
theorem dropPrefix?_eq_some_iff {beginning text rest : List Char} :
    dropPrefix? beginning text = some rest ↔ text = beginning ++ rest := by
  -- Both sides peel one character of the beginning at a time.
  induction beginning generalizing text with
  | nil => simp [dropPrefix?, eq_comm]
  | cons p beginning ih =>
    cases text with
    | nil => simp [dropPrefix?]
    | cons c text =>
      by_cases same : p = c
      · simp [dropPrefix?, same, ih]
      · simp [dropPrefix?, same, Ne.symm same]

/-- A text contains another when the other begins at one of its positions. -/
def contains (part : List Char) : List Char → Bool
  | [] => part.isEmpty
  | c :: rest => (dropPrefix? part (c :: rest)).isSome || contains part rest

/-- A text contains exactly the texts that stand between two parts of it. -/
theorem contains_iff {part text : List Char} :
    contains part text = true ↔ ∃ before after, text = before ++ part ++ after := by
  -- Either the part begins here, or it lies wholly in the rest.
  induction text with
  | nil =>
    simp only [contains, List.isEmpty_iff]
    constructor
    · rintro rfl
      exact ⟨[], [], rfl⟩
    · rintro ⟨before, after, eq⟩
      have short := congrArg List.length eq
      simp only [List.length_nil, List.length_append] at short
      exact List.eq_nil_of_length_eq_zero (by omega)
  | cons c rest ih =>
    simp only [contains, Bool.or_eq_true, Option.isSome_iff_exists, dropPrefix?_eq_some_iff, ih]
    constructor
    · rintro (⟨after, eq⟩ | ⟨before, after, eq⟩)
      · exact ⟨[], after, eq⟩
      · exact ⟨c :: before, after, by simp [eq]⟩
    · rintro ⟨before, after, eq⟩
      cases before with
      | nil => exact .inl ⟨after, eq⟩
      | cons b before =>
        simp only [List.append_assoc, List.cons_append, List.cons.injEq] at eq
        exact .inr ⟨before, after, by simp [eq.2]⟩

/-- Texts joined with a separator between every two of them. -/
def joinWith (separator : String) : List String → String
  | [] => ""
  | [only] => only
  | first :: others => first ++ separator ++ joinWith separator others

/-- Equality of two texts up to the case of their ASCII letters. -/
def sameIgnoringCase (left right : List Char) : Bool :=
  left.map Char.toLower == right.map Char.toLower

/-- The lines of a text; the character that ends a line belongs to no line. -/
def lines (text : String) : List String :=
  match (pieces (· == '\n') text.toList).reverse with
  | [] :: others => (others.reverse).map .ofList
  | all => (all.reverse).map .ofList

end Placard.Text

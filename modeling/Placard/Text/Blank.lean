/-! Blank characters, and texts cut free of them at either end. -/

namespace Placard.Text

/-- A character is blank when Unicode gives it the property `White_Space`. -/
def isBlank (c : Char) : Bool :=
  -- Twenty-five characters in eleven runs; the zero-width marks are not among them.
  let code := c.toNat
  (9 ≤ code && code ≤ 13) || code == 0x20 || code == 0x85 || code == 0xA0 || code == 0x1680
    || (0x2000 ≤ code && code ≤ 0x200A) || code == 0x2028 || code == 0x2029
    || code == 0x202F || code == 0x205F || code == 0x3000

/-- Every character that is a separator of plain source text is blank. -/
theorem isBlank_of_isWhitespace {c : Char} (white : c.isWhitespace = true) : isBlank c = true := by
  -- The four characters of the smaller class are listed one by one.
  simp only [Char.isWhitespace, Bool.or_eq_true, decide_eq_true_eq] at white
  rcases white with ((rfl | rfl) | rfl) | rfl <;> decide

/-- The characters of a text after its leading blanks. -/
def dropBlanks (text : List Char) : List Char :=
  text.dropWhile isBlank

/-- The characters of a text before its trailing blanks. -/
def cutBlanks (text : List Char) : List Char :=
  -- Reading backwards turns the trailing run into a leading one.
  (text.reverse.dropWhile isBlank).reverse

/-- The characters of a text between its leading and its trailing blanks. -/
def inner (text : List Char) : List Char :=
  cutBlanks (dropBlanks text)

/-- A text without its leading and trailing blanks. -/
def trim (text : String) : String :=
  .ofList (inner text.toList)

/-- A text without its trailing blanks. -/
def trimEnd (text : String) : String :=
  .ofList (cutBlanks text.toList)

/-- A text is blank when it holds blanks only. -/
def allBlank (text : String) : Bool :=
  text.toList.all isBlank

end Placard.Text

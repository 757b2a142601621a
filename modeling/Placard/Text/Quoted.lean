import Placard.Unicode.Category
import Placard.Unicode.Property

/-! Texts in quotation marks, with every character that would not show escaped. -/

namespace Placard.Text

/-- The characters without a glyph of their own: controls, formats, unassigned ones and separators. -/
private def hidden : CharSet :=
  (Unicode.joined ["cc", "cf", "cs", "co", "cn", "zl", "zp", "zs"]).diff (.single 0x20)

/-- The characters that attach to the one before them. -/
private def attaching : CharSet :=
  (Unicode.property? "graphemeextend").getD .empty

/-- A character shows as itself when it has a glyph and stands alone. -/
def isShown (c : Char) : Bool :=
  -- Plain letters need no search through the tables.
  if 0x20 ≤ c.toNat && c.toNat < 0x7F then true
  else !hidden.contains c && !attaching.contains c

/-- A character inside quotation marks. -/
def quotedChar (c : Char) : String :=
  match c with
  | '\x00' => "\\0"
  | '\t' => "\\t"
  | '\n' => "\\n"
  | '\r' => "\\r"
  | '\\' => "\\\\"
  | '"' => "\\\""
  | _ =>
    if isShown c then String.singleton c
    else "\\u\x7b" ++ .ofList (Nat.toDigits 16 c.toNat) ++ "\x7d"

/-- A text in quotation marks. -/
def quoted (text : String) : String :=
  "\"" ++ String.join (text.toList.map quotedChar) ++ "\""

end Placard.Text

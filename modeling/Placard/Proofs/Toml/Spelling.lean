import Placard.Proofs.Except
import Placard.Toml.Quoted
import Placard.Toml.Writer

/-! Characters in basic TOML texts: every spelling that the writer chooses reads back as the character. -/

namespace Placard.Toml

/-- A character inside a basic text: as it is, or behind a backslash. -/
inductive SpellsChar : List Char → Char → Prop
  | plain {c : Char} (shown : inComment c = true) (unquoted : c ≠ '"') (unescaped : c ≠ '\\') :
      SpellsChar [c] c
  | escape {letter c : Char} {code : List Char}
      (solid : isGap letter = false ∧ letter ≠ '\n' ∧ letter ≠ '\r')
      (read : ∀ rest, readEscape (letter :: code ++ rest) = .ok (c, rest)) :
      SpellsChar ('\\' :: letter :: code) c

/-- A character put before what was read. -/
def consRead (c : Char) (read : Except Halt (List Char × List Char)) :
    Except Halt (List Char × List Char) :=
  read.map fun (more, final) => (c :: more, final)

/-- A character before a text that was read belongs to the text. -/
@[simp] theorem consRead_ok (c : Char) (text rest : List Char) :
    consRead c (.ok (text, rest)) = .ok (c :: text, rest) := rfl

/-- A reader that takes a character and then goes on puts the character before what follows. -/
theorem bind_consRead (c : Char) (read : Except Halt (List Char × List Char)) :
    (read >>= fun (more, final) => pure (c :: more, final)) = consRead c read := by
  cases read <;> rfl

/-! ### Controls -/

/-- A character is a control, a line end, or may stand in a text as it is. -/
theorem inComment_of_plain {c : Char} (plain : needsCode c = false) (within : c ≠ '\n') :
    inComment c = true := by
  -- Of the characters without a code, only the line end is not shown as it is.
  have different : c.toNat ≠ 10 := by
    intro same
    exact within (Char.toNat_inj.mp same)
  simp only [needsCode, Bool.or_eq_false_iff, Bool.and_eq_false_iff, decide_eq_false_iff_not,
    bne_eq_false_iff_eq, beq_eq_false_iff_ne] at plain
  simp only [inComment, Bool.or_eq_true, Bool.and_eq_true, beq_iff_eq, decide_eq_true_eq, bne_iff_ne]
  obtain ⟨low | tab, high⟩ := plain
  · rcases low with low | tab
    · exact .inr ⟨by omega, high⟩
    · exact .inl tab
  · exact absurd tab within

/-- What may stand in a text as it is ends no line. -/
theorem newline?_of_inComment {c : Char} (shown : inComment c = true) (rest : List Char) :
    newline? (c :: rest) = none := by
  -- Both characters that begin a line end are controls, and so is neither of these.
  have notLine : c ≠ '\n' := by
    rintro rfl
    cases shown
  have notReturn : c ≠ '\r' := by
    rintro rfl
    cases shown
  unfold newline?
  split
  · rename_i same
    cases same
    exact absurd rfl notLine
  · rename_i same
    cases same
    exact absurd rfl notReturn
  · rfl

/-- The digits that the writer uses have their values. -/
theorem hexValue?_hexDigit {value : Nat} (small : value < 16) : hexValue? (hexDigit value) = some value := by
  -- There are only sixteen digits to try.
  have each : ∀ value, value < 16 → hexValue? (hexDigit value) = some value := by decide
  exact each value small

/-- A control is read from the two digits of its code. -/
theorem readEscape_code {c : Char} (small : c.toNat < 0x80) (rest : List Char) :
    readEscape ('u' :: ['0', '0', hexDigit (c.toNat / 16), hexDigit (c.toNat % 16)] ++ rest) =
      .ok (c, rest) := by
  -- Two zeros come first, and the other two digits are those of the code in base sixteen.
  have high := hexValue?_hexDigit (show c.toNat / 16 < 16 by omega)
  have low := hexValue?_hexDigit (show c.toNat % 16 < 16 by omega)
  have zero : hexValue? '0' = some 0 := rfl
  have whole : (0 * 16 + 0) * 16 + c.toNat / 16 = c.toNat / 16 := by omega
  have code : c.toNat / 16 * 16 + c.toNat % 16 = c.toNat := by omega
  have valid : c.toNat.isValidChar := c.valid
  show readCode 4 _ = _
  simp [readCode, zero, high, low, code, valid, Char.ofNat_toNat]

/-! ### What the writer spells -/

/-- Marks stay as they are over several lines, unless two of them stand just before. -/
theorem escapeBasic_mark {marks : Nat} (few : marks < 2) (rest : List Char) :
    escapeBasic true marks ('"' :: rest) = '"' :: escapeBasic true (marks + 1) rest := by
  rw [escapeBasic]
  simp [few]

/-- Line ends stay as they are over several lines. -/
theorem escapeBasic_newline (marks : Nat) (rest : List Char) :
    escapeBasic true marks ('\n' :: rest) = '\n' :: escapeBasic true 0 rest := by
  rw [escapeBasic]
  rfl

/-- Every character that does not stay as it is gets a spelling of its own. -/
theorem escapeBasic_char {severalLines : Bool} {marks : Nat} {c : Char}
    (marked : c = '"' → (severalLines && decide (marks < 2)) = false)
    (within : c = '\n' → severalLines = false) :
    ∃ written, SpellsChar written c ∧ ∀ rest,
      escapeBasic severalLines marks (c :: rest) = written ++ escapeBasic severalLines 0 rest := by
  -- Seven characters have a letter of their own, and controls have a code.
  by_cases quote : c = '"'
  · subst quote
    refine ⟨['\\', '"'], .escape (by decide) (fun _ => rfl), fun rest => ?_⟩
    rw [escapeBasic, marked rfl]
    rfl
  by_cases backslash : c = '\\'
  · subst backslash
    exact ⟨['\\', '\\'], .escape (by decide) (fun _ => rfl), fun _ => rfl⟩
  by_cases back : c = '\x08'
  · subst back
    exact ⟨['\\', 'b'], .escape (by decide) (fun _ => rfl), fun _ => rfl⟩
  by_cases tab : c = '\t'
  · subst tab
    exact ⟨['\\', 't'], .escape (by decide) (fun _ => rfl), fun _ => rfl⟩
  by_cases feed : c = '\x0c'
  · subst feed
    exact ⟨['\\', 'f'], .escape (by decide) (fun _ => rfl), fun _ => rfl⟩
  by_cases carriage : c = '\r'
  · subst carriage
    exact ⟨['\\', 'r'], .escape (by decide) (fun _ => rfl), fun _ => rfl⟩
  by_cases line : c = '\n'
  · subst line
    refine ⟨['\\', 'n'], .escape (by decide) (fun _ => rfl), fun rest => ?_⟩
    rw [escapeBasic, within rfl]
    rfl
  -- What is left is none of the seven, so only its code matters.
  have other : ∀ rest, escapeBasic severalLines marks (c :: rest) =
      if needsCode c then
        ['\\', 'u', '0', '0', hexDigit (c.toNat / 16), hexDigit (c.toNat % 16)] ++
          escapeBasic severalLines 0 rest
      else c :: escapeBasic severalLines 0 rest := by
    intro rest
    rw [escapeBasic] <;> assumption
  by_cases control : needsCode c = true
  · refine ⟨'\\' :: 'u' :: ['0', '0', hexDigit (c.toNat / 16), hexDigit (c.toNat % 16)],
      .escape (by decide) (readEscape_code ?_), fun rest => ?_⟩
    · simp only [needsCode, Bool.or_eq_true, Bool.and_eq_true, decide_eq_true_eq, beq_iff_eq] at control
      omega
    · rw [other, if_pos control]
  · refine ⟨[c], .plain (inComment_of_plain (by simpa using control) line) quote backslash,
      fun rest => ?_⟩
    rw [other, if_neg control, List.singleton_append]

end Placard.Toml

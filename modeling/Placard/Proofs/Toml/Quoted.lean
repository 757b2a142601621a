import Placard.Proofs.Toml.Spelling

/-! Quoted TOML texts: whichever form the writer chooses for a text, the text is read from it. -/

namespace Placard.Toml

/-! ### Texts on one line -/

/-- One character is taken off the front of a basic text, however it is spelled. -/
theorem readBasic_char {written : List Char} {c : Char} (char : SpellsChar written c) (fuel : Nat)
    (rest : List Char) : readBasic (fuel + 1) (written ++ rest) = consRead c (readBasic fuel rest) := by
  -- The reader tells a spelling by its first character: a backslash, or the character itself.
  cases char with
  | plain shown unquoted unescaped =>
    rw [List.singleton_append, readBasic, if_pos shown]
    · exact bind_consRead c _
    · exact unquoted
    · exact fun same => absurd same unescaped
  | @escape letter _ code solid read =>
    show readBasic (fuel + 1) ('\\' :: (letter :: code ++ rest)) = _
    have some_ : letter :: code ++ rest ≠ [] := List.cons_ne_nil _ _
    rw [readBasic]
    · rw [read rest, ok_bind]
      exact bind_consRead c _
    · exact some_

/-- A basic text that the writer made is read up to its closing mark. -/
theorem readBasic_escapeBasic {fuel : Nat} {letters : List Char} (room : letters.length ≤ fuel)
    (marks : Nat) (rest : List Char) :
    readBasic fuel (escapeBasic false marks letters ++ '"' :: rest) = .ok (letters, rest) := by
  -- Each character of the text takes one unit of fuel.
  induction letters generalizing fuel marks with
  | nil =>
    show readBasic fuel ('"' :: rest) = _
    rw [readBasic]
  | cons c letters ih =>
    obtain ⟨fuel, rfl⟩ : ∃ less, fuel = less + 1 := ⟨fuel - 1, by simp at room; omega⟩
    have single : (false && decide (marks < 2)) = false := rfl
    obtain ⟨written, char, spelled⟩ := escapeBasic_char (fun _ : c = '"' => single) (fun _ => rfl)
    rw [spelled, List.append_assoc, readBasic_char char, ih (by simpa using room), consRead_ok]

/-- A literal text is read up to its closing mark. -/
theorem readLiteral_append {letters : List Char}
    (plain : ∀ c ∈ letters, c ≠ '\'' ∧ inComment c = true) (rest : List Char) :
    readLiteral (letters ++ '\'' :: rest) = .ok (letters, rest) := by
  -- The closing mark is the first character that the reader does not take.
  have inner : (letters ++ '\'' :: rest).takeWhile (fun c => c != '\'' && inComment c) = letters := by
    rw [List.takeWhile_append_of_pos]
    · simp
    · intro c member
      obtain ⟨unquoted, shown⟩ := plain c member
      simp [unquoted, shown]
  rw [readLiteral, inner]
  simp

/-! ### Texts of several lines -/

/-- What is written for a text of several lines: its characters, and one or two marks in a row. -/
inductive SpellsLines (mark : Char) (spells : List Char → Char → Prop) :
    List Char → List Char → Prop
  | done : SpellsLines mark spells [] []
  | next {written rest text : List Char} {c : Char} (char : spells written c)
      (others : SpellsLines mark spells rest text) :
      SpellsLines mark spells (written ++ rest) (c :: text)
  | marks {rest text : List Char} (count : Nat) (few : count = 1 ∨ count = 2)
      (apart : rest.head? ≠ some mark) (others : SpellsLines mark spells rest text) :
      SpellsLines mark spells (List.replicate count mark ++ rest) (List.replicate count mark ++ text)

/-- A run of marks ends at the first character that is none. -/
theorem takeWhile_marks {mark : Char} (count : Nat) {rest : List Char} (apart : rest.head? ≠ some mark) :
    (List.replicate count mark ++ rest).takeWhile (· == mark) = List.replicate count mark := by
  rw [List.takeWhile_append_of_pos]
  · cases rest with
    | nil => simp
    | cons c others =>
      have different : (c == mark) = false := by simpa using apart
      simp [different]
  · intro c member
    rw [List.eq_of_mem_replicate member]
    exact beq_self_eq_true mark

/-- Marks close a text when three of them come in a row, and up to two before them belong to it. -/
theorem readMarks_close (escapes : Bool) {mark : Char} {count : Nat} (few : count ≤ 2)
    {rest : List Char} (apart : rest.head? ≠ some mark)
    (read : List Char → Except Halt (List Char × List Char)) :
    readMarks escapes mark (List.replicate (count + 3) mark ++ rest) read =
      .ok (List.replicate count mark, rest) := by
  rw [readMarks, takeWhile_marks _ apart, List.length_replicate, if_neg (by omega)]
  have extra : min (count + 3 - 3) 2 = count := by omega
  rw [extra]
  simp

/-- Fewer marks in a row belong to a text that goes on behind them. -/
theorem readMarks_open {escapes : Bool} {mark : Char} {count : Nat} (few : count < 3)
    {rest : List Char} (apart : rest.head? ≠ some mark) (solid : goesOn escapes rest = true)
    (read : List Char → Except Halt (List Char × List Char)) :
    readMarks escapes mark (List.replicate count mark ++ rest) read =
      (read rest).map fun (more, final) => (List.replicate count mark ++ more, final) := by
  rw [readMarks, takeWhile_marks _ apart, List.length_replicate, if_pos few]
  simp only [List.drop_append, List.length_replicate, List.drop_replicate, Nat.sub_self,
    List.replicate_zero, List.nil_append, List.drop_zero, solid, if_true]
  cases read rest <;> rfl

section Lines

/-! A reader of several lines takes characters one by one, and marks by the run. -/

variable {mark : Char} {escapes : Bool} {spells : List Char → Char → Prop}
  {read : Nat → List Char → Except Halt (List Char × List Char)}
  (char : ∀ {written c}, spells written c → ∀ fuel rest,
    read (fuel + 1) (written ++ rest) = consRead c (read fuel rest))
  (run : ∀ fuel rest, read (fuel + 1) (mark :: rest) = readMarks escapes mark (mark :: rest) (read fuel))
  (starts : ∀ {written c}, spells written c →
    (∃ first others, written = first :: others ∧ first ≠ mark) ∧
      ∀ next rest, goesOn escapes (written ++ next :: rest) = true)

include starts in
/-- Nothing is written only for the empty text. -/
theorem SpellsLines.eq_nil {text : List Char} (spelled : SpellsLines mark spells [] text) :
    text = [] := by
  generalize nothing : ([] : List Char) = written at spelled
  cases spelled with
  | done => rfl
  | next char others =>
    obtain ⟨⟨first, others, rfl, -⟩, -⟩ := starts char
    cases nothing
  | marks count few apart others =>
    rcases few with rfl | rfl <;> cases nothing

include starts in
/-- What is written for a text that does not begin with marks lets the reader go on. -/
theorem SpellsLines.leads {written text : List Char} (spelled : SpellsLines mark spells written text)
    (apart : written.head? ≠ some mark) (some_ : written ≠ []) (next : Char) (rest : List Char) :
    goesOn escapes (written ++ next :: rest) = true := by
  -- The text begins with a character or with marks, and the marks are ruled out.
  cases spelled with
  | done => exact absurd rfl some_
  | @next first others _ c char spelled =>
    rw [List.append_assoc]
    cases others with
    | nil => exact (starts char).2 next rest
    | cons second others => exact (starts char).2 second (others ++ next :: rest)
  | marks count few apart' others =>
    rcases few with rfl | rfl <;> exact absurd rfl apart

include char run starts in
/-- A text of several lines is read up to its closing marks. -/
theorem SpellsLines.reads {written text : List Char} (spelled : SpellsLines mark spells written text)
    {fuel : Nat} (room : text.length < fuel) {rest : List Char} (apart : rest.head? ≠ some mark) :
    read fuel (written ++ mark :: mark :: mark :: rest) = .ok (text, rest) := by
  -- The induction is on how the text was written; each character and each run takes one unit of fuel.
  induction spelled generalizing fuel with
  | done =>
    obtain ⟨fuel, rfl⟩ : ∃ less, fuel = less + 1 := ⟨fuel - 1, by omega⟩
    rw [List.nil_append, run]
    exact readMarks_close escapes (Nat.zero_le 2) apart _
  | next first others ih =>
    obtain ⟨fuel, rfl⟩ : ∃ less, fuel = less + 1 := ⟨fuel - 1, by omega⟩
    rw [List.append_assoc, char first, ih (by simpa using room), consRead_ok]
  | @marks rest' text' count few apart' others ih =>
    obtain ⟨fuel, rfl⟩ : ∃ less, fuel = less + 1 := ⟨fuel - 1, by omega⟩
    -- The run of marks is read as a whole, whatever stands behind it.
    have begun : ∀ behind, read (fuel + 1) (List.replicate count mark ++ behind) =
        readMarks escapes mark (List.replicate count mark ++ behind) (read fuel) := by
      intro behind
      rcases few with rfl | rfl <;> exact run fuel _
    rw [List.append_assoc, begun]
    cases rest' with
    | nil =>
      -- The marks stand just before the closing ones, and are counted together with them.
      have ended : text' = [] := SpellsLines.eq_nil starts others
      have together : List.replicate count mark ++ ([] ++ mark :: mark :: mark :: rest) =
          List.replicate (count + 3) mark ++ rest := by
        rw [← List.replicate_append_replicate, List.append_assoc]
        rfl
      rw [together, readMarks_close escapes (by omega) apart, ended, List.append_nil]
    | cons first behind =>
      have solid : goesOn escapes (first :: behind ++ mark :: mark :: mark :: rest) = true :=
        others.leads starts apart' (List.cons_ne_nil _ _) mark _
      have smaller : text'.length < fuel := by
        rw [List.length_append, List.length_replicate] at room
        omega
      have behindRun : (first :: behind ++ mark :: mark :: mark :: rest).head? ≠ some mark := apart'
      have small : count < 3 := by omega
      rw [readMarks_open small behindRun solid, ih smaller]
      rfl

end Lines

/-! ### Basic texts of several lines -/

/-- A character of a basic text of several lines; a line end stays as it is. -/
def SpellsLineChar (written : List Char) (c : Char) : Prop :=
  SpellsChar written c ∨ (written = ['\n'] ∧ c = '\n')

/-- One character is taken off the front of a basic text of several lines. -/
theorem readBasicLines_char {written : List Char} {c : Char} (char : SpellsLineChar written c)
    (fuel : Nat) (rest : List Char) :
    readBasicLines (fuel + 1) (written ++ rest) = consRead c (readBasicLines fuel rest) := by
  rcases char with char | ⟨rfl, rfl⟩
  · cases char with
    | plain shown unquoted unescaped =>
      rw [List.singleton_append, readBasicLines]
      · rw [newline?_of_inComment shown]
        simp only [shown, if_true]
        exact bind_consRead c _
      · exact fun same => absurd same unescaped
      · exact unquoted
    | @escape letter _ code solid read =>
      -- The letter behind the backslash is no blank and ends no line.
      have here : skipGaps (letter :: code ++ rest) = letter :: (code ++ rest) := by
        rw [List.cons_append, skipGaps, List.dropWhile_cons_of_neg (by simp [solid.1])]
      have solidLine : newline? (letter :: (code ++ rest)) = none := by
        unfold newline?
        split
        · rename_i same
          exact absurd (List.cons.inj same).1 solid.2.1
        · rename_i same
          exact absurd (List.cons.inj same).1 solid.2.2
        · rfl
      have some_ : letter :: code ++ rest ≠ [] := List.cons_ne_nil _ _
      show readBasicLines (fuel + 1) ('\\' :: (letter :: code ++ rest)) = _
      rw [readBasicLines, here, solidLine]
      show (readEscape (letter :: code ++ rest) >>= _) = _
      rw [read rest, ok_bind]
      · exact bind_consRead c _
      · exact some_
  · show readBasicLines (fuel + 1) ('\n' :: rest) = _
    rw [readBasicLines]
    · exact bind_consRead '\n' _
    · decide
    · decide

/-- A run of marks in a basic text of several lines is read as a whole. -/
theorem readBasicLines_marks (fuel : Nat) (rest : List Char) :
    readBasicLines (fuel + 1) ('"' :: rest) = readMarks true '"' ('"' :: rest) (readBasicLines fuel) := by
  rw [readBasicLines]

/-- A character of a basic text begins with no mark, and the text goes on with it. -/
theorem SpellsLineChar.starts {written : List Char} {c : Char} (char : SpellsLineChar written c) :
    (∃ first others, written = first :: others ∧ first ≠ '"') ∧
      ∀ next rest, goesOn true (written ++ next :: rest) = true := by
  rcases char with char | ⟨rfl, rfl⟩
  · cases char with
    | plain shown unquoted unescaped =>
      refine ⟨⟨c, [], rfl, unquoted⟩, fun next rest => ?_⟩
      rw [List.singleton_append, goesOn, shown, Bool.true_or]
      exact fun _ same => by cases same
    | escape solid read => exact ⟨⟨'\\', _, rfl, by decide⟩, fun _ _ => rfl⟩
  · exact ⟨⟨'\n', [], rfl, by decide⟩, fun _ _ => rfl⟩

/-- What is written behind two marks, or for a text without marks in front, begins with no mark. -/
theorem escapeBasic_head {marks : Nat} {letters : List Char}
    (few : marks = 2 ∨ letters.head? ≠ some '"') :
    (escapeBasic true marks letters).head? ≠ some '"' := by
  cases letters with
  | nil => simp [escapeBasic]
  | cons c letters =>
    by_cases line : c = '\n'
    · rw [line, escapeBasic_newline]
      simp
    have escaped : c = '"' → (true && decide (marks < 2)) = false := by
      rintro rfl
      rcases few with rfl | other
      · rfl
      · exact absurd rfl other
    obtain ⟨written, char, spelled⟩ := escapeBasic_char escaped (fun same => absurd same line)
    obtain ⟨⟨first, others, rfl, unmarked⟩, -⟩ := SpellsLineChar.starts (.inl char)
    rw [spelled]
    simpa using unmarked

/-- The writer spells a text of several lines, with at most two bare marks in a row. -/
theorem escapeBasic_spells (marks : Nat) (letters : List Char)
    (few : marks = 0 ∨ marks = 2 ∨ letters.head? ≠ some '"') :
    SpellsLines '"' SpellsLineChar (escapeBasic true marks letters) letters := by
  -- A run of bare marks is taken together with what follows it, so the length has to go down.
  induction size : letters.length using Nat.strongRecOn generalizing marks letters with
  | _ size ih =>
    cases letters with
    | nil =>
      rw [escapeBasic]
      exact .done
    | cons c letters =>
      rw [List.length_cons] at size
      by_cases line : c = '\n'
      · subst line
        rw [escapeBasic_newline]
        exact .next (.inr ⟨rfl, rfl⟩) (ih letters.length (by omega) 0 letters (.inl rfl) rfl)
      by_cases bare : c = '"' ∧ marks = 0
      · obtain ⟨rfl, rfl⟩ := bare
        rw [escapeBasic_mark (by decide)]
        cases letters with
        | nil =>
          rw [escapeBasic]
          exact .marks 1 (.inl rfl) (by simp) .done
        | cons second letters =>
          rw [List.length_cons] at size
          by_cases again : second = '"'
          · subst again
            rw [escapeBasic_mark (by decide)]
            exact .marks 2 (.inr rfl) (escapeBasic_head (.inl rfl))
              (ih letters.length (by omega) 2 letters (.inr (.inl rfl)) rfl)
          · have other : (second :: letters).head? ≠ some '"' := by simpa using again
            exact .marks 1 (.inl rfl) (escapeBasic_head (.inr other))
              (ih (second :: letters).length (by simp; omega) 1 _ (.inr (.inr other)) rfl)
      · have escaped : c = '"' → (true && decide (marks < 2)) = false := by
          rintro rfl
          rcases few with rfl | rfl | other
          · exact absurd ⟨rfl, rfl⟩ bare
          · rfl
          · exact absurd rfl other
        obtain ⟨written, char, spelled⟩ := escapeBasic_char escaped (fun same => absurd same line)
        rw [spelled]
        exact .next (.inl char) (ih letters.length (by omega) 0 letters (.inl rfl) rfl)

/-! ### Literal texts of several lines -/

/-- A character of a literal text of several lines stays as it is. -/
def SpellsLiteralChar (written : List Char) (c : Char) : Prop :=
  written = [c] ∧ c ≠ '\'' ∧ (inComment c = true ∨ c = '\n')

/-- One character is taken off the front of a literal text of several lines. -/
theorem readLiteralLines_char {written : List Char} {c : Char} (char : SpellsLiteralChar written c)
    (fuel : Nat) (rest : List Char) :
    readLiteralLines (fuel + 1) (written ++ rest) = consRead c (readLiteralLines fuel rest) := by
  -- A line end is the only control that stands in a literal text.
  obtain ⟨rfl, unquoted, shown | rfl⟩ := char
  · rw [List.singleton_append, readLiteralLines]
    · rw [newline?_of_inComment shown]
      simp only [shown, if_true]
      exact bind_consRead c _
    · exact unquoted
  · show readLiteralLines (fuel + 1) ('\n' :: rest) = _
    rw [readLiteralLines]
    · exact bind_consRead '\n' _
    · decide

/-- A run of marks in a literal text of several lines is read as a whole. -/
theorem readLiteralLines_marks (fuel : Nat) (rest : List Char) :
    readLiteralLines (fuel + 1) ('\'' :: rest) =
      readMarks false '\'' ('\'' :: rest) (readLiteralLines fuel) := by
  rw [readLiteralLines]

/-- A character of a literal text is no mark, and the text goes on with it. -/
theorem SpellsLiteralChar.starts {written : List Char} {c : Char} (char : SpellsLiteralChar written c) :
    (∃ first others, written = first :: others ∧ first ≠ '\'') ∧
      ∀ next rest, goesOn false (written ++ next :: rest) = true := by
  obtain ⟨rfl, unquoted, shown | rfl⟩ := char
  · refine ⟨⟨c, [], rfl, unquoted⟩, fun next rest => ?_⟩
    rw [List.singleton_append, goesOn, shown, Bool.true_or]
    exact fun _ same => by cases same
  · exact ⟨⟨'\n', [], rfl, by decide⟩, fun _ _ => rfl⟩

/-! ### Runs of marks -/

/-- A run that has begun is no longer than the longest one. -/
theorem le_longestRun (mark : Char) (run : Nat) (letters : List Char) :
    run ≤ longestRun mark run letters := by
  induction letters generalizing run with
  | nil => exact Nat.le_refl run
  | cons c letters ih =>
    rw [longestRun]
    split
    · exact Nat.le_trans (Nat.le_succ run) (ih (run + 1))
    · exact Nat.le_max_left ..

/-- A mark makes the run that has begun longer. -/
theorem longestRun_mark (mark : Char) (run : Nat) (letters : List Char) :
    longestRun mark run (mark :: letters) = longestRun mark (run + 1) letters := by
  rw [longestRun, if_pos (beq_self_eq_true mark)]

/-- Another character ends the run. -/
theorem longestRun_other {mark c : Char} (other : c ≠ mark) (run : Nat) (letters : List Char) :
    longestRun mark run (c :: letters) = max run (longestRun mark 0 letters) := by
  rw [longestRun, if_neg (by simpa using other)]

/-- A text without a run of marks has no mark. -/
theorem ne_mark_of_longestRun {mark : Char} {letters : List Char}
    (none_ : longestRun mark 0 letters = 0) : ∀ c ∈ letters, c ≠ mark := by
  induction letters with
  | nil => simp
  | cons first letters ih =>
    -- A mark in front would be a run of at least one.
    have other : first ≠ mark := by
      rintro rfl
      have one := le_longestRun first (0 + 1) letters
      rw [longestRun_mark] at none_
      omega
    rw [longestRun_other other] at none_
    intro c member
    rcases List.mem_cons.mp member with rfl | later
    · exact other
    · exact ih (by omega) c later

/-- A text without controls, and with at most two marks in a row, is its own literal form. -/
theorem literal_spells (letters : List Char) (plain : ∀ c ∈ letters, needsCode c = false)
    (few : longestRun '\'' 0 letters ≤ 2) : SpellsLines '\'' SpellsLiteralChar letters letters := by
  -- As for basic texts, a run of marks is taken together with what follows it.
  induction size : letters.length using Nat.strongRecOn generalizing letters with
  | _ size ih =>
    cases letters with
    | nil => exact .done
    | cons c letters =>
      rw [List.length_cons] at size
      have later : ∀ c ∈ letters, needsCode c = false := fun c member =>
        plain c (List.mem_cons_of_mem _ member)
      by_cases quote : c = '\''
      · -- One mark or two: a third one in a row would make the run too long.
        subst quote
        rw [longestRun_mark] at few
        cases letters with
        | nil => exact .marks 1 (.inl rfl) (by simp) .done
        | cons second letters =>
          rw [List.length_cons] at size
          by_cases again : second = '\''
          · subst again
            rw [longestRun_mark] at few
            have apart : letters.head? ≠ some '\'' := by
              cases letters with
              | nil => simp
              | cons third letters =>
                rintro ⟨⟩
                have three := le_longestRun '\'' (0 + 1 + 1 + 1) letters
                rw [longestRun_mark] at few
                omega
            have rest : longestRun '\'' 0 letters ≤ 2 := by
              cases letters with
              | nil => exact Nat.zero_le 2
              | cons third letters =>
                have other : third ≠ '\'' := by simpa using apart
                rw [longestRun_other other] at few ⊢
                omega
            exact .marks 2 (.inr rfl) apart (ih letters.length (by omega) letters
              (fun c member => later c (List.mem_cons_of_mem _ member)) rest rfl)
          · have rest : longestRun '\'' 0 (second :: letters) ≤ 2 := by
              rw [longestRun_other again] at few ⊢
              omega
            exact .marks 1 (.inl rfl) (by simpa using again)
              (ih (second :: letters).length (by simp; omega) _ later rest rfl)
      · -- Every other character stands for itself.
        rw [longestRun_other quote] at few
        have shown : inComment c = true ∨ c = '\n' := by
          by_cases line : c = '\n'
          · exact .inr line
          · exact .inl (inComment_of_plain (plain c List.mem_cons_self) line)
        have others := ih letters.length (by omega) letters later (by omega) rfl
        exact .next ⟨rfl, quote, shown⟩ others

/-! ### Every form -/

/-- A written basic text is at least as long as the text. -/
theorem length_le_escapeBasic (severalLines : Bool) (marks : Nat) (letters : List Char) :
    letters.length ≤ (escapeBasic severalLines marks letters).length := by
  induction letters generalizing marks with
  | nil => exact Nat.zero_le _
  | cons c letters ih =>
    -- Marks and line ends may stay as they are over several lines, and all else has a spelling.
    by_cases bare : severalLines = true ∧ c = '"' ∧ marks < 2
    · obtain ⟨rfl, rfl, few⟩ := bare
      rw [escapeBasic_mark few]
      simpa using ih (marks + 1)
    by_cases line : severalLines = true ∧ c = '\n'
    · obtain ⟨rfl, rfl⟩ := line
      rw [escapeBasic_newline]
      simpa using ih 0
    have marked : c = '"' → (severalLines && decide (marks < 2)) = false := by
      intro quote
      simp only [Bool.and_eq_false_iff, decide_eq_false_iff_not]
      by_cases lines : severalLines = true
      · exact .inr fun few => bare ⟨lines, quote, few⟩
      · exact .inl (by simpa using lines)
    have within : c = '\n' → severalLines = false := by
      intro same
      simpa using fun lines => line ⟨lines, same⟩
    obtain ⟨written, char, spelled⟩ := escapeBasic_char marked within
    have long : 0 < written.length := by cases char <;> simp
    have more := ih 0
    rw [spelled, List.length_append, List.length_cons]
    omega

/-- A text without line ends does not begin with one when it is written over several lines. -/
theorem newline?_escapeBasic {letters : List Char} (within : '\n' ∉ letters) (marks : Nat)
    (rest : List Char) : newline? (escapeBasic true marks letters ++ '"' :: rest) = none := by
  -- The text begins with a mark, with a character as it is, or with a backslash; none ends a line.
  cases letters with
  | nil => rfl
  | cons c letters =>
    by_cases bare : c = '"' ∧ marks < 2
    · obtain ⟨rfl, few⟩ := bare
      rw [escapeBasic_mark few]
      rfl
    have escaped : c = '"' → (true && decide (marks < 2)) = false := by
      intro quote
      simpa using fun few => bare ⟨quote, few⟩
    have line : c = '\n' → true = false := by
      rintro rfl
      exact absurd List.mem_cons_self within
    obtain ⟨written, char, spelled⟩ := escapeBasic_char escaped line
    rw [spelled]
    cases char with
    | plain shown unquoted unescaped => exact newline?_of_inComment shown _
    | escape solid read => rfl

/-- A text that is written as it is over several lines begins with no line end unless it has one. -/
theorem newline?_literal {letters : List Char} (plain : ∀ c ∈ letters, needsCode c = false)
    (within : '\n' ∉ letters) (rest : List Char) : newline? (letters ++ '\'' :: rest) = none := by
  cases letters with
  | nil => rfl
  | cons c letters =>
    have line : c ≠ '\n' := by
      rintro rfl
      exact within List.mem_cons_self
    exact newline?_of_inComment (inComment_of_plain (plain c List.mem_cons_self) line) _

/-- The characters between the opening and the closing marks of a text of several lines. -/
def openLines (letters written : List Char) : List Char :=
  if letters.contains '\n' then '\n' :: written else written

/-- The line end behind the opening marks is dropped, and nothing else. -/
theorem dropFirstLineEnd_openLines {letters written rest : List Char}
    (solid : '\n' ∉ letters → newline? (written ++ rest) = none) :
    dropFirstLineEnd (openLines letters written ++ rest) = written ++ rest := by
  unfold openLines
  split
  · rfl
  · rename_i without
    rw [dropFirstLineEnd, solid (by simpa using without)]
    rfl

/-- The line end that may be put in front makes a text no shorter. -/
theorem length_le_openLines (letters written : List Char) :
    written.length ≤ (openLines letters written).length := by
  unfold openLines
  split
  · exact Nat.le_succ _
  · exact Nat.le_refl _

/-- A text in the basic form on one line is read up to its closing mark. -/
theorem readText_basic (letters rest : List Char) :
    readText ('"' :: (escapeBasic false 0 letters ++ '"' :: '\n' :: rest)) =
      .ok (letters, '\n' :: rest) := by
  have long : letters.length ≤ (escapeBasic false 0 letters ++ '"' :: '\n' :: rest).length := by
    have written := length_le_escapeBasic false 0 letters
    rw [List.length_append]
    omega
  have read := readBasic_escapeBasic long 0 ('\n' :: rest)
  -- No three marks stand in front: one opens the text, and what follows is a character or the end.
  cases letters with
  | nil => rfl
  | cons c letters =>
    obtain ⟨written, char, spelled⟩ := escapeBasic_char (fun _ : c = '"' => rfl) (fun _ => rfl)
    rw [spelled, List.append_assoc] at read ⊢
    cases char with
    | plain shown unquoted unescaped =>
      rw [List.singleton_append] at read ⊢
      rw [readText]
      · exact read
      · intro behind same
        exact absurd (List.cons.inj (List.cons.inj same).2).1 unquoted
      · intro behind same
        exact absurd (List.cons.inj same).1 (by decide)
    | escape solid code => exact read

/-- A text in the literal form on one line is read up to its closing mark. -/
theorem readText_literal {letters : List Char} (plain : ∀ c ∈ letters, c ≠ '\'' ∧ inComment c = true)
    (rest : List Char) : readText ('\'' :: (letters ++ '\'' :: '\n' :: rest)) =
      .ok (letters, '\n' :: rest) := by
  -- A mark behind the first one would open a text of several lines, but the text has no mark.
  have read := readLiteral_append plain ('\n' :: rest)
  cases letters with
  | nil => rfl
  | cons c letters =>
    have unquoted : c ≠ '\'' := (plain c List.mem_cons_self).1
    rw [readText]
    · exact read
    · intro behind same
      exact absurd (List.cons.inj same).1 (by decide)
    · intro behind same
      exact absurd (List.cons.inj (List.cons.inj same).2).1 unquoted

/-- A text in the basic form on several lines is read up to its closing marks. -/
theorem readText_basicLines (letters rest : List Char) :
    readText ('"' :: '"' :: '"' :: (openLines letters (escapeBasic true 0 letters) ++
      '"' :: '"' :: '"' :: '\n' :: rest)) = .ok (letters, '\n' :: rest) := by
  -- One unit of fuel for each character and one for the closing marks are enough.
  have room : letters.length < (openLines letters (escapeBasic true 0 letters) ++
      '"' :: '"' :: '"' :: '\n' :: rest).length + 1 := by
    have written := length_le_escapeBasic true 0 letters
    have opened := length_le_openLines letters (escapeBasic true 0 letters)
    rw [List.length_append]
    omega
  show readBasicLines _ (dropFirstLineEnd _) = _
  rw [dropFirstLineEnd_openLines fun within => newline?_escapeBasic within 0 _]
  exact SpellsLines.reads readBasicLines_char readBasicLines_marks SpellsLineChar.starts
    (escapeBasic_spells 0 letters (.inl rfl)) room (by simp)

/-- A text in the literal form on several lines is read up to its closing marks. -/
theorem readText_literalLines {letters : List Char} (plain : ∀ c ∈ letters, needsCode c = false)
    (few : longestRun '\'' 0 letters ≤ 2) (rest : List Char) :
    readText ('\'' :: '\'' :: '\'' :: (openLines letters letters ++
      '\'' :: '\'' :: '\'' :: '\n' :: rest)) = .ok (letters, '\n' :: rest) := by
  -- As for basic texts, the text is no longer than what stands between the marks.
  have room : letters.length < (openLines letters letters ++
      '\'' :: '\'' :: '\'' :: '\n' :: rest).length + 1 := by
    have opened := length_le_openLines letters letters
    rw [List.length_append]
    omega
  show readLiteralLines _ (dropFirstLineEnd _) = _
  rw [dropFirstLineEnd_openLines fun within => newline?_literal plain within _]
  exact SpellsLines.reads readLiteralLines_char readLiteralLines_marks SpellsLiteralChar.starts
    (literal_spells letters plain few) room (by simp)

/-- What the choice of a form tells about a text. -/
theorem Form.of_eq (letters : List Char) :
    Form.of letters = .basic ∨
    (Form.of letters = .literal ∧ (∀ c ∈ letters, needsCode c = false) ∧
      longestRun '\'' 0 letters = 0 ∧ '\n' ∉ letters) ∨
    Form.of letters = .basicLines ∨
    (Form.of letters = .literalLines ∧ (∀ c ∈ letters, needsCode c = false) ∧
      longestRun '\'' 0 letters ≤ 2) := by
  -- The cases follow the order in which the writer tries the forms.
  have uncoded : (!letters.any needsCode) = true → ∀ c ∈ letters, needsCode c = false := by
    simp
  unfold Form.of
  simp only []
  split
  · exact .inl rfl
  split
  · rename_i chosen
    simp only [Bool.and_eq_true, beq_iff_eq] at chosen
    obtain ⟨⟨coded, singles⟩, lines⟩ := chosen
    exact .inr (.inl ⟨rfl, uncoded coded, singles, by simpa using lines⟩)
  split
  · exact .inr (.inr (.inl rfl))
  split
  · rename_i chosen
    simp only [Bool.and_eq_true, decide_eq_true_eq] at chosen
    exact .inr (.inr (.inr ⟨rfl, uncoded chosen.1, chosen.2⟩))
  split
  · exact .inr (.inr (.inl rfl))
  · exact .inl rfl

/-- Whichever form the writer chooses, the reader finds the text, and what follows its line. -/
theorem readText_writeText (text : String) (rest : List Char) :
    readText ((writeText text).toList ++ '\n' :: rest) = .ok (text.toList, '\n' :: rest) := by
  -- The four forms are read by one lemma each; only a text with line ends gets one put in front.
  have opened (written : List Char) : openLines text.toList written =
      (if text.toList.contains '\n' then "\n" else "").toList ++ written := by
    unfold openLines
    split <;> rfl
  rcases Form.of_eq text.toList with form | ⟨form, plain, singles, within⟩ | form | ⟨form, plain, few⟩
  · have written := readText_basic text.toList rest
    simpa [writeText, form] using written
  · have shown : ∀ c ∈ text.toList, c ≠ '\'' ∧ inComment c = true := by
      intro c member
      have line : c ≠ '\n' := by
        rintro rfl
        exact within member
      exact ⟨ne_mark_of_longestRun singles c member, inComment_of_plain (plain c member) line⟩
    have written := readText_literal shown rest
    simpa [writeText, form] using written
  · have written := readText_basicLines text.toList rest
    rw [opened] at written
    simpa [writeText, form] using written
  · have written := readText_literalLines plain few rest
    rw [opened] at written
    simpa [writeText, form] using written

end Placard.Toml

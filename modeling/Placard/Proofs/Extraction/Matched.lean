import Placard.Extraction
import Placard.Proofs.Pattern.Leftmost
import Placard.Proofs.Text.Blank

/-! Values taken out of bodies of text: a part of the leftmost match of a pattern. -/

namespace Placard

/-- The pattern that a text means. -/
def Pattern.ofText (written : String) : Except PatternError Pattern :=
  match (do (← Pattern.Written.parse written.toList).meaning .start : Except Pattern.Fault _) with
  | .error fault => .error (.fault written fault)
  | .ok (pattern, _) => if Pattern.sizeLimit < pattern.size then .error .tooLarge else .ok pattern

/-- A text is compiled to the program of the pattern that it means. -/
theorem Pattern.compile_eq (written : String) :
    Pattern.compile written = (Pattern.ofText written).map Pattern.program := by
  unfold compile ofText
  cases (do (← Pattern.Written.parse written.toList).meaning .start : Except Pattern.Fault _) with
  | error fault => rfl
  | ok meant =>
    dsimp only
    split <;> rfl

namespace Extraction

open Pattern (Notes Spans MatchesAt between)

/-- Where the taken part of a match lies: at the first group, if that took part and is not empty. -/
def taken (start stop : Nat) (notes : Notes) : Nat × Nat :=
  match notes.lookup 2, notes.lookup 3 with
  | some opening, some closing => if opening < closing then (opening, closing) else (start, stop)
  | _, _ => (start, stop)

/-- A value is taken out of a body: of a match before which no other starts, the part that counts. -/
def Takes (pattern : Pattern) (body value : String) : Prop :=
  ∃ start stop notes, start ≤ body.toList.length ∧ pattern.Spans body.toList start stop notes ∧
    (∀ earlier < start, ¬ pattern.MatchesAt body.toList earlier) ∧
    value = Text.trim (.ofList (between (taken start stop notes).1 (taken start stop notes).2 body.toList))

/-- Characters between two places stand together in the text. -/
theorem between_infix (start stop : Nat) (text : List Char) : between start stop text <:+: text :=
  (List.take_prefix _ _).isInfix.trans (List.drop_suffix _ _).isInfix

/-- Between two places of a text there is something exactly when they stand in order. -/
theorem between_isEmpty (start : Nat) {stop : Nat} {text : List Char} (within : stop ≤ text.length) :
    (between start stop text).isEmpty = !decide (start < stop) := by
  rw [Bool.eq_iff_iff, List.isEmpty_iff_length_eq_zero, between, List.length_take, List.length_drop]
  simp only [Bool.not_eq_true', decide_eq_false_iff_not]
  omega

/-- What is taken of a match that is found: the first group, if it is not empty, else all of it. -/
theorem taken_eq {found : Pattern.Match} {notes : Notes} {text : List Char} {pattern : Pattern}
    (noted : found.notes = notes ++ [(0, found.start)])
    (spans : pattern.Spans text found.start found.stop notes) (begins : found.start ≤ text.length) :
    ((found.group? 1 text).filter (!·.isEmpty)).getD (found.whole text) =
      between (taken found.start found.stop notes).1 (taken found.start found.stop notes).2 text := by
  -- Where the match starts is noted in a slot of its own.
  have opened : found.notes.lookup 2 = notes.lookup 2 := by simp [noted, List.lookup_append, List.lookup_cons]
  have closed : found.notes.lookup 3 = notes.lookup 3 := by simp [noted, List.lookup_append, List.lookup_cons]
  unfold Pattern.Match.group? taken
  rcases spans.noted begins 1 with ⟨unopened, unclosed⟩ | ⟨opening, closing, front, back, -, -, high⟩
  · simp only [Nat.mul_one, Nat.reduceAdd] at unopened unclosed ⊢
    rw [opened, closed, unopened, unclosed]
    rfl
  · simp only [Nat.mul_one, Nat.reduceAdd] at front back ⊢
    have full := between_isEmpty opening (Nat.le_trans high (spans.inside begins).2)
    rw [opened, closed, front, back]
    by_cases some_ : opening < closing
    · simp [Option.filter, full, some_]
    · simp [Option.filter, full, some_, Pattern.Match.whole]

/-- Out of a body a pattern takes a value, if it matches anywhere. -/
theorem byPattern_cases (body : String) {written : String} {pattern : Pattern}
    (meant : Pattern.ofText written = .ok pattern) :
    (byPattern body written = .error .noMatch ∧ ∀ start, ¬ pattern.MatchesAt body.toList start) ∨
    ∃ value, byPattern body written = .ok value ∧ value.toList <:+: body.toList ∧
      (∃ start, pattern.MatchesAt body.toList start) ∧ Takes pattern body (Text.trim value) := by
  rw [byPattern, Pattern.compile_eq, meant]
  simp only [Except.map]
  cases searched : Pattern.search? pattern.program body.toList with
  | none => exact .inl ⟨rfl, Pattern.search?_eq_none_iff.mp searched⟩
  | some found =>
    obtain ⟨begins, ⟨notes, noted, spans⟩, first⟩ := Pattern.search?_leftmost searched
    simp only [taken_eq noted spans begins]
    refine .inr ⟨_, rfl, ?_, ⟨found.start, begins, _, notes, spans⟩, ?_⟩
    · rw [String.toList_ofList]
      exact between_infix _ _ _
    · exact ⟨found.start, found.stop, notes, begins, spans, first, rfl⟩

/-- Out of a body of text a selector that is not blank takes what it does as a pattern, trimmed. -/
theorem extract_byPattern {written : String} (some_ : Text.allBlank written = false) (body : String) :
    extract body .text written = (byPattern body written).map Text.trim := by
  rw [extract, some_]
  cases byPattern body written <;> rfl

/-- A blank selector takes the whole body, trimmed. -/
theorem extract_blank {selector : String} (blank : Text.allBlank selector = true) (body : String)
    (grammar : Grammar) : extract body grammar selector = .ok (Text.trim body) := by
  simp [extract, blank, pure, Except.pure, bind, Except.bind]

/-- A text that means no pattern is refused, whatever the body is. -/
theorem byPattern_refused {written : String} {error : PatternError}
    (refused : Pattern.ofText written = .error error) (body : String) :
    byPattern body written = .error (.badPattern error) := by
  rw [byPattern, Pattern.compile_eq, refused]
  rfl

/-- What is left of a part of a text is a part of the text. -/
theorem trim_infix {value body : String} (part : value.toList <:+: body.toList) :
    (Text.trim value).toList <:+: body.toList := by
  rw [Text.trim, String.toList_ofList]
  exact (Text.inner_infix _).trans part

end Extraction

open Extraction in
/-- A pattern takes out of a body of text what its leftmost match comes to.

A blank pattern takes the whole body; a text that means no pattern is refused whatever the body is. -/
theorem extract_text (body written : String) :
    (Text.allBlank written = true → extract body .text written = .ok (Text.trim body)) ∧
    (Text.allBlank written = false →
      (∀ error, extract body .text written = .error (.badPattern error) ↔
        Pattern.ofText written = .error error) ∧
      (extract body .text written = .error .noMatch ↔ ∃ pattern,
        Pattern.ofText written = .ok pattern ∧ ∀ start, ¬ pattern.MatchesAt body.toList start) ∧
      ∀ pattern, Pattern.ofText written = .ok pattern → (∃ start, pattern.MatchesAt body.toList start) →
        ∃ value, extract body .text written = .ok value ∧ Takes pattern body value) ∧
    ∀ value, extract body .text written = .ok value → value.toList <:+: body.toList := by
  cases blank : Text.allBlank written with
  | true =>
    rw [extract_blank blank]
    refine ⟨fun _ => rfl, (fun other => nomatch other), ?_⟩
    rintro value ⟨⟩
    exact trim_infix (List.infix_refl _)
  | false =>
    rw [extract_byPattern blank]
    cases meant : Pattern.ofText written with
    | error error => simp [byPattern_refused meant, Except.map]
    | ok pattern =>
      rcases byPattern_cases body meant with
        ⟨same, nowhere⟩ | ⟨value, same, part, somewhere, takes⟩
      · simpa [same, Except.map] using nowhere
      · simp [same, Except.map, somewhere, takes, trim_infix part]

open Extraction in
/-- Where the group of a branch takes no part, the whole match is taken. -/
theorem extract_text_ungrouped :
    Text.allBlank "\t" = true ∧ extract "xb " .text "\t" = .ok "xb" ∧
      Text.allBlank "(a)|b" = false ∧ ∃ pattern, Pattern.ofText "(a)|b" = .ok pattern ∧
        pattern.MatchesAt "xb ".toList 1 ∧ Takes pattern "xb " "b" ∧
        extract "xb " .text "(a)|b" = .ok "b" ∧ "b".toList <:+: "xb ".toList := by
  have some_ : Text.allBlank "(a)|b" = false := by decide
  have meant : Pattern.ofText "(a)|b" =
      .ok (.either (.group 1 (.one (.single 97))) (.one (.single 98))) := rfl
  refine ⟨by decide, (extract_text "xb " "\t").1 (by decide), some_, _, meant, ?_⟩
  generalize found : Pattern.either _ _ = pattern at meant
  have somewhere : pattern.MatchesAt "xb ".toList 1 :=
    found ▸ ⟨by decide, 2, [], .inr ⟨⟨'b', rfl, by decide⟩, rfl, rfl⟩⟩
  obtain ⟨-, outcome, parts⟩ := extract_text "xb " "(a)|b"
  obtain ⟨value, same, takes⟩ := (outcome some_).2.2 pattern meant ⟨1, somewhere⟩
  have shown : value = "b" := by
    obtain ⟨start, stop, notes, -, spans, -, rfl⟩ := takes
    rw [← found, show "xb ".toList = ['x', 'b', ' '] from rfl] at spans
    -- No branch matches elsewhere, and the first does not match here.
    rcases spans with ⟨-, ⟨⟨c, here, among⟩, -⟩, -⟩ | ⟨⟨c, here, among⟩, rfl, rfl⟩
    · rcases start with _ | _ | _ | start <;> cases here <;> exact absurd among (by decide)
    · rcases start with _ | _ | _ | start
      · cases here
        exact absurd among (by decide)
      · rfl
      · cases here
        exact absurd among (by decide)
      · cases here
  subst shown
  exact ⟨somewhere, takes, same, parts _ same⟩

end Placard

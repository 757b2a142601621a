import Placard.Machine.Path

/-! Paths from the root: the names on the way to a directory, and a path read from there. -/

namespace Placard

namespace Text

/-- Every text has at least one piece. -/
theorem pieces_ne_nil (isSeparator : Char → Bool) (letters : List Char) :
    pieces isSeparator letters ≠ [] := by
  cases letters with
  | nil => exact List.cons_ne_nil _ _
  | cons c rest =>
    rw [pieces]
    split
    · exact List.cons_ne_nil _ _
    · split <;> exact List.cons_ne_nil _ _

/-- Characters that are no separators, put in front of a text, join its first piece. -/
theorem pieces_joined {isSeparator : Char → Bool} {front : List Char}
    (plain : ∀ c ∈ front, isSeparator c = false) (rest : List Char) :
    ∃ piece others, pieces isSeparator (front ++ rest) = (front ++ piece) :: others := by
  induction front with
  | nil =>
    obtain ⟨piece, others, same⟩ := List.exists_cons_of_ne_nil (pieces_ne_nil isSeparator rest)
    exact ⟨piece, others, same⟩
  | cons c front ih =>
    obtain ⟨piece, others, same⟩ := ih fun c member => plain c (List.mem_cons_of_mem _ member)
    refine ⟨piece, others, ?_⟩
    rw [List.cons_append, pieces, plain c List.mem_cons_self, same]
    rfl

/-- Two texts with a separator between them have the pieces of both. -/
theorem pieces_append {isSeparator : Char → Bool} {mark : Char} (separates : isSeparator mark = true)
    (first second : List Char) : pieces isSeparator (first ++ mark :: second) =
      pieces isSeparator first ++ pieces isSeparator second := by
  -- A separator begins a new piece, and any other character goes to the front of the first one.
  induction first with
  | nil => simp [pieces, separates]
  | cons c rest ih =>
    rw [List.cons_append, pieces, pieces, ih]
    split
    · rfl
    · cases split_ : pieces isSeparator rest with
      | nil => exact absurd split_ (pieces_ne_nil _ _)
      | cons piece others => rfl

/-- A text without separators is its only piece. -/
theorem pieces_single {isSeparator : Char → Bool} {letters : List Char}
    (plain : ∀ c ∈ letters, isSeparator c = false) : pieces isSeparator letters = [letters] := by
  induction letters with
  | nil => rfl
  | cons c rest ih =>
    rw [pieces, ih fun other member => plain other (List.mem_cons_of_mem _ member),
      plain c List.mem_cons_self]
    rfl

/-- Two texts with a slash between them have the pieces of both. -/
theorem splitAt_slash (first second : String) :
    splitAt '/' (first ++ "/" ++ second) = splitAt '/' first ++ splitAt '/' second := by
  have letters : (first ++ "/" ++ second).toList = first.toList ++ '/' :: second.toList := by simp
  rw [splitAt, letters, pieces_append (by decide), List.map_append]
  rfl

/-- A text without a slash is its only piece. -/
theorem splitAt_single {text : String} (plain : '/' ∉ text.toList) : splitAt '/' text = [text] := by
  rw [splitAt, pieces_single]
  · simp
  · intro c member
    rw [beq_eq_false_iff_ne]
    rintro rfl
    exact plain member

/-- Texts joined with one more text behind them. -/
theorem joinWith_concat {separator : String} {texts : List String} (some_ : texts ≠ []) (last : String) :
    joinWith separator (texts ++ [last]) = joinWith separator texts ++ separator ++ last := by
  induction texts with
  | nil => exact absurd rfl some_
  | cons first others ih =>
    cases others with
    | nil => rfl
    | cons second others =>
      show first ++ separator ++ joinWith separator (second :: others ++ [last]) = _
      rw [ih (List.cons_ne_nil _ _)]
      simp [joinWith, String.append_assoc]

/-- The characters of joined texts are those of the texts and of the separator. -/
theorem mem_joinWith {separator : String} {texts : List String} {c : Char}
    (member : c ∈ (joinWith separator texts).toList) :
    c ∈ separator.toList ∨ ∃ text ∈ texts, c ∈ text.toList := by
  -- Behind the first text come the separator and the rest, which is joined in the same way.
  induction texts with
  | nil => simp [joinWith] at member
  | cons first others ih =>
    cases others with
    | nil => exact .inr ⟨first, List.mem_cons_self, member⟩
    | cons second others =>
      have letters : (joinWith separator (first :: second :: others)).toList =
          first.toList ++ separator.toList ++ (joinWith separator (second :: others)).toList := by
        simp [joinWith]
      rw [letters, List.mem_append, List.mem_append] at member
      rcases member with (here | between) | later
      · exact .inr ⟨first, List.mem_cons_self, here⟩
      · exact .inl between
      · exact (ih later).imp_right fun ⟨text, among, inside⟩ =>
          ⟨text, List.mem_cons_of_mem _ among, inside⟩

end Text

namespace Path

/-- A name of a place: it is not empty, no dots that stand for other places, and has no slash. -/
structure IsName (name : String) : Prop where
  solid : name ≠ ""
  here : name ≠ "."
  above : name ≠ ".."
  plain : '/' ∉ name.toList

/-- The pieces of a path from the root, whose last part may have several names. -/
theorem splitAt_ofNames {directory : List String} (named : ∀ name ∈ directory, IsName name)
    (last : String) : Text.splitAt '/' (ofNames (directory ++ [last])) =
      "" :: directory ++ Text.splitAt '/' last := by
  -- Every name of the directory is one piece, as it has no slash in it.
  have joined : Text.splitAt '/' (Text.joinWith "/" (directory ++ [last])) =
      directory ++ Text.splitAt '/' last := by
    induction directory with
    | nil => rfl
    | cons name others ih =>
      have rest := ih fun other member => named other (List.mem_cons_of_mem _ member)
      cases others with
      | nil =>
        show Text.splitAt '/' (name ++ "/" ++ last) = _
        rw [Text.splitAt_slash, Text.splitAt_single (named name List.mem_cons_self).plain]
      | cons second others =>
        show Text.splitAt '/' (name ++ "/" ++ Text.joinWith "/" (second :: others ++ [last])) = _
        rw [Text.splitAt_slash, rest, Text.splitAt_single (named name List.mem_cons_self).plain]
        rfl
  have rooted : ofNames (directory ++ [last]) =
      "" ++ "/" ++ Text.joinWith "/" (directory ++ [last]) := by
    rw [String.empty_append]
    rfl
  rw [rooted, Text.splitAt_slash, joined]
  rfl

/-- The names on a path that is read from a directory: those of the directory, then its own. -/
theorem names_ofNames_concat {directory : List String} (named : ∀ name ∈ directory, IsName name)
    (last : String) : names (ofNames (directory ++ [last])) = directory ++ names last := by
  -- The empty piece in front of the first slash is no name, and no name of the directory is dropped.
  have kept : directory.filter (fun name => name != "" && name != ".") = directory := by
    rw [List.filter_eq_self]
    intro name member
    have name_ := named name member
    simp [name_.solid, name_.here]
  rw [names, splitAt_ofNames named, List.cons_append, List.filter_cons_of_neg (by simp),
    List.filter_append, kept]
  rfl

/-- The names on the path of a directory. -/
theorem names_ofNames {directory : List String} (named : ∀ name ∈ directory, IsName name) :
    names (ofNames directory) = directory := by
  rcases List.eq_nil_or_concat directory with rfl | ⟨others, last, rfl⟩
  · rfl
  · rw [List.concat_eq_append] at named ⊢
    have last_ := named last (List.mem_append_right _ List.mem_cons_self)
    rw [names_ofNames_concat fun name member => named name (List.mem_append_left _ member), names,
      Text.splitAt_single last_.plain]
    simp [last_.solid, last_.here]

/-- A path read from a directory stands behind a slash. -/
theorem exists_ofNames_concat (directory : List String) (path : String) :
    ∃ before, ofNames (directory ++ [path]) = before ++ "/" ++ path ∧
      (directory ≠ [] → before = ofNames directory) := by
  by_cases empty : directory = []
  · subst empty
    exact ⟨"", by rw [String.empty_append]; rfl, fun some_ => absurd rfl some_⟩
  · refine ⟨ofNames directory, ?_, fun _ => rfl⟩
    rw [ofNames, Text.joinWith_concat empty, ofNames]
    simp only [String.append_assoc]

/-- A path read from a directory stands behind the names of the directory. -/
theorem join_ofNames {directory : List String} (named : ∀ name ∈ directory, IsName name) {path : String}
    (relative : isAbsolute path = false) : join (ofNames directory) path = ofNames (directory ++ [path]) := by
  have solid : (ofNames directory == "") = false := by
    rw [beq_eq_false_iff_ne]
    intro empty
    have letters := congrArg String.toList empty
    simp [ofNames] at letters
  obtain ⟨before, full, same⟩ := exists_ofNames_concat directory path
  rw [join, relative, solid, Bool.or_self, if_neg Bool.false_ne_true]
  -- A slash is put between the two, unless the directory is the root, whose name ends with one.
  rcases List.eq_nil_or_concat directory with rfl | ⟨others, last, rfl⟩
  · rfl
  · rw [List.concat_eq_append] at *
    -- The last name of the directory does not end with a slash.
    obtain ⟨above, ends, -⟩ := exists_ofNames_concat others last
    have last_ := named last (List.mem_append_right _ List.mem_cons_self)
    rw [full, same (by simp)]
    cases letters : last.toList.reverse with
    | nil =>
      rw [List.reverse_eq_nil_iff, String.toList_eq_nil_iff] at letters
      exact absurd letters last_.solid
    | cons c more =>
      have member : c ∈ last.toList := by
        rw [← List.mem_reverse, letters]
        exact List.mem_cons_self
      have apart : c ≠ '/' := by
        rintro rfl
        exact last_.plain member
      have backwards : (ofNames (others ++ [last])).toList.reverse =
          c :: (more ++ (above ++ "/").toList.reverse) := by
        rw [ends, String.toList_append, List.reverse_append, letters]
        rfl
      rw [backwards]
      split
      · rename_i same
        exact absurd (List.cons.inj same).1 apart
      · rfl

/-- A path that asks for no directory asks for none wherever it is read from. -/
theorem wantsDirectory_ofNames {path : String} (some_ : path ≠ "") (directory : List String)
    (plain : wantsDirectory path = false) : wantsDirectory (ofNames (directory ++ [path])) = false := by
  obtain ⟨before, full, -⟩ := exists_ofNames_concat directory path
  have backwards : (ofNames (directory ++ [path])).toList.reverse =
      path.toList.reverse ++ '/' :: before.toList.reverse := by
    rw [full]
    simp
  rw [wantsDirectory] at plain ⊢
  rw [backwards]
  -- The last two characters of the path decide, or its only one.
  cases letters : path.toList.reverse with
  | nil =>
    rw [List.reverse_eq_nil_iff, String.toList_eq_nil_iff] at letters
    exact absurd letters some_
  | cons c more =>
    rw [letters] at plain
    by_cases slash : c = '/'
    · subst slash
      cases plain
    by_cases dot : c = '.'
    · subst dot
      cases more with
      | nil => cases plain
      | cons second others =>
        by_cases slash : second = '/'
        · subst slash
          cases plain
        · simp [slash]
    · simp [slash, dot]

end Path

end Placard

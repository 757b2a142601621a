import Placard.Proofs.Template.Values

/-! Tokens in brackets: the places where they stand never overlap, and each of them is replaced. -/

namespace Placard.Template

/-- The number of places in a text at which a token stands. -/
def occurrences (token text : List Char) : Nat :=
  -- Places may overlap here; a token stands wherever it begins what is left of the text.
  text.tails.countP (token <+: ·)

/-- A token in brackets has braces at its two ends, and none between them. -/
def Bracketed (token : List Char) : Prop :=
  ∃ inside, token = '{' :: inside ++ ['}'] ∧ '{' ∉ inside ∧ '}' ∉ inside

/-! ### Places in a text -/

/-- A token stands at the front of a text or at a place further back. -/
theorem occurrences_cons (token : List Char) (c : Char) (rest : List Char) :
    occurrences token (c :: rest) =
      (if token <+: c :: rest then 1 else 0) + occurrences token rest := by
  simp [occurrences, List.countP_cons, Nat.add_comm]

/-- A token stands at some place exactly when it is a part of the text. -/
theorem occurrences_pos_iff {token text : List Char} : 0 < occurrences token text ↔ token <:+: text := by
  simp only [occurrences, List.countP_pos_iff, List.mem_tails, decide_eq_true_eq,
    List.infix_iff_prefix_suffix]
  exact exists_congr fun rest => and_comm

/-- Where the brace of a token does not stand, the token does not begin. -/
theorem occurrences_skip {token passed : List Char} (opens : token.head? = some '{')
    (plain : '{' ∉ passed) (rest : List Char) :
    occurrences token (passed ++ rest) = occurrences token rest := by
  induction passed with
  | nil => rfl
  | cons c passed ih =>
    have absent : ¬ token <+: c :: (passed ++ rest) := by
      rintro ⟨behind, same⟩
      cases token with
      | nil => cases opens
      | cons d others =>
        -- The first character of the token would be this one.
        obtain ⟨rfl, -⟩ := List.cons.inj same
        exact plain (Option.some.inj opens ▸ List.mem_cons_self)
    rw [List.cons_append, occurrences_cons, if_neg absent, Nat.zero_add,
      ih fun member => plain (List.mem_cons_of_mem _ member)]

/-! ### Tokens in brackets -/

/-- A token in brackets begins with a brace. -/
theorem Bracketed.head {token : List Char} (bracketed : Bracketed token) : token.head? = some '{' := by
  obtain ⟨inside, rfl, -⟩ := bracketed
  rfl

/-- A token in brackets ends at the first closing brace of every text that it begins. -/
theorem Bracketed.eq_takeWhile {token : List Char} (bracketed : Bracketed token) (rest : List Char) :
    token = '{' :: (token ++ rest).tail.takeWhile (· != '}') ++ ['}'] := by
  obtain ⟨inside, rfl, -, closed⟩ := bracketed
  have all : ∀ c ∈ inside, (c != '}') = true := fun c member => by
    rw [bne_iff_ne]
    rintro rfl
    exact closed member
  have cut : (inside ++ '}' :: rest).takeWhile (· != '}') = inside := by
    rw [List.takeWhile_append_of_pos all]
    simp
  simp [cut]

/-- Of all tokens in brackets, only one can begin a text. -/
theorem Bracketed.eq_of_prefix {token other text : List Char} (bracketed : Bracketed token)
    (otherBracketed : Bracketed other) (begins : token <+: text) (otherBegins : other <+: text) :
    other = token := by
  -- The text decides where a token in brackets ends.
  obtain ⟨rest, rfl⟩ := begins
  obtain ⟨otherRest, same⟩ := otherBegins
  rw [bracketed.eq_takeWhile rest, otherBracketed.eq_takeWhile otherRest, same]

/-- Behind a token in brackets the places are those of the rest of the text. -/
theorem Bracketed.occurrences_append {token other : List Char} (bracketed : Bracketed token)
    (otherBracketed : Bracketed other) (rest : List Char) :
    occurrences other (token ++ rest) = (if other = token then 1 else 0) + occurrences other rest := by
  have first : other <+: token ++ rest ↔ other = token :=
    ⟨bracketed.eq_of_prefix otherBracketed (List.prefix_append _ _), fun same => same ▸ List.prefix_append _ _⟩
  obtain ⟨inside, rfl, opened, -⟩ := bracketed
  -- Inside the token and at its closing brace no other token can begin.
  have passed : '{' ∉ inside ++ ['}'] := by simpa using opened
  simp only [List.cons_append] at first ⊢
  rw [occurrences_cons, occurrences_skip otherBracketed.head passed]
  simp only [first]

/-- Along a tiling, a token in brackets is a piece as often as it stands in the text. -/
theorem Tiling.count_eq {tokens : List (List Char)} (bracketed : ∀ token ∈ tokens, Bracketed token)
    {text : List Char} {pieces : List (List Char)} (tiling : Tiling tokens text pieces)
    {token : List Char} (member : token ∈ tokens) : pieces.count token = occurrences token text := by
  have own := bracketed token member
  induction tiling with
  | done =>
    obtain ⟨inside, rfl, -⟩ := own
    simp [occurrences]
  | @token found rest pieces longest _ ih =>
    have same : (found == token) = true ↔ token = found := beq_iff_eq.trans eq_comm
    rw [(bracketed found longest.1).occurrences_append own, List.count_cons, ih, Nat.add_comm]
    simp only [same]
  | @plain c rest pieces unmatched _ ih =>
    -- A single character is no token in brackets.
    have single : ([c] == token) = false := by
      obtain ⟨inside, rfl, -⟩ := own
      simp
    rw [occurrences_cons, if_neg (unmatched token member), List.count_cons, single, ih]
    simp

/-! ### Texts around a place -/

/-- A token with no brace inside does not reach beyond the next brace. -/
theorem prefix_before_brace {token front rest : List Char} (opened : '{' ∉ token.tail)
    (filled : front ≠ []) (opens : rest.head? = some '{') (begins : token <+: front ++ rest) :
    token <+: front := by
  rcases List.prefix_or_prefix_of_prefix begins (List.prefix_append front rest) with within | across
  · exact within
  · obtain ⟨beyond, rfl⟩ := across
    cases beyond with
    | nil => rw [List.append_nil]
    | cons c beyond =>
      -- The token would go on with the brace at which the rest begins.
      obtain ⟨d, others, rfl⟩ := List.exists_cons_of_ne_nil filled
      have next := (List.prefix_append_right_inj _).mp begins
      obtain ⟨behind, rfl⟩ := next
      have brace : c = '{' := by simpa using opens
      exact absurd (by simp [brace]) opened

/-- Texts are cut into pieces one after the other where the second begins with a brace. -/
theorem Tiling.append {tokens : List (List Char)} (opened : ∀ token ∈ tokens, '{' ∉ token.tail)
    (filled : [] ∉ tokens) {front rest : List Char} {pieces others : List (List Char)}
    (tiling : Tiling tokens front pieces) (opens : rest.head? = some '{')
    (behind : Tiling tokens rest others) : Tiling tokens (front ++ rest) (pieces ++ others) := by
  -- No token that begins in the first text ends in the second.
  induction tiling with
  | done => exact behind
  | @token token left pieces longest _ ih =>
    have nonempty : token ++ left ≠ [] := fun empty =>
      filled ((List.append_eq_nil_iff.mp empty).1 ▸ longest.1)
    rw [List.append_assoc, List.cons_append]
    refine .token ⟨longest.1, List.prefix_append _ _, fun other listed begins => ?_⟩ ih
    rw [← List.append_assoc] at begins
    exact longest.2.2 other listed (prefix_before_brace (opened other listed) nonempty opens begins)
  | @plain c left pieces unmatched _ ih =>
    refine .plain (fun token listed begins => unmatched token listed ?_) ih
    exact prefix_before_brace (opened token listed) (List.cons_ne_nil c left) opens begins

/-- Around a token in brackets, the texts before and behind it are cut into pieces by themselves. -/
theorem Tiling.around {tokens : List (List Char)} (bracketed : ∀ token ∈ tokens, Bracketed token)
    {token before after : List Char} (member : token ∈ tokens) {front back : List (List Char)}
    (first : Tiling tokens before front) (second : Tiling tokens after back) :
    Tiling tokens (before ++ (token ++ after)) (front ++ token :: back) := by
  have opened : ∀ token ∈ tokens, '{' ∉ token.tail := by
    intro token listed
    obtain ⟨inside, rfl, plain, -⟩ := bracketed token listed
    simpa using plain
  have filled : [] ∉ tokens := fun listed => by cases (bracketed [] listed).head
  have own := bracketed token member
  have opens : (token ++ after).head? = some '{' := by
    rw [List.head?_append, own.head]
    rfl
  refine first.append opened filled opens (.token ⟨member, List.prefix_append _ _, ?_⟩ second)
  intro other listed begins
  rw [own.eq_of_prefix (bracketed other listed) (List.prefix_append _ _) begins]

/-! ### Every place is replaced -/

/-- What becomes of a text in which every place of a token is replaced by the value of the token.

The text has one tiling, in which each token of the table comes as often as it stands in the text.
At each of its places stands the value instead, and the texts around the place are rewritten by
themselves. -/
structure Exhausts (table : List (String × String)) (text result : String)
    (pieces : List (List Char)) : Prop where
  tiled : ∀ others, Tiling (tokensOf table) text.toList others ↔ others = pieces
  spelled : result.toList = pieces.flatMap (replacement table)
  inserted : ∀ entry ∈ table, replacement table entry.1.toList = entry.2.toList
  counted : ∀ entry ∈ table, pieces.count entry.1.toList = occurrences entry.1.toList text.toList
  replaced : ∀ entry ∈ table, ∀ before after, text = before ++ entry.1 ++ after →
    result = substitute table before ++ entry.2 ++ substitute table after

/-- Substitution replaces every place of a token in brackets. -/
theorem substitute_exhausts {table : List (String × String)} (distinct : (table.map (·.1)).Nodup)
    (bracketed : ∀ token ∈ tokensOf table, Bracketed token) (text : String) :
    ∃ pieces, Exhausts table text (substitute table text) pieces := by
  have braced : Braced (tokensOf table) := fun token listed => (bracketed token listed).head
  obtain ⟨pieces, tiling⟩ := exists_tiling braced.filled text.toList
  refine ⟨pieces, fun others => ⟨tiling.unique braced.filled, fun same => same ▸ tiling⟩,
    toList_substitute distinct braced tiling, fun entry listed => replacement_token distinct listed,
    fun entry listed => tiling.count_eq bracketed (List.mem_map_of_mem listed), ?_⟩
  rintro entry listed before after rfl
  -- The pieces before the place, the token, and the pieces behind it make up the tiling.
  obtain ⟨front, first⟩ := exists_tiling braced.filled before.toList
  obtain ⟨back, second⟩ := exists_tiling braced.filled after.toList
  have whole := Tiling.around bracketed (List.mem_map_of_mem listed) first second
  have parts : before.toList ++ (entry.1.toList ++ after.toList) = (before ++ entry.1 ++ after).toList := by
    simp
  rw [parts] at whole
  rw [← String.toList_inj, toList_substitute distinct braced whole, String.toList_append,
    String.toList_append, toList_substitute distinct braced first, toList_substitute distinct braced second,
    List.flatMap_append, List.flatMap_cons, replacement_token distinct listed, List.append_assoc]

end Placard.Template

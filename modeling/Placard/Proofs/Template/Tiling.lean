import Placard.Proofs.Keyed
import Placard.Template
import Mathlib.Data.List.Infix

/-! Substitution cuts a text into its longest tokens from left to right, and keeps what lies between. -/

namespace Placard.Template

/-- A token is the longest of those that begin a text. -/
def LongestToken (tokens : List (List Char)) (text token : List Char) : Prop :=
  -- Several tokens may begin a text, and each of them then begins every longer one.
  token ∈ tokens ∧ token <+: text ∧
    ∀ other ∈ tokens, other <+: text → other.length ≤ token.length

/-- The pieces of a text from left to right: the longest token, or one character where none begins. -/
inductive Tiling (tokens : List (List Char)) : List Char → List (List Char) → Prop
  | done : Tiling tokens [] []
  | token {token rest : List Char} {pieces : List (List Char)}
      (longest : LongestToken tokens (token ++ rest) token) (others : Tiling tokens rest pieces) :
      Tiling tokens (token ++ rest) (token :: pieces)
  | plain {c : Char} {rest : List Char} {pieces : List (List Char)}
      (unmatched : ∀ token ∈ tokens, ¬ token <+: c :: rest) (others : Tiling tokens rest pieces) :
      Tiling tokens (c :: rest) ([c] :: pieces)

/-- Every token begins with a brace. -/
def Braced (tokens : List (List Char)) : Prop :=
  ∀ token ∈ tokens, token.head? = some '{'

/-- The tokens of a table. -/
def tokensOf (table : List (String × String)) : List (List Char) :=
  table.map (·.1.toList)

/-- What stands for a piece: the value of a token, and any other piece itself. -/
def replacement (table : List (String × String)) (piece : List Char) : List Char :=
  match table.lookup (String.ofList piece) with
  | some value => value.toList
  | none => piece

/-! ### The longest token -/

/-- An entry counts as beginning a text when its token is not empty and a prefix of the text. -/
private theorem begins_iff {entry : List Char × List Char} {text : List Char} :
    (!entry.1.isEmpty && (Text.dropPrefix? entry.1 text).isSome) = true ↔
      entry.1 ≠ [] ∧ entry.1 <+: text := by
  -- The rest that is left after a prefix is what makes it one.
  have left : (∃ rest, text = entry.1 ++ rest) ↔ entry.1 <+: text :=
    exists_congr fun rest => eq_comm
  simp only [Bool.and_eq_true, Bool.not_eq_true', List.isEmpty_eq_false_iff, ne_eq,
    Option.isSome_iff_exists, Text.dropPrefix?_eq_some_iff, left]

/-- Comparing entries one after another keeps one of them that is as long as any. -/
private theorem foldl_longer_spec (entries : List (List Char × List Char)) (best : List Char × List Char) :
    entries.foldl longer best ∈ best :: entries ∧
      ∀ entry ∈ best :: entries, entry.1.length ≤ (entries.foldl longer best).1.length := by
  -- Each comparison drops the shorter of two entries, which the winner then exceeds too.
  induction entries generalizing best with
  | nil => simp
  | cons next entries ih =>
    obtain ⟨member, bound⟩ := ih (longer best next)
    have chosen : longer best next = best ∨ longer best next = next := by
      unfold longer; split <;> simp
    have least : best.1.length ≤ (longer best next).1.length ∧
        next.1.length ≤ (longer best next).1.length := by
      unfold longer; split <;> omega
    have top := bound (longer best next) (by simp)
    constructor
    · simp only [List.foldl_cons, List.mem_cons] at member ⊢
      rcases member with same | later
      · rcases chosen with first | second
        · exact .inl (same.trans first)
        · exact .inr (.inl (same.trans second))
      · exact .inr (.inr later)
    · intro entry listed
      simp only [List.foldl_cons, List.mem_cons] at listed ⊢
      rcases listed with rfl | rfl | later
      · omega
      · omega
      · exact bound entry (by simp [later])

/-- No entry is found exactly where no token begins the text. -/
theorem longestAt?_eq_none {table : List (List Char × List Char)} {text : List Char}
    (none_ : longestAt? table text = none) {entry : List Char × List Char} (member : entry ∈ table)
    (filled : entry.1 ≠ []) : ¬ entry.1 <+: text := by
  -- An entry whose token begins the text would have passed the filter.
  intro begins
  unfold longestAt? at none_
  split at none_
  · rename_i empty
    have kept : entry ∈ table.filter fun entry =>
        !entry.1.isEmpty && (Text.dropPrefix? entry.1 text).isSome :=
      List.mem_filter.mpr ⟨member, begins_iff.mpr ⟨filled, begins⟩⟩
    rw [empty] at kept
    cases kept
  · cases none_

/-- An entry that is found has the longest of the tokens that begin the text. -/
theorem longestAt?_eq_some {table : List (List Char × List Char)} {text : List Char}
    {found : List Char × List Char} (some_ : longestAt? table text = some found) :
    found ∈ table ∧ found.1 ≠ [] ∧ LongestToken (table.map (·.1)) text found.1 := by
  unfold longestAt? at some_
  split at some_
  · cases some_
  · rename_i first others kept
    cases some_
    obtain ⟨member, bound⟩ := foldl_longer_spec others first
    -- The winner passed the filter, and whatever begins the text passed it too.
    rw [← kept] at member bound
    obtain ⟨listed, begins⟩ := List.mem_filter.mp member
    obtain ⟨filled, begins⟩ := begins_iff.mp begins
    refine ⟨listed, filled, List.mem_map_of_mem listed, begins, ?_⟩
    intro other isToken otherBegins
    obtain ⟨entry, entryListed, rfl⟩ := List.mem_map.mp isToken
    by_cases empty : entry.1 = []
    · simp [empty]
    · exact bound entry (List.mem_filter.mpr ⟨entryListed, begins_iff.mpr ⟨empty, otherBegins⟩⟩)

/-! ### One tiling for a text -/

/-- Of the tokens that begin a text, only one is the longest. -/
theorem LongestToken.unique {tokens : List (List Char)} {text token other : List Char}
    (first : LongestToken tokens text token) (second : LongestToken tokens text other) :
    other = token := by
  -- Two beginnings of one text that are equally long are the same.
  obtain ⟨member, begins, bound⟩ := first
  obtain ⟨otherMember, otherBegins, otherBound⟩ := second
  have least := bound other otherMember otherBegins
  have most := otherBound token member begins
  exact (List.prefix_of_prefix_length_le otherBegins begins least).eq_of_length (by omega)

/-- The pieces of a tiling make up the text. -/
theorem Tiling.flatten {tokens : List (List Char)} {text : List Char} {pieces : List (List Char)}
    (tiling : Tiling tokens text pieces) : pieces.flatten = text := by
  -- Every piece is cut off the front of what remains.
  induction tiling with
  | done => rfl
  | token longest others ih => simp [ih]
  | plain unmatched others ih => simp [ih]

/-- A piece of a tiling is one of the tokens, or a single character that is none of them. -/
theorem Tiling.piece {tokens : List (List Char)} {text : List Char} {pieces : List (List Char)}
    (tiling : Tiling tokens text pieces) {piece : List Char} (member : piece ∈ pieces) :
    piece ∈ tokens ∨ ∃ c, piece = [c] ∧ [c] ∉ tokens := by
  induction tiling with
  | done => cases member
  | token longest others ih =>
    rcases List.mem_cons.mp member with rfl | later
    · exact .inl longest.1
    · exact ih later
  | @plain c rest pieces unmatched others ih =>
    rcases List.mem_cons.mp member with rfl | later
    -- A token of this one character would have begun the text.
    · exact .inr ⟨c, rfl, fun isToken => unmatched [c] isToken ⟨rest, rfl⟩⟩
    · exact ih later

/-- Where no token is empty, a text has only one tiling. -/
theorem Tiling.unique {tokens : List (List Char)} (filled : [] ∉ tokens) {text : List Char}
    {pieces others : List (List Char)} (first : Tiling tokens text pieces)
    (second : Tiling tokens text others) : others = pieces := by
  -- What begins the text decides the first piece, and with it what remains.
  induction first generalizing others with
  | done =>
    generalize same : [] = text at second
    cases second with
    | done => rfl
    | @token token rest pieces longest _ =>
      have empty : token = [] := (List.append_eq_nil_iff.mp same.symm).1
      exact absurd (empty ▸ longest.1) filled
    | plain => cases same
  | @token token rest pieces longest _ ih =>
    generalize same : token ++ rest = text at second
    cases second with
    | done =>
      have empty : token = [] := (List.append_eq_nil_iff.mp same).1
      exact absurd (empty ▸ longest.1) filled
    | @token other otherRest otherPieces otherLongest otherTiling =>
      rw [same] at longest
      have equal := longest.unique otherLongest
      subst equal
      have left : otherRest = rest := (List.append_cancel_left same).symm
      subst left
      rw [ih otherTiling]
    | plain unmatched _ => exact absurd (same ▸ longest.2.1) (unmatched token longest.1)
  | @plain c rest pieces unmatched _ ih =>
    generalize same : c :: rest = text at second
    cases second with
    | done => cases same
    | token longest _ => exact absurd (same ▸ longest.2.1) (unmatched _ longest.1)
    | plain _ otherTiling =>
      obtain ⟨rfl, rfl⟩ := List.cons.inj same
      rw [ih otherTiling]

/-- A tiling depends on which tokens there are, and not on their order. -/
theorem Tiling.of_perm {tokens others : List (List Char)} (permuted : others.Perm tokens)
    {text : List Char} {pieces : List (List Char)} (tiling : Tiling tokens text pieces) :
    Tiling others text pieces := by
  induction tiling with
  | done => exact .done
  | token longest _ ih =>
    obtain ⟨member, begins, bound⟩ := longest
    exact .token ⟨permuted.mem_iff.mpr member, begins,
      fun other listed => bound other (permuted.mem_iff.mp listed)⟩ ih
  | plain unmatched _ ih =>
    exact .plain (fun token listed => unmatched token (permuted.mem_iff.mp listed)) ih

/-! ### Substitution follows the tiling -/

/-- A table with its tokens and values as characters. -/
def letters (table : List (String × String)) : List (List Char × List Char) :=
  table.map fun entry => (entry.1.toList, entry.2.toList)

/-- The tokens of a table, read off its characters. -/
private theorem letters_tokens (table : List (String × String)) :
    (letters table).map (·.1) = tokensOf table := by
  simp [letters, tokensOf]

/-- What braces begin is not empty. -/
theorem Braced.filled {tokens : List (List Char)} (braced : Braced tokens) : [] ∉ tokens := by
  intro member
  cases braced [] member

/-- Where tokens are distinct, a token is replaced by the value beside it. -/
theorem replacement_token {table : List (String × String)}
    (distinct : (table.map (·.1)).Nodup) {entry : String × String} (member : entry ∈ table) :
    replacement table entry.1.toList = entry.2.toList := by
  have found : table.lookup entry.1 = some entry.2 := Keyed.lookup_of_mem distinct member
  simp only [replacement, String.ofList_toList, found]

/-- A piece that is no token stays as it is. -/
theorem replacement_plain {table : List (String × String)} {piece : List Char}
    (plain : piece ∉ tokensOf table) : replacement table piece = piece := by
  unfold replacement
  split
  · rename_i value found
    -- A piece that is found in the table is one of its tokens.
    refine absurd (List.mem_map.mpr ⟨_, Keyed.mem_of_lookup found, ?_⟩) plain
    simp
  · rfl

/-- A character at which no token begins is passed on, and substitution goes on behind it. -/
private theorem substituteChars_plain {table : List (String × String)} {c : Char} {rest : List Char}
    (unmatched : ∀ token ∈ tokensOf table, ¬ token <+: c :: rest) :
    substituteChars (letters table) (c :: rest) = c :: substituteChars (letters table) rest := by
  rw [substituteChars]
  split
  · cases found : longestAt? (letters table) (c :: rest) with
    | none => rfl
    | some entry =>
      -- The longest token found would begin the text.
      obtain ⟨_, _, longest⟩ := longestAt?_eq_some found
      rw [letters_tokens] at longest
      exact absurd longest.2.1 (unmatched _ longest.1)
  · rfl

/-- The longest token at a place is replaced by its value, and substitution goes on behind it. -/
private theorem substituteChars_token {table : List (String × String)} {token rest : List Char}
    (distinct : (table.map (·.1)).Nodup) (braced : Braced (tokensOf table))
    (longest : LongestToken (tokensOf table) (token ++ rest) token) :
    substituteChars (letters table) (token ++ rest) =
      replacement table token ++ substituteChars (letters table) rest := by
  cases token with
  | nil => exact absurd longest.1 braced.filled
  | cons c others =>
    have brace : c = '{' := by simpa using braced _ longest.1
    obtain ⟨held, heldMember, heldToken⟩ := List.mem_map.mp longest.1
    rw [List.cons_append, substituteChars, if_pos brace]
    cases found : longestAt? (letters table) (c :: (others ++ rest)) with
    | none =>
      -- The table holds a token that begins here, so the search cannot fail.
      have listed : (held.1.toList, held.2.toList) ∈ letters table :=
        List.mem_map.mpr ⟨held, heldMember, rfl⟩
      have begins : held.1.toList <+: c :: (others ++ rest) := heldToken ▸ longest.2.1
      have filled : held.1.toList ≠ [] := by simp [heldToken]
      exact absurd begins (longestAt?_eq_none found listed filled)
    | some entry =>
      obtain ⟨listed, _, entryLongest⟩ := longestAt?_eq_some found
      rw [letters_tokens] at entryLongest
      have same : entry.1 = c :: others := longest.unique entryLongest
      obtain ⟨owner, ownerMember, rfl⟩ := List.mem_map.mp listed
      simp only at same
      have value := replacement_token distinct ownerMember
      rw [same] at value
      simp [same, value]

/-- Along any tiling, substitution replaces the tokens and keeps the other pieces. -/
theorem substituteChars_of_tiling {table : List (String × String)}
    (distinct : (table.map (·.1)).Nodup) (braced : Braced (tokensOf table)) {text : List Char}
    {pieces : List (List Char)} (tiling : Tiling (tokensOf table) text pieces) :
    substituteChars (letters table) text = pieces.flatMap (replacement table) := by
  induction tiling with
  | done => rw [substituteChars]; rfl
  | token longest _ ih =>
    rw [substituteChars_token distinct braced longest, ih, List.flatMap_cons]
  | @plain c rest pieces unmatched _ ih =>
    have plain : [c] ∉ tokensOf table := fun isToken => unmatched [c] isToken ⟨rest, rfl⟩
    rw [substituteChars_plain unmatched, ih, List.flatMap_cons, replacement_plain plain]
    rfl

/-- Either a longest token begins a text, or none does. -/
theorem longestToken_or_unmatched {tokens : List (List Char)} (filled : [] ∉ tokens)
    (text : List Char) :
    (∃ token, LongestToken tokens text token) ∨ ∀ token ∈ tokens, ¬ token <+: text := by
  -- The search answers this for a table of these tokens with any values.
  let table := tokens.map fun token => (token, ([] : List Char))
  have same : table.map (·.1) = tokens := by simp [table, Function.comp_def]
  cases found : longestAt? table text with
  | some entry =>
    obtain ⟨_, _, longest⟩ := longestAt?_eq_some found
    exact .inl ⟨entry.1, same ▸ longest⟩
  | none =>
    refine .inr fun token member => ?_
    have listed : (token, []) ∈ table := List.mem_map.mpr ⟨token, member, rfl⟩
    exact longestAt?_eq_none found listed fun empty => filled (empty ▸ member)

/-- Where no token is empty, every text has a tiling. -/
theorem exists_tiling {tokens : List (List Char)} (filled : [] ∉ tokens) (text : List Char) :
    ∃ pieces, Tiling tokens text pieces := by
  -- The longest token, or else one character, is cut off; what remains is shorter.
  induction size : text.length using Nat.strong_induction_on generalizing text with
  | _ bound ih =>
    rcases longestToken_or_unmatched filled text with ⟨token, longest⟩ | unmatched
    · obtain ⟨rest, rfl⟩ := longest.2.1
      have positive : 0 < token.length :=
        List.length_pos_iff.mpr fun empty => filled (empty ▸ longest.1)
      have shorter : rest.length < bound := by rw [← size, List.length_append]; omega
      obtain ⟨pieces, tiling⟩ := ih rest.length shorter rest rfl
      exact ⟨token :: pieces, .token longest tiling⟩
    · cases text with
      | nil => exact ⟨[], .done⟩
      | cons c rest =>
        have shorter : rest.length < bound := by rw [← size]; exact Nat.lt_succ_self _
        obtain ⟨pieces, tiling⟩ := ih rest.length shorter rest rfl
        exact ⟨[c] :: pieces, .plain unmatched tiling⟩

/-- A text is rewritten by a table: its pieces in order, with the values in place of the tokens. -/
def Rewrites (table : List (String × String)) (text result : String) : Prop :=
  ∃ pieces, Tiling (tokensOf table) text.toList pieces ∧
    result.toList = pieces.flatMap (replacement table)

/-- Substitution gives the one text that a table rewrites a text to. -/
theorem rewrites_iff {table : List (String × String)} (distinct : (table.map (·.1)).Nodup)
    (braced : Braced (tokensOf table)) {text result : String} :
    Rewrites table text result ↔ result = substitute table text := by
  have chars : (substitute table text).toList = substituteChars (letters table) text.toList := by
    simp [substitute, letters]
  constructor
  · rintro ⟨pieces, tiling, spelled⟩
    rw [← String.toList_inj, spelled, chars, substituteChars_of_tiling distinct braced tiling]
  · rintro rfl
    obtain ⟨pieces, tiling⟩ := exists_tiling braced.filled text.toList
    exact ⟨pieces, tiling, by rw [chars, substituteChars_of_tiling distinct braced tiling]⟩

/-- The order of a table does not matter for substitution. -/
theorem substitute_perm {table other : List (String × String)} (distinct : (table.map (·.1)).Nodup)
    (braced : Braced (tokensOf table)) (permuted : other.Perm table) (text : String) :
    substitute other text = substitute table text := by
  -- The longest token at a place is the same one, and so is the value beside it.
  obtain ⟨pieces, tiling, spelled⟩ := (rewrites_iff distinct braced).mpr (rfl : substitute table text = _)
  have tokens : (tokensOf other).Perm (tokensOf table) := permuted.map _
  have same : replacement other = replacement table := by
    funext piece
    simp only [replacement, Keyed.lookup_perm distinct permuted]
  refine ((rewrites_iff ((permuted.map _).nodup_iff.mpr distinct) ?_).mp ⟨pieces, tiling.of_perm tokens, ?_⟩).symm
  · exact fun token member => braced token (tokens.mem_iff.mp member)
  · rw [same, spelled]

/-- The tokens of a table are its first components as characters. -/
private theorem tokensOf_eq (table : List (String × String)) :
    tokensOf table = (table.map (·.1)).map String.toList := by
  simp [tokensOf]

/-- Replacing every token by itself changes nothing. -/
private theorem flatMap_replacement_self {table : List (String × String)}
    (same : ∀ entry ∈ table, entry.1 = entry.2) (pieces : List (List Char)) :
    pieces.flatMap (replacement table) = pieces.flatten := by
  have kept : replacement table = id := by
    funext piece
    unfold replacement
    split
    · rename_i value found
      have equal : String.ofList piece = value := same _ (Keyed.mem_of_lookup found)
      rw [← equal, String.toList_ofList, id]
    · rfl
  rw [List.flatMap_def, kept, List.map_id]

/-- Substitution rewrites the one tiling of a text by longest tokens.

The pieces depend on the text and the tokens alone, so no value that was put in is looked at
again, and neither the values nor the order of the table move a piece. -/
theorem substitute_tiling (table : List (String × String)) (text : String)
    (distinct : (table.map (·.1)).Nodup)
    (braced : ∀ entry ∈ table, entry.1.toList.head? = some '{') :
    ∃ pieces, (∀ others, Tiling (tokensOf table) text.toList others ↔ others = pieces) ∧
      pieces.flatten = text.toList ∧
      (∀ piece ∈ pieces,
        (∃ entry ∈ table, piece = entry.1.toList ∧ replacement table piece = entry.2.toList) ∨
          ∃ c, piece = [c] ∧ replacement table piece = [c]) ∧
      (substitute table text).toList = pieces.flatMap (replacement table) ∧
      (∀ other : List (String × String), other.map (·.1) = table.map (·.1) →
        (substitute other text).toList = pieces.flatMap (replacement other)) ∧
      substitute (table.map fun entry => (entry.1, entry.1)) text = text ∧
      ∀ other : List (String × String), other.Perm table →
        substitute other text = substitute table text := by
  have openings : Braced (tokensOf table) := by
    intro token member
    obtain ⟨entry, listed, rfl⟩ := List.mem_map.mp member
    exact braced entry listed
  obtain ⟨pieces, tiling⟩ := exists_tiling openings.filled text.toList
  -- Whatever the values, a table of these tokens is read along the same pieces.
  have along : ∀ other : List (String × String), (other.map (·.1)).Perm (table.map (·.1)) →
      (substitute other text).toList = pieces.flatMap (replacement other) := by
    intro other permuted
    have tokens : (tokensOf other).Perm (tokensOf table) := by
      simpa only [tokensOf_eq] using permuted.map String.toList
    have apart : (other.map (·.1)).Nodup := permuted.nodup_iff.mpr distinct
    have opened : Braced (tokensOf other) :=
      fun token member => openings token (tokens.mem_iff.mp member)
    have rewritten : Rewrites other text (String.ofList (pieces.flatMap (replacement other))) :=
      ⟨pieces, tiling.of_perm tokens, String.toList_ofList⟩
    rw [← (rewrites_iff apart opened).mp rewritten, String.toList_ofList]
  refine ⟨pieces, fun others => ⟨tiling.unique openings.filled, fun same => same ▸ tiling⟩,
    tiling.flatten, ?_, along table (.refl _), fun other same => along other (same ▸ .refl _), ?_, ?_⟩
  · intro piece member
    rcases tiling.piece member with isToken | ⟨c, rfl, plain⟩
    · obtain ⟨entry, listed, rfl⟩ := List.mem_map.mp isToken
      exact .inl ⟨entry, listed, rfl, replacement_token distinct listed⟩
    · exact .inr ⟨c, rfl, replacement_plain plain⟩
  · rw [← String.toList_inj, along _ (by simp [Function.comp_def]), ← tiling.flatten]
    refine flatMap_replacement_self ?_ pieces
    rintro entry member
    obtain ⟨owner, _, rfl⟩ := List.mem_map.mp member
    rfl
  · intro other permuted
    rw [← String.toList_inj, along other (permuted.map _), along table (.refl _)]
    -- With distinct tokens, looking up does not depend on the order either.
    have same : replacement other = replacement table := by
      funext piece
      simp only [replacement, Keyed.lookup_perm distinct permuted]
    rw [same]

/-- A lone brace, a token that begins another one, and a value that spells a token. -/
theorem substitute_tiling_overlapping :
    let table := [("\x7ba\x7d", "1"), ("\x7ba\x7dx", "\x7ba\x7d")]
    let text := "\x7b\x7ba\x7dx\x7ba\x7d"
    (table.map (·.1)).Nodup ∧ (∀ entry ∈ table, entry.1.toList.head? = some '{') ∧
      substitute table text = "\x7b\x7ba\x7d1" ∧
      ∃ pieces, (∀ others, Tiling (tokensOf table) text.toList others ↔ others = pieces) ∧
        (substitute table text).toList = pieces.flatMap (replacement table) := by
  intro table text
  have distinct : (table.map (·.1)).Nodup := by decide
  have braced : ∀ entry ∈ table, entry.1.toList.head? = some '{' := by decide
  obtain ⟨pieces, only, _, _, spelled, _⟩ := substitute_tiling table text distinct braced
  exact ⟨distinct, braced, by decide +kernel, pieces, only, spelled⟩

end Placard.Template

import Mathlib.Algebra.Order.BigOperators.Group.List
import Mathlib.Algebra.Order.Ring.Nat
import Placard.Proofs.Template.Tiling

/-! What values put into a text do to it: how long it becomes, and which parts come to stand in it. -/

namespace Placard.Template

/-- A value could take part in spelling a tag: one is inside the other, or goes on in the other. -/
def Meets (tag value : List Char) : Prop :=
  -- An empty value is inside every tag; it lets the texts on its two sides spell one.
  value <:+: tag ∨ tag <:+: value ∨ (∃ part ∈ tag.inits, part ≠ [] ∧ part <:+ value) ∨
    ∃ part ∈ tag.tails, part ≠ [] ∧ part <+: value

instance (tag value : List Char) : Decidable (Meets tag value) :=
  inferInstanceAs (Decidable (_ ∨ _ ∨ _ ∨ _))

/-- A part stands in a text by itself: it is made of pieces that are not tokens. -/
def Plainly (tokens : List (List Char)) (text part : List Char) : Prop :=
  ∃ front middle back, Tiling tokens text (front ++ middle ++ back) ∧
    (∀ piece ∈ middle, piece ∉ tokens) ∧ middle.flatten = part

/-- A token that stands in a text is not missed: one of the pieces of the text is a token. -/
theorem Tiling.exists_token {tokens : List (List Char)} (filled : [] ∉ tokens) {text : List Char}
    {pieces : List (List Char)} (tiling : Tiling tokens text pieces) {token : List Char}
    (member : token ∈ tokens) (inside : token <:+: text) : ∃ piece ∈ pieces, piece ∈ tokens := by
  -- Along the tiling, the token comes nearer until a piece is cut off as a token.
  induction tiling with
  | done => exact absurd (List.infix_nil.mp inside ▸ member) filled
  | token longest _ _ => exact ⟨_, List.mem_cons_self, longest.1⟩
  | plain unmatched _ ih =>
    rcases List.infix_cons_iff.mp inside with begins | later
    · exact absurd begins (unmatched token member)
    · obtain ⟨piece, among, isToken⟩ := ih later
      exact ⟨piece, List.mem_cons_of_mem _ among, isToken⟩

/-- A piece of a tiling is a part of the text. -/
theorem Tiling.piece_infix {tokens : List (List Char)} {text : List Char} {pieces : List (List Char)}
    (tiling : Tiling tokens text pieces) {piece : List Char} (among : piece ∈ pieces) : piece <:+: text :=
  tiling.flatten ▸ List.infix_of_mem_flatten among

/-- A text becomes shorter when a token stands in it and every token in it is longer than its value. -/
theorem length_substitute_lt {table : List (String × String)} (distinct : (table.map (·.1)).Nodup)
    (braced : Braced (tokensOf table)) {text : String}
    (shorter : ∀ entry ∈ table, entry.1.toList <:+: text.toList →
      entry.2.toList.length < entry.1.toList.length)
    {token : List Char} (member : token ∈ tokensOf table) (inside : token <:+: text.toList) :
    (substitute table text).toList.length < text.toList.length := by
  obtain ⟨pieces, tiling, spelled⟩ := (rewrites_iff distinct braced).mpr (rfl : substitute table text = _)
  obtain ⟨first, among, isToken⟩ := tiling.exists_token braced.filled member inside
  have less : ∀ piece ∈ pieces, piece ∈ tokensOf table →
      (replacement table piece).length < piece.length := by
    intro piece among isToken
    obtain ⟨entry, listed, rfl⟩ := List.mem_map.mp isToken
    rw [replacement_token distinct listed]
    exact shorter entry listed (tiling.piece_infix among)
  rw [spelled, ← tiling.flatten, List.length_flatMap, List.length_flatten]
  -- Piece by piece, a token gives way to something shorter and any other piece stays.
  refine List.sum_lt_sum _ _ (fun piece among => ?_) ⟨first, among, less first among isToken⟩
  by_cases listed : piece ∈ tokensOf table
  · exact (less piece among listed).le
  · rw [replacement_plain listed]

/-! ### Parts of a text with values in it -/

/-- Along any tiling of a text, substitution puts the values in. -/
theorem toList_substitute {table : List (String × String)} (distinct : (table.map (·.1)).Nodup)
    (braced : Braced (tokensOf table)) {text : String} {pieces : List (List Char)}
    (tiling : Tiling (tokensOf table) text.toList pieces) :
    (substitute table text).toList = pieces.flatMap (replacement table) := by
  rw [← (rewrites_iff distinct braced).mp ⟨pieces, tiling, String.toList_ofList⟩, String.toList_ofList]

/-- What stands in a text by itself is still there when values are put in, whatever they are. -/
theorem Plainly.infix_substitute {table : List (String × String)}
    (distinct : (table.map (·.1)).Nodup) (braced : Braced (tokensOf table)) {text : String}
    {part : List Char} (plainly : Plainly (tokensOf table) text.toList part) :
    part <:+: (substitute table text).toList := by
  obtain ⟨front, middle, back, tiling, untouched, rfl⟩ := plainly
  have kept : middle.flatMap (replacement table) = middle.flatten := by
    rw [List.flatMap_def, List.map_congr_left fun piece among => replacement_plain (untouched piece among),
      List.map_id']
  rw [toList_substitute distinct braced tiling, List.flatMap_append, List.flatMap_append, kept]
  exact List.infix_append _ _ _

section Pieces

variable {tokens pieces : List (List Char)} {value : List Char → List Char} {tag : List Char}

/-- The end of a tag with which a text begins is made of untouched pieces, unless a value meets the tag. -/
theorem middle_of_prefix
    (kept : ∀ piece ∈ pieces, piece ∈ tokens ∨ (∃ c, piece = [c]) ∧ value piece = piece)
    (apart : ∀ piece ∈ pieces, piece ∈ tokens → ¬ Meets tag (value piece))
    {part : List Char} (ends : part <:+ tag) (begins : part <+: pieces.flatMap value) :
    ∃ middle back, pieces = middle ++ back ∧ (∀ piece ∈ middle, piece ∉ tokens) ∧
      middle.flatten = part := by
  -- The part is used up character by character; a token would let its value meet the tag.
  induction pieces generalizing part with
  | nil => exact ⟨[], [], rfl, by simp, (List.prefix_nil.mp begins).symm⟩
  | cons piece others ih =>
    cases part with
    | nil => exact ⟨[], piece :: others, rfl, by simp, rfl⟩
    | cons c rest =>
      rw [List.flatMap_cons] at begins
      have untouched : piece ∉ tokens := by
        intro isToken
        refine apart piece List.mem_cons_self isToken ?_
        rcases List.prefix_or_prefix_of_prefix begins (List.prefix_append _ _) with within | whole
        · exact .inr (.inr (.inr ⟨c :: rest, (List.mem_tails _ _).mpr ends, by simp, within⟩))
        · exact .inl (whole.isInfix.trans ends.isInfix)
      obtain ⟨⟨d, rfl⟩, same⟩ := (kept piece List.mem_cons_self).resolve_left untouched
      rw [same, List.singleton_append, List.cons_prefix_cons] at begins
      obtain ⟨rfl, begins⟩ := begins
      obtain ⟨middle, back, rfl, plain, spelled⟩ := ih
        (fun piece among => kept piece (List.mem_cons_of_mem _ among))
        (fun piece among => apart piece (List.mem_cons_of_mem _ among))
        ((List.suffix_cons c rest).trans ends) begins
      refine ⟨[c] :: middle, back, rfl, ?_, by simp [spelled]⟩
      simpa [untouched] using plain

/-- A tag that stands in a text with values is made of untouched pieces, unless a value meets it. -/
theorem middle_of_infix (filled : tag ≠ [])
    (kept : ∀ piece ∈ pieces, piece ∈ tokens ∨ (∃ c, piece = [c]) ∧ value piece = piece)
    (apart : ∀ piece ∈ pieces, piece ∈ tokens → ¬ Meets tag (value piece))
    (inside : tag <:+: pieces.flatMap value) :
    ∃ front middle back, pieces = front ++ middle ++ back ∧ (∀ piece ∈ middle, piece ∉ tokens) ∧
      middle.flatten = tag := by
  induction pieces with
  | nil => exact absurd (List.infix_nil.mp inside) filled
  | cons piece others ih =>
    -- A tag that stands behind this piece is found among the others.
    have later (behind : tag <:+: others.flatMap value) : ∃ front middle back,
        piece :: others = front ++ middle ++ back ∧ (∀ piece ∈ middle, piece ∉ tokens) ∧
          middle.flatten = tag := by
      obtain ⟨front, middle, back, rfl, plain, spelled⟩ := ih
        (fun piece among => kept piece (List.mem_cons_of_mem _ among))
        (fun piece among => apart piece (List.mem_cons_of_mem _ among)) behind
      exact ⟨piece :: front, middle, back, rfl, plain, spelled⟩
    rw [List.flatMap_cons] at inside
    rcases kept piece List.mem_cons_self with isToken | ⟨⟨c, rfl⟩, same⟩
    · -- A tag with a part in the value of a token would meet the value.
      have separate := apart piece List.mem_cons_self isToken
      rcases List.infix_append_iff.mp inside with within | behind | ⟨first, second, parted, ends, begins⟩
      · exact absurd (.inr (.inl within)) separate
      · exact later behind
      · cases first with
        | nil =>
          rw [List.nil_append] at parted
          exact later (parted ▸ begins.isInfix)
        | cons c rest =>
          have begun : c :: rest ∈ tag.inits := (List.mem_inits _ _).mpr (parted ▸ List.prefix_append _ _)
          exact absurd (.inr (.inr (.inl ⟨c :: rest, begun, by simp, ends⟩))) separate
    · -- A tag that begins with an untouched character goes on over the pieces behind it.
      rw [same, List.singleton_append] at inside
      rcases List.infix_cons_iff.mp inside with begins | behind
      · have here : tag <+: ([c] :: others).flatMap value := by
          rwa [List.flatMap_cons, same, List.singleton_append]
        obtain ⟨middle, back, parted, plain, spelled⟩ :=
          middle_of_prefix kept apart (List.suffix_refl tag) here
        exact ⟨[], middle, back, parted, plain, spelled⟩
      · exact later behind

end Pieces

/-- A tag stands in a text with values exactly where it stands in the text by itself, unless a value
of a token in the text meets it. -/
theorem infix_substitute_iff {table : List (String × String)} (distinct : (table.map (·.1)).Nodup)
    (braced : Braced (tokensOf table)) {text : String} {tag : List Char} (filled : tag ≠ [])
    (apart : ∀ entry ∈ table, entry.1.toList <:+: text.toList → ¬ Meets tag entry.2.toList) :
    tag <:+: (substitute table text).toList ↔ Plainly (tokensOf table) text.toList tag := by
  refine ⟨fun inside => ?_, fun plainly => plainly.infix_substitute distinct braced⟩
  obtain ⟨pieces, tiling, spelled⟩ := (rewrites_iff distinct braced).mpr (rfl : substitute table text = _)
  rw [spelled] at inside
  have kept : ∀ piece ∈ pieces, piece ∈ tokensOf table ∨
      (∃ c, piece = [c]) ∧ replacement table piece = piece := by
    intro piece among
    rcases tiling.piece among with isToken | ⟨c, rfl, plain⟩
    · exact .inl isToken
    · exact .inr ⟨⟨c, rfl⟩, replacement_plain plain⟩
  have separate : ∀ piece ∈ pieces, piece ∈ tokensOf table → ¬ Meets tag (replacement table piece) := by
    intro piece among isToken
    obtain ⟨entry, listed, rfl⟩ := List.mem_map.mp isToken
    rw [replacement_token distinct listed]
    exact apart entry listed (tiling.piece_infix among)
  obtain ⟨front, middle, back, rfl, plain, whole⟩ := middle_of_infix filled kept separate inside
  exact ⟨front, middle, back, tiling, plain, whole⟩

end Placard.Template

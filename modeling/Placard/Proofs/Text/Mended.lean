import Mathlib.Data.List.Basic
import Mathlib.Data.List.TakeWhile
import Placard.Proofs.Text.Utf8

/-! Any bytes at all, decoded: the texts among them stay as they are, and what stands between them is replaced. -/

namespace Placard.Text

/-! ### Single characters -/

/-- A character is encoded by a byte that continues nothing, and by continuations behind it. -/
theorem encode_head (c : Char) : ∃ first others, String.utf8EncodeChar c = first :: others ∧
    ¬Continues first ∧ ∀ byte ∈ others, Continues byte := by
  have scalar : c.toNat < 0xD800 ∨ 0xDFFF < c.toNat ∧ c.toNat < 0x110000 := c.valid
  fun_cases String.utf8EncodeChar c with
  | case1 value one =>
    have code : value = c.toNat := rfl
    refine ⟨_, _, rfl, ?_, by simp⟩
    rw [Continues, UInt8.toNat_ofNat', Nat.mod_eq_of_lt (by omega)]
    omega
  | case2 value _ two =>
    have lead := toNat_marked (value / 64) 0x20 0xc0 (by decide)
    refine ⟨_, _, rfl, ?_, ?_⟩
    · rw [Continues, lead]
      omega
    · intro byte member
      simp only [List.mem_cons, List.not_mem_nil, or_false] at member
      obtain rfl := member
      exact continues_marked _
  | case3 value _ _ three =>
    have lead := toNat_marked (value / 4096) 0x10 0xe0 (by decide)
    refine ⟨_, _, rfl, ?_, ?_⟩
    · rw [Continues, lead]
      omega
    · intro byte member
      simp only [List.mem_cons, List.not_mem_nil, or_false] at member
      obtain rfl | rfl := member <;> exact continues_marked _
  | case4 value _ _ four =>
    have lead := toNat_marked (value / 262144) 0x08 0xf0 (by decide)
    refine ⟨_, _, rfl, ?_, ?_⟩
    · rw [Continues, lead]
      omega
    · intro byte member
      simp only [List.mem_cons, List.not_mem_nil, or_false] at member
      obtain rfl | rfl | rfl := member <;> exact continues_marked _

/-- What stands behind an encoding is told apart from it. -/
theorem encode_cancel {c d : Char} {rest rest' : List UInt8}
    (same : String.utf8EncodeChar c ++ rest = String.utf8EncodeChar d ++ rest') : c = d ∧ rest = rest' := by
  obtain ⟨first, others, encoded, scanned⟩ := scan_encoded c rest
  obtain ⟨first', others', encoded', scanned'⟩ := scan_encoded d rest'
  rw [encoded, encoded', List.cons_append, List.cons_append] at same
  obtain ⟨rfl, tail⟩ := List.cons.inj same
  rw [tail, scanned'] at scanned
  obtain rfl : d = c := Option.some.inj (congrArg Prod.fst scanned)
  refine ⟨rfl, ?_⟩
  rw [List.cons.inj (encoded.symm.trans encoded') |>.2] at tail
  exact List.append_cancel_left tail

/-- A scalar value is the value of its character. -/
theorem toNat_ofNat {value : Nat} (scalar : value < 0xD800 ∨ 0xDFFF < value ∧ value < 0x110000) :
    (Char.ofNat value).val.toNat = value := by
  rw [Char.ofNat, dif_pos scalar]
  rfl

/-- A byte is made of the low bits of a value under a mark. -/
theorem byte_marked {value size mark : Nat} (byte : UInt8) (room : 0 < size ∧ size + mark ≤ 256)
    (same : value % size + mark = byte.toNat) : UInt8.ofNat (value % size + mark) = byte :=
  UInt8.toNat_inj.mp ((toNat_marked value size mark room).trans same)

/-- Two bytes encode the character that is made of them. -/
theorem encode_two {first second : UInt8} (lead : 0xC2 ≤ first.toNat ∧ first.toNat < 0xE0)
    (continues : Continues second) :
    String.utf8EncodeChar (.ofNat ((first.toNat - 0xC0) * 64 + second.toNat % 64)) = [first, second] := by
  obtain ⟨low, high⟩ := continues
  have value := @toNat_ofNat ((first.toNat - 0xC0) * 64 + second.toNat % 64) (by omega)
  simp only [String.utf8EncodeChar, value]
  rw [if_neg (by omega), if_pos (by omega), byte_marked first (by decide) (by omega),
    byte_marked second (by decide) (by omega)]

/-- Three bytes encode the character that is made of them, unless they are overlong or half of a pair. -/
theorem encode_three {first second third : UInt8} (lead : 0xE0 ≤ first.toNat ∧ first.toNat < 0xF0)
    (continues : Continues second ∧ Continues third) (shortest : first.toNat = 0xE0 → 0xA0 ≤ second.toNat)
    (whole : first.toNat = 0xED → second.toNat ≤ 0x9F) :
    String.utf8EncodeChar
      (.ofNat (((first.toNat - 0xE0) * 64 + second.toNat % 64) * 64 + third.toNat % 64)) =
        [first, second, third] := by
  obtain ⟨⟨low, high⟩, low', high'⟩ := continues
  have value := @toNat_ofNat (((first.toNat - 0xE0) * 64 + second.toNat % 64) * 64 + third.toNat % 64) (by omega)
  simp only [String.utf8EncodeChar, value]
  rw [if_neg (by omega), if_neg (by omega), if_pos (by omega), byte_marked first (by decide) (by omega),
    byte_marked second (by decide) (by omega), byte_marked third (by decide) (by omega)]

/-- Four bytes encode the character that is made of them, unless they are overlong or beyond the last scalar. -/
theorem encode_four {first second third fourth : UInt8} (lead : 0xF0 ≤ first.toNat ∧ first.toNat ≤ 0xF4)
    (continues : Continues second ∧ Continues third ∧ Continues fourth)
    (shortest : first.toNat = 0xF0 → 0x90 ≤ second.toNat) (within : first.toNat = 0xF4 → second.toNat ≤ 0x8F) :
    String.utf8EncodeChar
      (.ofNat ((((first.toNat - 0xF0) * 64 + second.toNat % 64) * 64 + third.toNat % 64) * 64 +
        fourth.toNat % 64)) = [first, second, third, fourth] := by
  obtain ⟨⟨low, high⟩, ⟨low', high'⟩, low'', high''⟩ := continues
  have value := @toNat_ofNat ((((first.toNat - 0xF0) * 64 + second.toNat % 64) * 64 + third.toNat % 64) * 64 +
    fourth.toNat % 64) (by omega)
  simp only [String.utf8EncodeChar, value]
  rw [if_neg (by omega), if_neg (by omega), if_neg (by omega), byte_marked first (by decide) (by omega),
    byte_marked second (by decide) (by omega), byte_marked third (by decide) (by omega), byte_marked fourth (by decide) (by omega)]

/-! ### What a first byte begins -/

/-- What comes of bytes behind a first one: a second byte within its bounds, and as many continuations as are
wanted behind it, or else a broken run. -/
def longer (rest : List UInt8) (low high more head : Nat) : Option Char × Nat :=
  match rest with
  | second :: others =>
    if !isContinuation low high second then (none, 0)
    else
      let following := (others.take more).takeWhile (isContinuation 0x80 0xBF)
      if following.length == more then
        (some (assemble head (second :: following)), more + 1)
      else (none, following.length + 1)
  | [] => (none, 0)

/-- The first byte sets the bounds of the second one, and the number of bytes behind that. -/
theorem scan_eq (first : UInt8) (rest : List UInt8) : scan first rest =
    if first.toNat < 0x80 then (some (.ofNat first.toNat), 0)
    else if first.toNat < 0xC2 then (none, 0)
    else if first.toNat < 0xE0 then longer rest 0x80 0xBF 0 (first.toNat - 0xC0)
    else if first.toNat == 0xE0 then longer rest 0xA0 0xBF 1 0
    else if first.toNat == 0xED then longer rest 0x80 0x9F 1 13
    else if first.toNat < 0xF0 then longer rest 0x80 0xBF 1 (first.toNat - 0xE0)
    else if first.toNat == 0xF0 then longer rest 0x90 0xBF 2 0
    else if first.toNat < 0xF4 then longer rest 0x80 0xBF 2 (first.toNat - 0xF0)
    else if first.toNat == 0xF4 then longer rest 0x80 0x8F 2 4
    else (none, 0) := rfl

/-- The bytes that a first byte uses up: continuations, with which it encodes what was found. -/
structure Scanned (first : UInt8) (rest : List UInt8) (found : Option Char × Nat) : Prop where
  within : found.2 ≤ rest.length
  continues : ∀ byte ∈ rest.take found.2, Continues byte
  encodes : ∀ c, found.1 = some c → String.utf8EncodeChar c = first :: rest.take found.2

/-- A first byte may begin nothing. -/
theorem Scanned.nothing (first : UInt8) (rest : List UInt8) : Scanned first rest (none, 0) :=
  ⟨Nat.zero_le _, by simp, by simp⟩

/-- The bounds of a continuation are met by continuations only. -/
theorem continues_of_isContinuation {low high : Nat} {byte : UInt8} (bounds : 0x80 ≤ low ∧ high ≤ 0xBF)
    (within : isContinuation low high byte = true) : Continues byte := by
  simp only [isContinuation, Bool.and_eq_true, decide_eq_true_eq] at within
  exact ⟨Nat.le_trans bounds.1 within.1, Nat.le_trans within.2 bounds.2⟩

/-- Where the bytes that are wanted encode what they are put together to, a first byte uses up no others. -/
theorem longer_scanned {first : UInt8} {low high more head : Nat} (rest : List UInt8)
    (bounds : 0x80 ≤ low ∧ high ≤ 0xBF)
    (encodes : ∀ second following, isContinuation low high second = true → following.length = more →
      (∀ byte ∈ following, Continues byte) →
      String.utf8EncodeChar (assemble head (second :: following)) = first :: second :: following) :
    Scanned first rest (longer rest low high more head) := by
  unfold longer
  cases rest with
  | nil => exact .nothing first []
  | cons second others =>
    dsimp only
    split
    · exact .nothing first _
    · rename_i second_
      have begins : isContinuation low high second = true := by simpa using second_
      -- What is taken is the front of what stands there, as far as it continues.
      have front : (others.take more).takeWhile (isContinuation 0x80 0xBF) =
          others.take ((others.take more).takeWhile (isContinuation 0x80 0xBF)).length := by
        have inside := (List.takeWhile_prefix (isContinuation 0x80 0xBF)).trans (List.take_prefix more others)
        exact List.prefix_iff_eq_take.mp inside
      have all : ∀ byte ∈ (others.take more).takeWhile (isContinuation 0x80 0xBF), Continues byte :=
        fun byte member =>
          @continues_of_isContinuation 0x80 0xBF byte (by decide) (List.mem_takeWhile_imp member)
      generalize (others.take more).takeWhile (isContinuation 0x80 0xBF) = following at front all ⊢
      have short : following.length ≤ others.length := by
        rw [front]
        exact List.length_take_le' _ _
      have used : (second :: others).take (following.length + 1) = second :: following := by
        rw [List.take_succ_cons, ← front]
      have continues : ∀ byte ∈ (second :: others).take (following.length + 1), Continues byte := by
        rw [used]
        exact List.forall_mem_cons.mpr ⟨continues_of_isContinuation bounds begins, all⟩
      split
      · rename_i full
        obtain rfl : following.length = more := by simpa using full
        refine ⟨Nat.succ_le_succ short, continues, ?_⟩
        intro c found
        obtain rfl := Option.some.inj found
        rw [used]
        exact encodes second following begins rfl all
      · exact ⟨Nat.succ_le_succ short, continues, by simp⟩

/-- The bounds of a continuation, as numbers. -/
theorem isContinuation_iff {low high : Nat} {byte : UInt8} :
    isContinuation low high byte = true ↔ low ≤ byte.toNat ∧ byte.toNat ≤ high := by
  rw [isContinuation, Bool.and_eq_true, decide_eq_true_iff, decide_eq_true_iff]

/-- A first byte uses up only bytes that continue it, and what is found is what they encode. -/
theorem scan_scanned (first : UInt8) (rest : List UInt8) : Scanned first rest (scan first rest) := by
  rw [scan_eq]
  split
  · -- A byte below the first mark is a character of its own.
    rename_i single
    refine ⟨Nat.zero_le _, by simp, ?_⟩
    intro c found
    obtain rfl := Option.some.inj found
    have value := @toNat_ofNat first.toNat (by omega)
    simp only [String.utf8EncodeChar, value]
    rw [if_pos (by omega), UInt8.ofNat_toNat, List.take_zero]
  split
  · exact .nothing first rest
  split
  · refine longer_scanned rest (by decide) ?_
    intro second following within size all
    obtain rfl := List.length_eq_zero_iff.mp size
    have bounds := isContinuation_iff.mp within
    exact encode_two (by omega) bounds
  have three {low high head : Nat} (lead : 0xE0 ≤ first.toNat ∧ first.toNat < 0xF0)
      (head_ : head = first.toNat - 0xE0) (bounds : 0x80 ≤ low ∧ high ≤ 0xBF)
      (shortest : first.toNat = 0xE0 → 0xA0 ≤ low) (whole : first.toNat = 0xED → high ≤ 0x9F) :
      Scanned first rest (longer rest low high 1 head) := by
    refine longer_scanned rest bounds ?_
    intro second following within size all
    obtain ⟨third, rfl⟩ := List.length_eq_one_iff.mp size
    have begins := isContinuation_iff.mp within
    rw [assemble, head_]
    exact encode_three lead ⟨continues_of_isContinuation bounds within, all third (by simp)⟩
      (fun smallest => Nat.le_trans (shortest smallest) begins.1)
      (fun halves => Nat.le_trans begins.2 (whole halves))
  have four {low high head : Nat} (lead : 0xF0 ≤ first.toNat ∧ first.toNat ≤ 0xF4)
      (head_ : head = first.toNat - 0xF0) (bounds : 0x80 ≤ low ∧ high ≤ 0xBF)
      (shortest : first.toNat = 0xF0 → 0x90 ≤ low) (below : first.toNat = 0xF4 → high ≤ 0x8F) :
      Scanned first rest (longer rest low high 2 head) := by
    refine longer_scanned rest bounds ?_
    intro second following within size all
    obtain ⟨third, fourth, rfl⟩ := List.length_eq_two.mp size
    have begins := isContinuation_iff.mp within
    rw [assemble, head_]
    exact encode_four lead
      ⟨continues_of_isContinuation bounds within, all third (by simp), all fourth (by simp)⟩
      (fun smallest => Nat.le_trans (shortest smallest) begins.1)
      (fun largest => Nat.le_trans begins.2 (below largest))
  simp only [beq_iff_eq]
  -- Some first bytes narrow the bounds of the second one.
  split
  · exact three (by omega) (by omega) (by decide) (by omega) (by omega)
  split
  · exact three (by omega) (by omega) (by decide) (by omega) (by omega)
  split
  · exact three (by omega) (by omega) (by decide) (by omega) (by omega)
  split
  · exact four (by omega) (by omega) (by decide) (by omega) (by omega)
  split
  · exact four (by omega) (by omega) (by decide) (by omega) (by omega)
  split
  · exact four (by omega) (by omega) (by decide) (by omega) (by omega)
  · exact .nothing first rest

/-! ### Texts among bytes -/

/-- Only the empty text has no bytes. -/
@[simp] theorem bytes_eq_nil_iff {text : List Char} : bytes text = [] ↔ text = [] := by
  cases text with
  | nil => simp [bytes]
  | cons c text =>
    obtain ⟨first, others, encoded, -⟩ := encode_head c
    simp [encoded]

/-- Behind its first bytes, an encoding holds continuations only. -/
theorem continues_of_encode {c : Char} {front behind : List UInt8}
    (encoded : String.utf8EncodeChar c = front ++ behind) (begun : front ≠ []) :
    ∀ byte ∈ behind, Continues byte := by
  obtain ⟨first, others, head, -, all⟩ := encode_head c
  obtain ⟨byte, front, rfl⟩ := List.exists_cons_of_ne_nil begun
  rw [head, List.cons_append] at encoded
  obtain ⟨-, rfl⟩ := List.cons.inj encoded
  exact fun byte member => all byte (List.mem_append_right front member)

/-- Bytes do not begin within a character: what stands there continues nothing. -/
def Leads (raw : List UInt8) : Prop := ∀ byte ∈ raw.head?, ¬Continues byte

/-- An encoding begins a character, whatever stands behind it. -/
theorem leads_encode (c : Char) (after : List UInt8) : Leads (String.utf8EncodeChar c ++ after) := by
  obtain ⟨first, others, encoded, starts, -⟩ := encode_head c
  simpa [Leads, encoded] using starts

/-- So does a text. -/
theorem leads_bytes {text : List Char} (some_ : text ≠ []) (after : List UInt8) : Leads (bytes text ++ after) := by
  obtain ⟨c, text, rfl⟩ := List.exists_cons_of_ne_nil some_
  rw [bytes_cons, List.append_assoc]
  exact leads_encode c _

/-- Where a character begins, no other one is going on. -/
theorem encode_front {c : Char} {front behind after : List UInt8}
    (encoded : String.utf8EncodeChar c = front ++ behind) (begun : front ≠ []) (leads : Leads (behind ++ after)) :
    behind = [] := by
  cases behind with
  | nil => rfl
  | cons byte behind =>
    have continues := continues_of_encode encoded begun byte List.mem_cons_self
    exact absurd continues (leads byte (by simp))

/-- Bytes with a character somewhere in them, cut in two: the character stands in one of the two halves, as it
does not begin within another one and the second half begins none that it ends. -/
theorem parted_front {c d : Char} {before after tail : List UInt8} (begun : before ≠ [])
    (same : String.utf8EncodeChar d ++ tail = before ++ (String.utf8EncodeChar c ++ after)) :
    ∃ rest, before = String.utf8EncodeChar d ++ rest ∧ tail = rest ++ (String.utf8EncodeChar c ++ after) := by
  obtain ⟨rest, here, there⟩ | ⟨rest, here, there⟩ := List.append_eq_append_iff.mp same
  · exact ⟨rest, here, there⟩
  · -- The character would begin within the other one.
    have leads : Leads (rest ++ tail) := there ▸ leads_encode c after
    obtain rfl := encode_front here begun leads
    exact ⟨[], by simpa using here.symm, by simpa using there.symm⟩

/-- A character that is encoded behind a text, or within it, stands between its characters. -/
theorem bytes_parted {text : List Char} {c : Char} {tail after : List UInt8} : ∀ {before : List UInt8},
    bytes text ++ tail = before ++ (String.utf8EncodeChar c ++ after) →
    (∃ front behind, text = front ++ c :: behind ∧ before = bytes front ∧ after = bytes behind ++ tail) ∨
      ∃ rest, before = bytes text ++ rest ∧ tail = rest ++ (String.utf8EncodeChar c ++ after) := by
  induction text with
  | nil =>
    intro before same
    exact .inr ⟨before, rfl, same⟩
  | cons d text ih =>
    intro before same
    rw [bytes_cons, List.append_assoc] at same
    by_cases begun : before = []
    · rw [begun, List.nil_append] at same
      obtain ⟨rfl, rest⟩ := encode_cancel same
      exact .inl ⟨[], text, rfl, begun, rest.symm⟩
    · obtain ⟨rest, rfl, inside⟩ := parted_front begun same
      obtain ⟨front, behind, rfl, rfl, rfl⟩ | ⟨more, rfl, there⟩ := ih inside
      · exact .inl ⟨d :: front, behind, rfl, (bytes_cons d front).symm, rfl⟩
      · exact .inr ⟨more, by rw [bytes_cons, List.append_assoc], there⟩

/-- No character is encoded anywhere among bytes. -/
def Broken (raw : List UInt8) : Prop :=
  ∀ before c after, raw ≠ before ++ (String.utf8EncodeChar c ++ after)

/-- What stands behind broken bytes is broken too. -/
theorem Broken.behind {front raw : List UInt8} (broken : Broken (front ++ raw)) : Broken raw := by
  intro before c after parted
  exact broken (front ++ before) c after (by rw [parted, List.append_assoc])

/-- A character behind broken bytes stands behind all of them, if no character begins before their end. -/
theorem Broken.parted {raw before after tail : List UInt8} {c : Char} (broken : Broken raw) (leads : Leads tail)
    (same : raw ++ tail = before ++ (String.utf8EncodeChar c ++ after)) :
    ∃ rest, before = raw ++ rest ∧ tail = rest ++ (String.utf8EncodeChar c ++ after) := by
  obtain ⟨rest, here, there⟩ | ⟨rest, here, there⟩ := List.append_eq_append_iff.mp same
  · exact ⟨rest, here, there⟩
  -- The character would begin among the broken bytes, and end there or behind them.
  by_cases none : rest = []
  · subst none
    exact ⟨[], by simpa using here.symm, by simpa using there.symm⟩
  obtain ⟨more, inside, -⟩ | ⟨more, across, behind⟩ := List.append_eq_append_iff.mp there
  · exact absurd (inside ▸ here) (broken before c more)
  · obtain rfl := encode_front across none (behind ▸ leads)
    rw [List.append_nil] at across
    exact absurd here (across ▸ by simpa using broken before c [])

/-- A part of bytes: a text, or bytes that are broken. -/
inductive Part
  | text (letters : List Char)
  | broken (raw : List UInt8)

namespace Part

/-- The bytes of a part. -/
def raw : Part → List UInt8
  | text letters => bytes letters
  | broken raw => raw

/-- A part is a text. -/
def isText : Part → Bool
  | text _ => true
  | broken _ => false

/-- The bytes of parts in a row. -/
def joined (parts : List Part) : List UInt8 := parts.flatMap raw

/-- A part that may stand in front of others: it is not empty, and the next one is of the other kind. -/
structure Fits (part : Part) (others : List Part) : Prop where
  some_ : part.raw ≠ []
  broken : ∀ raw, part = .broken raw → Broken raw
  turns : ∀ other ∈ others.head?, other.isText ≠ part.isText

end Part

open Placard.Text.Part (joined)

/-- Bytes cut into texts and broken bytes by turns, with no part empty. -/
inductive Cut : List Part → Prop
  | nil : Cut []
  | cons {part : Part} {others : List Part} : part.Fits others → Cut others → Cut (part :: others)

@[simp] theorem joined_nil : joined [] = [] := rfl

@[simp] theorem joined_cons (part : Part) (others : List Part) :
    joined (part :: others) = part.raw ++ joined others := List.flatMap_cons

@[simp] theorem joined_append (parts others : List Part) : joined (parts ++ others) = joined parts ++ joined others :=
  List.flatMap_append

namespace Cut

/-- What stands behind some parts is cut too. -/
theorem behind {left right : List Part} (cut : Cut (left ++ right)) : Cut right := by
  induction left with
  | nil => exact cut
  | cons part left ih =>
    cases cut with
    | cons _ others => exact ih others

/-- A part does not begin within a character if it follows on broken bytes, or on nothing. -/
theorem leads {others : List Part} (cut : Cut others) (turns : ∀ other ∈ others.head?, other.isText = true) :
    Leads (joined others) := by
  cases cut with
  | nil => simp [Leads]
  | @cons part others fits rest =>
    cases part with
    | text letters =>
      rw [joined_cons]
      exact leads_bytes (by simpa [Part.raw] using fits.some_) _
    | broken raw => cases turns (.broken raw) rfl

/-- Every character that is encoded among the bytes stands in one of the texts. -/
theorem char_within {parts : List Part} {c : Char} {after : List UInt8} (cut : Cut parts) :
    ∀ {before : List UInt8}, joined parts = before ++ (String.utf8EncodeChar c ++ after) →
      ∃ left front behind right, parts = left ++ .text (front ++ c :: behind) :: right ∧
        before = joined left ++ bytes front ∧ after = bytes behind ++ joined right := by
  induction cut with
  | nil =>
    intro before same
    have none := congrArg List.length same
    obtain ⟨first, others, encoded, -⟩ := encode_head c
    simp [encoded] at none
  | @cons part others fits rest ih =>
    intro before same
    rw [joined_cons] at same
    -- The character stands in the first part if that is a text, or else among the others.
    have deeper {rest : List UInt8} (here : before = part.raw ++ rest)
        (there : joined others = rest ++ (String.utf8EncodeChar c ++ after)) :
        ∃ left front behind right, part :: others = left ++ .text (front ++ c :: behind) :: right ∧
          before = joined left ++ bytes front ∧ after = bytes behind ++ joined right := by
      obtain ⟨left, front, behind, right, rfl, rfl, rfl⟩ := ih there
      exact ⟨part :: left, front, behind, right, rfl, by rw [here, joined_cons, List.append_assoc], rfl⟩
    cases part with
    | text letters =>
      obtain ⟨front, behind, rfl, rfl, rfl⟩ | ⟨more, here, there⟩ := bytes_parted same
      · exact ⟨[], front, behind, others, rfl, rfl, rfl⟩
      · exact deeper here there
    | broken raw =>
      have leads : Leads (joined others) := rest.leads fun other member => by
        have turned := fits.turns other member
        simpa [Part.isText] using turned
      obtain ⟨more, here, there⟩ := (fits.broken raw rfl).parted leads same
      exact deeper here there

/-- Where one part stands, no character begins right behind it unless it is broken. -/
theorem behind_text {letters : List Char} {right : List Part} (cut : Cut (.text letters :: right)) (c : Char)
    (rest : List UInt8) : joined right ≠ String.utf8EncodeChar c ++ rest := by
  intro same
  cases cut with
  | cons fits others =>
    -- The character would stand in a text, which would be the next part.
    obtain ⟨left, front, text, right, rfl, none, -⟩ := @char_within _ c rest others [] same
    obtain ⟨first, second⟩ := List.append_eq_nil_iff.mp none.symm
    cases left with
    | nil => exact fits.turns (.text (front ++ c :: text)) rfl rfl
    | cons part left =>
      obtain ⟨nothing, -⟩ := List.append_eq_nil_iff.mp ((joined_cons part left).symm.trans first)
      cases others with
      | cons fits_ _ => exact fits_.some_ nothing

/-- A text that is encoded where another one begins, with no character behind that, is the front of it. -/
theorem front_of_bytes {text : List Char} {after tail : List UInt8}
    (ends : ∀ c rest, tail ≠ String.utf8EncodeChar c ++ rest) : ∀ {letters : List Char},
    bytes letters ++ tail = bytes text ++ after → ∃ behind, letters = text ++ behind ∧ after = bytes behind ++ tail := by
  induction text with
  | nil =>
    intro letters same
    exact ⟨letters, rfl, same.symm⟩
  | cons c text ih =>
    intro letters same
    rw [bytes_cons, List.append_assoc] at same
    cases letters with
    | nil => exact absurd same (ends c _)
    | cons d letters =>
      rw [bytes_cons, List.append_assoc] at same
      obtain ⟨rfl, rest⟩ := encode_cancel same
      obtain ⟨behind, rfl, rfl⟩ := ih rest
      exact ⟨behind, rfl, rfl⟩

/-- Every text that is encoded among the bytes stands in one of the texts. -/
theorem text_within {parts : List Part} {text : List Char} {before after : List UInt8} (cut : Cut parts)
    (some_ : text ≠ []) (same : joined parts = before ++ (bytes text ++ after)) :
    ∃ left front behind right, parts = left ++ .text (front ++ text ++ behind) :: right ∧
      before = joined left ++ bytes front ∧ after = bytes behind ++ joined right := by
  obtain ⟨c, text, rfl⟩ := List.exists_cons_of_ne_nil some_
  rw [bytes_cons, List.append_assoc] at same
  obtain ⟨left, front, letters, right, rfl, rfl, rest⟩ := cut.char_within same
  obtain ⟨behind, rfl, rfl⟩ := front_of_bytes cut.behind.behind_text rest.symm
  exact ⟨left, front, behind, right, by simp, rfl, rfl⟩

/-- A character in front belongs to the text that follows, if one does. -/
theorem push_char (c : Char) {parts : List Part} (cut : Cut parts) :
    ∃ more, Cut more ∧ joined more = String.utf8EncodeChar c ++ joined parts := by
  have alone {others : List Part} (cut : Cut others) (turns : ∀ other ∈ others.head?, other.isText ≠ true) :
      ∃ more, Cut more ∧ joined more = String.utf8EncodeChar c ++ joined others :=
    ⟨.text [c] :: others, .cons ⟨by simp [Part.raw], by simp, turns⟩ cut, by simp [Part.raw, bytes]⟩
  cases cut with
  | nil => exact alone .nil (by simp)
  | @cons part others fits rest =>
    cases part with
    | text letters =>
      have fits' : (Part.text (c :: letters)).Fits others :=
        ⟨by simp [Part.raw], by simp, fits.turns⟩
      exact ⟨_, .cons fits' rest, by simp [Part.raw]⟩
    | broken raw => exact alone (.cons fits rest) (by simp [Part.isText])

/-- A byte in front that begins no character belongs to the broken bytes that follow, if some do. -/
theorem push_byte {byte : UInt8} {parts : List Part} (cut : Cut parts)
    (none : ∀ c after, byte :: joined parts ≠ String.utf8EncodeChar c ++ after) :
    ∃ more, Cut more ∧ joined more = byte :: joined parts := by
  have broken {raw tail : List UInt8} (behind : Broken raw)
      (none : ∀ c after, byte :: (raw ++ tail) ≠ String.utf8EncodeChar c ++ after) : Broken (byte :: raw) := by
    intro before c after parted
    cases before with
    | nil => exact none c (after ++ tail) (by simpa using congrArg (· ++ tail) parted)
    | cons first before => exact behind before c after (List.cons.inj parted).2
  have alone {others : List Part} (cut : Cut others) (turns : ∀ other ∈ others.head?, other.isText ≠ false)
      (none : ∀ c after, byte :: joined others ≠ String.utf8EncodeChar c ++ after) :
      ∃ more, Cut more ∧ joined more = byte :: joined others := by
    have nothing : Broken [] := by
      intro before c after parted
      obtain ⟨first, rest, encoded, -⟩ := encode_head c
      simp [encoded] at parted
    have fits : (Part.broken [byte]).Fits others := by
      refine ⟨by simp [Part.raw], ?_, turns⟩
      rintro _ ⟨⟩
      exact broken nothing none
    exact ⟨_, .cons fits cut, rfl⟩
  cases cut with
  | nil => exact alone .nil (by simp) none
  | @cons part others fits rest =>
    cases part with
    | text letters => exact alone (.cons fits rest) (by simp [Part.isText]) none
    | broken raw =>
      have fits' : (Part.broken (byte :: raw)).Fits others := by
        refine ⟨by simp [Part.raw], ?_, fits.turns⟩
        rintro _ ⟨⟩
        exact broken (fits.broken raw rfl) none
      exact ⟨_, .cons fits' rest, rfl⟩

/-- All bytes can be cut so. -/
theorem exists_cut (raw : List UInt8) : ∃ parts, Cut parts ∧ joined parts = raw := by
  induction long : raw.length using Nat.strongRecOn generalizing raw with
  | ind size ih =>
    cases raw with
    | nil => exact ⟨[], .nil, rfl⟩
    | cons byte rest =>
      -- Either a character begins with the first byte, or that byte is broken.
      by_cases begins : ∃ c after, byte :: rest = String.utf8EncodeChar c ++ after
      · obtain ⟨c, after, same⟩ := begins
        have shorter : after.length < size := by
          obtain ⟨first, others, encoded, -⟩ := encode_head c
          have sizes := congrArg List.length same
          simp only [encoded, List.length_append, List.length_cons] at sizes long
          omega
        obtain ⟨parts, cut, rfl⟩ := ih _ shorter after rfl
        rw [same]
        exact cut.push_char c
      · obtain ⟨parts, cut, rfl⟩ := ih _ (by simp at long; omega) rest rfl
        exact cut.push_byte fun c after same => begins ⟨c, after, same⟩

end Cut

/-- A run of bytes that encodes a text, with no longer one around it. -/
structure MaximalRun (raw before : List UInt8) (text : List Char) (after : List UInt8) : Prop where
  parted : raw = before ++ (bytes text ++ after)
  some_ : text ≠ []
  longest : ∀ before' text' after', raw = before' ++ (bytes text' ++ after') →
    before'.length ≤ before.length → after'.length ≤ after.length → text' = text

/-- Two places among parts are the same if neither part stands behind the other. -/
theorem same_place {left left' right right' : List Part} {part part' : Part}
    (same : left ++ part :: right = left' ++ part' :: right')
    (before : (joined left').length < (joined left).length + part.raw.length)
    (after : (joined right').length < part.raw.length + (joined right).length) :
    left = left' ∧ part = part' ∧ right = right' := by
  obtain ⟨more, rfl, rest⟩ | ⟨more, rfl, rest⟩ := List.append_eq_append_iff.mp same
  · cases more with
    | nil => simpa using rest
    | cons first more =>
      obtain ⟨rfl, -⟩ := List.cons.inj rest
      rw [joined_append, joined_cons, List.length_append, List.length_append] at before
      omega
  · cases more with
    | nil => simpa [eq_comm] using rest
    | cons first more =>
      have tail : right' = more ++ part :: right := (List.cons.inj rest).2
      rw [tail, joined_append, joined_cons, List.length_append, List.length_append] at after
      omega

/-- The maximal runs of bytes are the texts that they are cut into. -/
theorem Cut.maximalRun_iff {parts : List Part} (cut : Cut parts) {before after : List UInt8} {text : List Char} :
    MaximalRun (joined parts) before text after ↔
      ∃ left right, parts = left ++ .text text :: right ∧ before = joined left ∧ after = joined right := by
  constructor
  · intro run
    obtain ⟨left, front, behind, right, rfl, rfl, rfl⟩ := cut.text_within run.some_ run.parted
    -- The whole part is a run around this one, so it is this one.
    have whole := run.longest (joined left) (front ++ text ++ behind) (joined right) (by simp [Part.raw])
      (by simp) (by simp)
    have sizes := congrArg List.length whole
    simp only [List.length_append] at sizes
    obtain rfl : front = [] := List.eq_nil_of_length_eq_zero (by omega)
    obtain rfl : behind = [] := List.eq_nil_of_length_eq_zero (by omega)
    exact ⟨left, right, by simp, by simp [bytes], by simp [bytes]⟩
  · intro ⟨left, right, parts_, before_, after_⟩
    subst parts_ before_ after_
    have some_ : text ≠ [] := by
      cases cut.behind with
      | cons fits _ => simpa [Part.raw] using fits.some_
    refine ⟨by simp [Part.raw], some_, ?_⟩
    intro before' text' after' parted shorter shorter'
    have size : 0 < (bytes text).length := List.length_pos_of_ne_nil (by simpa using some_)
    have other : text' ≠ [] := by
      rintro rfl
      have sizes := congrArg List.length parted
      simp [Part.raw, bytes] at sizes shorter shorter' size
      omega
    obtain ⟨left', front, behind, right', same, rfl, rfl⟩ := cut.text_within other parted
    simp only [List.length_append] at shorter shorter'
    obtain ⟨rfl, inside, rfl⟩ := same_place same (by simp only [Part.raw]; omega) (by simp only [Part.raw]; omega)
    obtain rfl : front = [] := bytes_eq_nil_iff.mp (List.eq_nil_of_length_eq_zero (by omega))
    obtain rfl : behind = [] := bytes_eq_nil_iff.mp (List.eq_nil_of_length_eq_zero (by omega))
    simpa [eq_comm] using inside

/-! ### Decoding -/

/-- A text among bytes is decoded to itself. -/
theorem decodeLossy_append (text : List Char) (after : List UInt8) :
    decodeLossy (bytes text ++ after) = text ++ decodeLossy after := by
  have same : text.map ((·.getD replacement) ∘ some) = text := List.map_id text
  rw [decodeLossy, runs_append, List.map_append, List.map_map, same]
  rfl

/-- The bytes of a text are decoded to the text. -/
theorem decodeLossy_bytes (text : List Char) : decodeLossy (bytes text) = text := by
  have whole := decodeLossy_append text []
  have nothing : decodeLossy [] = [] := by simp [decodeLossy, runs]
  rwa [List.append_nil, nothing, List.append_nil] at whole

/-- Broken bytes are read as broken runs, of which none reaches into the character behind them. -/
theorem Broken.runs_append {after : List UInt8} (leads : Leads after) {raw : List UInt8} (broken : Broken raw)
    (some_ : raw ≠ []) : ∃ count, 1 ≤ count ∧ count ≤ raw.length ∧
      runs (raw ++ after) = List.replicate count none ++ runs after := by
  induction long : raw.length using Nat.strongRecOn generalizing raw with
  | ind size ih =>
    obtain ⟨first, rest, rfl⟩ := List.exists_cons_of_ne_nil some_
    obtain ⟨within, continues, encodes⟩ := scan_scanned first (rest ++ after)
    rw [List.cons_append, runs]
    generalize scan first (rest ++ after) = found at within continues encodes ⊢
    obtain ⟨read, used⟩ := found
    dsimp only at within continues encodes ⊢
    have inside : used ≤ rest.length := by
      -- Otherwise the byte behind the broken ones would continue them.
      by_contra beyond
      cases after with
      | nil => simp at within; omega
      | cons byte after =>
        have last : byte ∈ (rest ++ byte :: after).take used := by
          rw [List.take_append, List.mem_append]
          right
          obtain ⟨more, rfl⟩ : ∃ more, used = rest.length + (more + 1) := ⟨used - rest.length - 1, by omega⟩
          simp
        exact leads byte (by simp) (continues byte last)
    have nothing : read = none := by
      cases read with
      | none => rfl
      | some c =>
        have encoded := encodes c rfl
        rw [List.take_append_of_le_length inside] at encoded
        refine absurd ?_ (broken [] c (rest.drop used))
        rw [encoded, List.nil_append, List.cons_append, List.take_append_drop]
    have behind : Broken (rest.drop used) := by
      refine @Broken.behind (first :: rest.take used) _ ?_
      rwa [List.cons_append, List.take_append_drop]
    rw [List.drop_append_of_le_length inside, nothing]
    -- What is left of the broken bytes is read in the same way.
    by_cases last : rest.drop used = []
    · exact ⟨1, Nat.le_refl 1, by simp at long; omega, by rw [last]; rfl⟩
    · obtain ⟨count, least, most, same⟩ := ih (rest.drop used).length
        (by simp at long; simp; omega) behind last rfl
      refine ⟨count + 1, by omega, ?_, by rw [same, List.replicate_succ]; rfl⟩
      simp at long most
      omega

/-- How parts are shown: a text as it is, and broken bytes as replacements, at most one for each byte. -/
inductive Shown : List Part → List Char → Prop
  | nil : Shown [] []
  | text {letters rest : List Char} {others : List Part} :
    Shown others rest → Shown (.text letters :: others) (letters ++ rest)
  | broken {raw : List UInt8} {rest : List Char} {others : List Part} {count : Nat} :
    1 ≤ count → count ≤ raw.length → Shown others rest →
      Shown (.broken raw :: others) (List.replicate count replacement ++ rest)

/-- Bytes are decoded part by part. -/
theorem Cut.shown {parts : List Part} (cut : Cut parts) : Shown parts (decodeLossy (joined parts)) := by
  induction cut with
  | nil => exact decodeLossy_bytes [] ▸ .nil
  | @cons part others fits rest ih =>
    rw [joined_cons]
    cases part with
    | text letters => exact decodeLossy_append letters (joined others) ▸ .text ih
    | broken raw =>
      have leads : Leads (joined others) := rest.leads fun other member => by
        simpa [Part.isText] using fits.turns other member
      obtain ⟨count, least, most, same⟩ := (fits.broken raw rfl).runs_append leads fits.some_
      have shown : decodeLossy (raw ++ joined others) =
          List.replicate count replacement ++ decodeLossy (joined others) := by
        simp [decodeLossy, same]
      exact shown ▸ .broken least most ih

/-! ### The mark in front -/

/-- A text without one leading mark. -/
def unmarked : List Char → List Char
  | '\uFEFF' :: text => text
  | text => text

/-- The mark is a character. -/
theorem encode_mark : String.utf8EncodeChar '\uFEFF' = byteOrderMark := by decide

/-- Only the three bytes of a mark are taken off. -/
theorem withoutMark_cases (raw : List UInt8) :
    (∃ rest, raw = byteOrderMark ++ rest ∧ withoutMark raw = rest) ∨
      (∀ rest, raw ≠ byteOrderMark ++ rest) ∧ withoutMark raw = raw := by
  unfold withoutMark
  split
  · exact .inl ⟨_, rfl, rfl⟩
  · rename_i other
    exact .inr ⟨other, rfl⟩

/-- The mark in front of a text is taken off its bytes. -/
theorem withoutMark_bytes (text : List Char) : withoutMark (bytes text) = bytes (unmarked text) := by
  unfold unmarked
  split
  · rename_i text
    rw [bytes_cons, encode_mark]
    rfl
  · rename_i other
    obtain ⟨rest, marked, -⟩ | ⟨-, same⟩ := withoutMark_cases (bytes text)
    · -- A text whose bytes begin with the mark begins with the mark.
      rw [← encode_mark] at marked
      cases text with
      | nil => cases marked
      | cons c text =>
        rw [bytes_cons] at marked
        obtain ⟨rfl, -⟩ := encode_cancel marked
        exact absurd rfl (other text)
    · exact same

/-- Nothing is taken off a text with no mark in front. -/
theorem unmarked_eq {text : List Char} (other : text.head? ≠ some '\uFEFF') : unmarked text = text := by
  unfold unmarked
  split
  · exact absurd rfl other
  · rfl

end Placard.Text

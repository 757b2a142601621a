import Placard.Text.Utf8

/-! Bytes that encode a text are read back as the text. -/

namespace Placard.Text

/-- A byte continues an encoding when it carries the marks of a continuation. -/
def Continues (byte : UInt8) : Prop :=
  0x80 ≤ byte.toNat ∧ byte.toNat ≤ 0xBF

/-- The bounds of a continuation are met by every byte that carries its marks. -/
theorem isContinuation_eq {byte : UInt8} (continues : Continues byte) :
    isContinuation 0x80 0xBF byte = true := by
  simpa [isContinuation, Continues] using continues

/-- A byte below the first mark is a character of its own. -/
theorem scan_one {first : UInt8} (lead : first.toNat < 0x80) (rest : List UInt8) :
    scan first rest = (some (.ofNat first.toNat), 0) := by
  rw [scan, if_pos lead]

/-- Two bytes make a character of eleven bits. -/
theorem scan_two {first second : UInt8} (lead : 0xC2 ≤ first.toNat ∧ first.toNat < 0xE0)
    (continues : Continues second) (rest : List UInt8) :
    scan first (second :: rest) =
      (some (.ofNat ((first.toNat - 0xC0) * 64 + second.toNat % 64)), 1) := by
  simp only [scan]
  rw [if_neg (by omega), if_neg (by omega), if_pos lead.2, isContinuation_eq continues]
  simp [assemble]

/-- Three bytes make a character of sixteen bits, neither overlong nor half of a pair. -/
theorem scan_three {first second third : UInt8} (lead : 0xE0 ≤ first.toNat ∧ first.toNat < 0xF0)
    (continues : Continues second ∧ Continues third)
    (shortest : first.toNat = 0xE0 → 0xA0 ≤ second.toNat)
    (whole : first.toNat = 0xED → second.toNat ≤ 0x9F) (rest : List UInt8) :
    scan first (second :: third :: rest) =
      (some (.ofNat (((first.toNat - 0xE0) * 64 + second.toNat % 64) * 64 + third.toNat % 64)), 2) := by
  obtain ⟨⟨low, high⟩, last⟩ := continues
  have following := isContinuation_eq last
  simp only [scan]
  rw [if_neg (by omega), if_neg (by omega), if_neg (by omega)]
  -- Two first bytes narrow the bounds of the second one.
  by_cases smallest : first.toNat = 0xE0
  · have bounds : isContinuation 0xA0 0xBF second = true := by
      simpa [isContinuation] using ⟨shortest smallest, high⟩
    simp [smallest, bounds, following, assemble]
  by_cases halves : first.toNat = 0xED
  · have bounds : isContinuation 0x80 0x9F second = true := by
      simpa [isContinuation] using ⟨low, whole halves⟩
    simp [halves, bounds, following, assemble]
  have bounds : isContinuation 0x80 0xBF second = true := isContinuation_eq ⟨low, high⟩
  simp [smallest, halves, lead.2, bounds, following, assemble]

/-- Four bytes make a character of twenty-one bits, neither overlong nor beyond the last scalar. -/
theorem scan_four {first second third fourth : UInt8}
    (lead : 0xF0 ≤ first.toNat ∧ first.toNat ≤ 0xF4)
    (continues : Continues second ∧ Continues third ∧ Continues fourth)
    (shortest : first.toNat = 0xF0 → 0x90 ≤ second.toNat)
    (within : first.toNat = 0xF4 → second.toNat ≤ 0x8F) (rest : List UInt8) :
    scan first (second :: third :: fourth :: rest) =
      (some (.ofNat ((((first.toNat - 0xF0) * 64 + second.toNat % 64) * 64 + third.toNat % 64) * 64 +
        fourth.toNat % 64)), 3) := by
  obtain ⟨⟨low, high⟩, third_, fourth_⟩ := continues
  have following := isContinuation_eq third_
  have last := isContinuation_eq fourth_
  simp only [scan]
  rw [if_neg (by omega), if_neg (by omega), if_neg (by omega), if_neg (by simp; omega),
    if_neg (by simp; omega), if_neg (by omega)]
  by_cases smallest : first.toNat = 0xF0
  · have bounds : isContinuation 0x90 0xBF second = true := by
      simpa [isContinuation] using ⟨shortest smallest, high⟩
    simp [smallest, bounds, following, last, assemble]
  by_cases largest : first.toNat = 0xF4
  · have bounds : isContinuation 0x80 0x8F second = true := by
      simpa [isContinuation] using ⟨low, within largest⟩
    simp [largest, bounds, following, last, assemble]
  have bounds : isContinuation 0x80 0xBF second = true := isContinuation_eq ⟨low, high⟩
  have below : first.toNat < 0xF4 := by omega
  simp [smallest, below, bounds, following, last, assemble]

/-- A byte of some low bits of a value under a mark has the value of the bits and the mark. -/
theorem toNat_marked (value size mark : Nat) (room : 0 < size ∧ size + mark ≤ 256) :
    (UInt8.ofNat (value % size + mark)).toNat = value % size + mark := by
  have small : value % size < size := Nat.mod_lt value room.1
  rw [UInt8.toNat_ofNat', Nat.mod_eq_of_lt (by omega)]

/-- Six bits under the mark of a continuation continue an encoding. -/
theorem continues_marked (value : Nat) : Continues (UInt8.ofNat (value % 0x40 + 0x80)) := by
  rw [Continues, toNat_marked value 0x40 0x80 (by decide)]
  omega

/-- The first byte of a character begins it, and the others belong to it. -/
theorem scan_encoded (c : Char) (rest : List UInt8) :
    ∃ first others, String.utf8EncodeChar c = first :: others ∧
      scan first (others ++ rest) = (some c, others.length) := by
  have scalar : c.toNat < 0xD800 ∨ 0xDFFF < c.toNat ∧ c.toNat < 0x110000 := c.valid
  have tail := fun value => toNat_marked value 0x40 0x80 (by decide)
  -- The value is cut into groups of six bits, which the reader puts together again.
  fun_cases String.utf8EncodeChar c with
  | case1 value one =>
    have code : value = c.toNat := rfl
    have lead : (UInt8.ofNat value).toNat = value := by
      rw [UInt8.toNat_ofNat', Nat.mod_eq_of_lt (by omega)]
    refine ⟨_, _, rfl, ?_⟩
    rw [scan_one (by omega), lead, code, Char.ofNat_toNat]
    rfl
  | case2 value _ two =>
    have code : value = c.toNat := rfl
    have lead := toNat_marked (value / 64) 0x20 0xc0 (by decide)
    have joined : (value / 64 % 0x20 + 0xc0 - 0xC0) * 64 + (value % 0x40 + 0x80) % 64 = c.toNat := by
      omega
    refine ⟨_, _, rfl, ?_⟩
    rw [List.singleton_append, scan_two (by omega) (continues_marked value), lead, tail value, joined,
      Char.ofNat_toNat]
    rfl
  | case3 value _ _ three =>
    have code : value = c.toNat := rfl
    have lead := toNat_marked (value / 4096) 0x10 0xe0 (by decide)
    have second := tail (value / 64)
    have joined : ((value / 4096 % 0x10 + 0xe0 - 0xE0) * 64 + (value / 64 % 0x40 + 0x80) % 64) * 64 +
        (value % 0x40 + 0x80) % 64 = c.toNat := by
      omega
    refine ⟨_, _, rfl, ?_⟩
    rw [List.cons_append, List.singleton_append,
      scan_three (by omega) ⟨continues_marked (value / 64), continues_marked value⟩ (by omega) (by omega),
      lead, second, tail value, joined, Char.ofNat_toNat]
    rfl
  | case4 value _ _ four =>
    have code : value = c.toNat := rfl
    have lead := toNat_marked (value / 262144) 0x08 0xf0 (by decide)
    have second := tail (value / 4096)
    have third := tail (value / 64)
    have joined : (((value / 262144 % 0x08 + 0xf0 - 0xF0) * 64 + (value / 4096 % 0x40 + 0x80) % 64) * 64 +
        (value / 64 % 0x40 + 0x80) % 64) * 64 + (value % 0x40 + 0x80) % 64 = c.toNat := by
      omega
    refine ⟨_, _, rfl, ?_⟩
    rw [List.cons_append, List.cons_append, List.singleton_append,
      scan_four (by omega) ⟨continues_marked (value / 4096), continues_marked (value / 64),
        continues_marked value⟩ (by omega) (by omega),
      lead, second, third, tail value, joined, Char.ofNat_toNat]
    rfl

/-- The bytes of a text begin with those of its first character. -/
@[simp] theorem bytes_cons (c : Char) (text : List Char) :
    bytes (c :: text) = String.utf8EncodeChar c ++ bytes text := List.flatMap_cons

/-- The bytes of one text after another. -/
@[simp] theorem bytes_append (text more : List Char) : bytes (text ++ more) = bytes text ++ bytes more :=
  List.flatMap_append

/-- A text among bytes is read as its characters. -/
theorem runs_append (text : List Char) (after : List UInt8) :
    runs (bytes text ++ after) = text.map some ++ runs after := by
  induction text with
  | nil => rfl
  | cons c text ih =>
    obtain ⟨first, others, encoded, scanned⟩ := scan_encoded c (bytes text ++ after)
    rw [bytes_cons, List.append_assoc, encoded, List.cons_append, runs, scanned, List.drop_left, ih]
    rfl

/-- The bytes of a text are read as its characters, with no broken run among them. -/
theorem runs_bytes (text : List Char) : runs (bytes text) = text.map some := by
  have whole := runs_append text []
  rwa [List.append_nil, runs, List.append_nil] at whole

/-- The bytes of a text are decoded to the text. -/
theorem decode?_bytes (text : List Char) : decode? (bytes text) = some text := by
  rw [decode?, runs_bytes]
  induction text with
  | nil => rfl
  | cons c text ih => simp [ih]

end Placard.Text

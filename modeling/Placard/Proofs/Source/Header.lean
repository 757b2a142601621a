import Placard.Proofs.Text.Utf8
import Placard.Source.Credentials
import Placard.Source.Fault
import Placard.Text.Base64

/-! Header lines of credentials: which there are, what can be read off them, and what never stands in one. Bytes
written with sixty-four characters come first: every list of bytes is read back, and its text is padded. -/

namespace Placard.Text.Base64

/-- A padded text has whole groups of four characters, of which only the last may be filled. -/
def Padded (text : List Char) : Prop :=
  -- One or two equals signs fill the last group; every other character stands for six bits.
  text.length % 4 = 0 ∧ ∃ digits filling, text = digits ++ filling ∧
    (∀ c ∈ digits, c ∈ alphabet) ∧ (filling = [] ∨ filling = ['='] ∨ filling = ['=', '='])

/-! ### One character -/

/-- The character for a number stands for its six lowest bits. -/
theorem value?_digit (value : Nat) : value? (digit value) = some (value % 64) := by
  -- A finite table of characters, each found at its own place.
  have all : ∀ value < 64, value? (digit value) = some value := by decide +kernel
  have same : digit value = digit (value % 64) := by rw [digit, digit, Nat.mod_mod]
  rw [same, all _ (Nat.mod_lt value (by decide))]

/-- A number is written with a character of the alphabet. -/
theorem digit_mem (value : Nat) : digit value ∈ alphabet := by
  have within : value % 64 < alphabet.length := Nat.mod_lt value (by decide)
  have found : digit value = alphabet[value % 64] := by
    rw [digit, List.getD, List.getElem?_eq_getElem within, Option.getD_some]
  exact found ▸ List.getElem_mem within

/-- No number is written with the sign that fills a group. -/
theorem digit_ne_filler (value : Nat) : digit value ≠ '=' := by
  have absent : '=' ∉ alphabet := by decide
  exact fun same => absent (same ▸ digit_mem value)

/-! ### Groups -/

/-- A last group of two characters and a filling is read as one byte, if no bits are left over. -/
theorem decode?_one (a b : Nat) :
    decode? [digit a, digit b, '=', '='] =
      if (a % 64 * 64 + b % 64) % 16 == 0 then some [.ofNat ((a % 64 * 64 + b % 64) / 16)] else none := by
  rw [decode?.eq_2, value?_digit, value?_digit]
  rfl

/-- A last group of three characters and a filling is read as two bytes, if no bits are left over. -/
theorem decode?_two (a b c : Nat) :
    decode? [digit a, digit b, digit c, '='] =
      let bits := (a % 64 * 64 + b % 64) * 64 + c % 64
      if bits % 4 == 0 then some [.ofNat (bits / 1024), .ofNat (bits / 4)] else none := by
  rw [decode?.eq_3 _ _ _ (digit_ne_filler c), value?_digit, value?_digit, value?_digit]
  rfl

/-- A whole group of four characters is read as three bytes, and the rest after it. -/
theorem decode?_three (a b c d : Nat) (rest : List Char) :
    decode? (digit a :: digit b :: digit c :: digit d :: rest) =
      let bits := ((a % 64 * 64 + b % 64) * 64 + c % 64) * 64 + d % 64
      (decode? rest).map fun bytes => .ofNat (bits / 65536) :: .ofNat (bits / 256) :: .ofNat bits :: bytes := by
  -- The last character is no filling, so the group is not taken for the last one.
  rw [decode?.eq_4 _ _ _ _ _ (fun _ same => absurd same (digit_ne_filler d))
    fun same => absurd same (digit_ne_filler d), value?_digit, value?_digit, value?_digit, value?_digit]
  cases decode? rest <;> rfl

/-- A byte is the one with its number. -/
private theorem ofNat_eq (byte : UInt8) {value : Nat} (same : value % 256 = byte.toNat) :
    UInt8.ofNat value = byte :=
  UInt8.toNat_inj.mp (by rw [UInt8.toNat_ofNat', same])

/-- Bytes are read back from the characters that write them. -/
theorem decode?_encode (bytes : List UInt8) : decode? (encode bytes) = some bytes := by
  -- Three bytes at a time; a group that is short is told by its filling.
  induction bytes using encode.induct with
  | case1 => rfl
  | case2 a =>
    have small := a.toNat_lt
    have none_left : ((a.toNat * 65536 / 262144 % 64 * 64 + a.toNat * 65536 / 4096 % 64) % 16 == 0) = true :=
      beq_iff_eq.mpr (by omega)
    rw [encode, decode?_one, if_pos none_left, ofNat_eq a (by omega)]
  | case3 a b =>
    have small := a.toNat_lt
    have smallToo := b.toNat_lt
    generalize joined : a.toNat * 65536 + b.toNat * 256 = bits
    have none_left : (((bits / 262144 % 64 * 64 + bits / 4096 % 64) * 64 + bits / 64 % 64) % 4 == 0) = true :=
      beq_iff_eq.mpr (by omega)
    rw [encode, joined, decode?_two]
    simp only
    rw [if_pos none_left, ofNat_eq a (by omega), ofNat_eq b (by omega)]
  | case4 a b c rest ih =>
    have small := a.toNat_lt
    have smallToo := b.toNat_lt
    have last := c.toNat_lt
    generalize joined : a.toNat * 65536 + b.toNat * 256 + c.toNat = bits
    rw [encode, joined, decode?_three, ih]
    simp only [Option.map_some]
    rw [ofNat_eq a (by omega), ofNat_eq b (by omega), ofNat_eq c (by omega)]

/-- Bytes take four characters for every three of them that are begun. -/
theorem length_encode (bytes : List UInt8) : (encode bytes).length = 4 * ((bytes.length + 2) / 3) := by
  induction bytes using encode.induct with
  | case1 => rfl
  | case2 a => simp [encode]
  | case3 a b => simp [encode]
  | case4 a b c rest ih =>
    rw [encode]
    simp only [List.length_cons, ih]
    omega

/-- Bytes are written as a padded text. -/
theorem padded_encode (bytes : List UInt8) : Padded (encode bytes) := by
  refine ⟨by rw [length_encode]; omega, ?_⟩
  induction bytes using encode.induct with
  | case1 => exact ⟨[], [], rfl, by simp, .inl rfl⟩
  | case2 a =>
    rw [encode]
    exact ⟨[_, _], ['=', '='], rfl, by simp [digit_mem], .inr (.inr rfl)⟩
  | case3 a b =>
    rw [encode]
    exact ⟨[_, _, _], ['='], rfl, by simp [digit_mem], .inr (.inl rfl)⟩
  | case4 a b c rest ih =>
    -- The filling of the rest is the filling of the whole.
    obtain ⟨digits, filling, same, all, fills⟩ := ih
    rw [encode, same]
    exact ⟨_ :: _ :: _ :: _ :: digits, filling, rfl, by simpa [digit_mem] using all, fills⟩

end Placard.Text.Base64

namespace Placard

/-- A control character of ASCII. -/
def IsControl (c : Char) : Prop :=
  c.toNat < 0x20 ∨ c.toNat = 0x7F

/-- The bytes of a text are its encoding in UTF-8. -/
theorem Text.bytes_toList (text : String) : bytes text.toList = text.toUTF8.data.toList := by
  rw [String.toUTF8, ← String.utf8Encode_toList]
  simp [List.utf8Encode, bytes]

/-- Texts have the same bytes only if they are the same. -/
theorem Text.bytes_injective {text other : List Char} (same : bytes other = bytes text) : other = text := by
  have read := decode?_bytes other
  rw [same, decode?_bytes] at read
  exact (Option.some.inj read).symm

namespace Credentials

/-- A header line may hold every character but the controls other than the tab. -/
theorem fitsHeader_iff {c : Char} : fitsHeader c = true ↔ (IsControl c → c = '\t') := by
  simp only [fitsHeader, Bool.or_eq_true, Bool.and_eq_true, beq_iff_eq, bne_iff_ne, decide_eq_true_eq,
    IsControl]
  constructor
  · rintro (tab | shown) control
    · exact tab
    · omega
  · intro only
    by_cases tab : c = '\t'
    · exact .inl tab
    · exact .inr (by have := mt only tab; omega)

/-- Every character that stands for bytes may stand in a header line. -/
theorem fitsHeader_encode (bytes : List UInt8) : ∀ c ∈ Text.Base64.encode bytes, fitsHeader c = true := by
  obtain ⟨-, digits, filling, same, all, fills⟩ := Text.Base64.padded_encode bytes
  have letters : Text.Base64.alphabet.all fitsHeader = true := by decide
  intro c member
  rw [same, List.mem_append] at member
  rcases member with digit | filler
  · exact List.all_eq_true.mp letters c (all c digit)
  · have sign : c = '=' := by
      rcases fills with rfl | rfl | rfl
      · cases filler
      · exact List.mem_singleton.mp filler
      · simpa using filler
    exact sign ▸ rfl

/-- A user name and a password always have a header line. -/
theorem header_basic (username password : String) :
    (basic username password).header = .ok (some ("Basic " ++ String.ofList
      (Text.Base64.encode (Text.bytes (username ++ ":" ++ password).toList)))) := by
  have fits (bytes : List UInt8) :
      ("Basic " ++ String.ofList (Text.Base64.encode bytes)).toList.all fitsHeader = true := by
    have scheme : "Basic ".toList.all fitsHeader = true := by decide
    rw [String.toList_append, List.all_append, scheme, Bool.true_and, String.toList_ofList]
    exact List.all_eq_true.mpr (fitsHeader_encode bytes)
  rw [header]
  simp only [rawHeader?, fits, if_true]

/-- A token has a header line when all its characters may stand in one. -/
theorem header_bearer (token : String) :
    (bearer token).header =
      if token.toList.all fitsHeader then .ok (some ("Bearer " ++ token))
      else .error "Bearer header: failed to parse header value" := by
  have fits : ("Bearer " ++ token).toList.all fitsHeader = token.toList.all fitsHeader := by
    have scheme : "Bearer ".toList.all fitsHeader = true := by decide
    rw [String.toList_append, List.all_append, scheme, Bool.true_and]
  rw [header]
  simp only [rawHeader?, fits]
  rfl

/-- Nothing stands in a header line that may not stand there. -/
theorem fitsHeader_of_header {credentials : Credentials} {value : String}
    (made : credentials.header = .ok (some value)) : ∀ c ∈ value.toList, fitsHeader c = true := by
  unfold header at made
  split at made
  · cases made
  · split at made
    · rename_i fits
      cases made
      exact List.all_eq_true.mp fits
    · cases made

/-- A text is cut at its first colon in one way only. -/
theorem joined_inj {username username' secret secret' : String}
    (plain : ':' ∉ username.toList) (plain' : ':' ∉ username'.toList)
    (same : username' ++ ":" ++ secret' = username ++ ":" ++ secret) :
    username' = username ∧ secret' = secret := by
  have letters := congrArg String.toList same
  have colon : ":".toList = [':'] := rfl
  simp only [String.toList_append, List.append_assoc, colon, List.singleton_append] at letters
  suffices username'.toList = username.toList ∧ secret'.toList = secret.toList from
    this.imp String.toList_inj.mp String.toList_inj.mp
  -- Where one user name ends before the other, its colon would be in the other.
  rcases List.append_eq_append_iff.mp letters with ⟨more, longer, rest⟩ | ⟨more, longer, rest⟩
  · cases more with
    | nil => exact ⟨by simpa using longer.symm, by simpa using rest⟩
    | cons c more =>
      obtain ⟨rfl, -⟩ := List.cons.inj rest
      exact absurd (by simp [longer]) plain
  · cases more with
    | nil => exact ⟨by simpa using longer, by simpa using rest.symm⟩
    | cons c more =>
      obtain ⟨rfl, -⟩ := List.cons.inj rest
      exact absurd (by simp [longer]) plain'

/-- What the header line of credentials tells, for each kind of authorisation.

A user name and a secret always give one, from which the two can be read back if there is no colon in
the user name. A token stands in it as it is, if no control other than the tab is in the token; else
the credentials are refused. No line break can come in by any of them. -/
theorem header_written (username secret : String) :
    (∃ token,
      (ofParts .basic username secret).header = .ok (some ("Basic " ++ String.ofList token)) ∧
      Text.Base64.Padded token ∧
      Text.Base64.decode? token = some (username ++ ":" ++ secret).toUTF8.data.toList) ∧
    (∀ username' secret',
      (ofParts .basic username' secret').header = (ofParts .basic username secret).header →
      username' ++ ":" ++ secret' = username ++ ":" ++ secret ∧
      (':' ∉ username.toList → ':' ∉ username'.toList → username' = username ∧ secret' = secret)) ∧
    (let made := (ofParts .bearer username secret).header.mapError SourceError.invalidCredentials;
      ((∀ c ∈ secret.toList, IsControl c → c = '\t') → made = .ok (some ("Bearer " ++ secret))) ∧
      ∀ c ∈ secret.toList, IsControl c → c ≠ '\t' →
        made = .error (.invalidCredentials "Bearer header: failed to parse header value")) ∧
    (ofParts .none username secret).header = .ok Option.none ∧
    ∀ auth value, (ofParts auth username secret).header = .ok (some value) →
      '\r' ∉ value.toList ∧ '\n' ∉ value.toList := by
  refine ⟨⟨_, header_basic username secret, Text.Base64.padded_encode _, ?_⟩, ?_, ?_, rfl, ?_⟩
  · rw [Text.Base64.decode?_encode, Text.bytes_toList]
  · intro username' secret' same
    -- Both lines are read back, first to bytes and then to texts.
    simp only [ofParts, header_basic, Except.ok.injEq, Option.some.injEq, String.append_right_inj,
      String.ofList_inj] at same
    have read := congrArg Text.Base64.decode? same
    rw [Text.Base64.decode?_encode, Text.Base64.decode?_encode, Option.some.injEq] at read
    have joined := String.toList_inj.mp (Text.bytes_injective read)
    exact ⟨joined, fun plain plain' => joined_inj plain plain' joined⟩
  · rw [ofParts, header_bearer]
    constructor
    · intro plain
      have fits : secret.toList.all fitsHeader = true :=
        List.all_eq_true.mpr fun c member => fitsHeader_iff.mpr (plain c member)
      rw [if_pos fits]
      rfl
    · -- One such control is enough for the token to be refused.
      intro c member control other
      have refused : ¬ secret.toList.all fitsHeader = true := fun fits =>
        other (fitsHeader_iff.mp (List.all_eq_true.mp fits c member) control)
      rw [if_neg refused]
      rfl
  · intro auth value made
    have fits := fitsHeader_of_header made
    have barred : fitsHeader '\r' = false ∧ fitsHeader '\n' = false := by decide
    constructor
    · exact fun member => Bool.noConfusion (barred.1.symm.trans (fits _ member))
    · exact fun member => Bool.noConfusion (barred.2.symm.trans (fits _ member))

/-- A secret with a colon and an accent: the line, and what any line that is the same was made of. -/
theorem header_written_accented :
    let made := (ofParts .basic "u" "p:ä").header
    made = .ok (some "Basic dTpwOsOk") ∧
      ∀ username secret, ':' ∉ username.toList → (ofParts .basic username secret).header = made →
        username = "u" ∧ secret = "p:ä" := by
  refine ⟨rfl, fun username secret plain same => ?_⟩
  exact ((header_written "u" "p:ä").2.1 username secret same).2 (by decide) plain

/-- With a colon in a user name, two pairs may have the same line. -/
example : (basic "a:b" "c").header = (basic "a" "b:c").header := rfl

end Credentials

end Placard

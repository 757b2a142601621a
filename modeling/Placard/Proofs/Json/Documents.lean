import Placard.Proofs.Decimal.Marked
import Placard.Proofs.Json.Complete
import Placard.Proofs.Json.Floats

/-! Documents of the writer: both forms of a value are read as one value, which holds the same texts. -/

namespace Placard.Json

/-- A value that the writer hands on in full: whole numbers have 64 bits, and no object has a key twice. -/
inductive Tidy : Json → Prop
  | null : Tidy .null
  | bool (value : Bool) : Tidy (.bool value)
  | integer {value : Int} (whole : Whole (.number (.integer value))) : Tidy (.number (.integer value))
  | float (value : Float) : Tidy (.number (.float value))
  | string (text : String) : Tidy (.string text)
  | array {items : List Json} (each : ∀ item ∈ items, Tidy item) : Tidy (.array items)
  | object {members : List (String × Json)} (apart : (members.map (·.1)).Nodup)
      (each : ∀ member ∈ members, Tidy member.2) : Tidy (.object members)

/-- What readers make of a number that was written. -/
def Number.reread (number : Number) : Json :=
  (parse number.write).toOption.getD .null

mutual

/-- What readers make of a value that was written: numbers as they are read, and members filed. -/
def reread : Json → Json
  | .number value => value.reread
  | .array items => .array (rereadItems items)
  | .object members => .object (filed [] (rereadMembers members))
  | value => value

/-- What readers make of the items of an array. -/
def rereadItems : List Json → List Json
  | [] => []
  | item :: others => reread item :: rereadItems others

/-- What readers make of the members of an object, before they are filed. -/
def rereadMembers : List (String × Json) → List (String × Json)
  | [] => []
  | (key, value) :: others => (key, reread value) :: rereadMembers others

end

/-- The items of an array are read again one by one. -/
theorem rereadItems_eq (items : List Json) : rereadItems items = items.map reread := by
  induction items with
  | nil => rfl
  | cons item others ih => rw [rereadItems, ih, List.map_cons]

/-- The members of an object are read again one by one. -/
theorem rereadMembers_eq (members : List (String × Json)) :
    rereadMembers members = members.map fun member => (member.1, member.2.reread) := by
  induction members with
  | nil => rfl
  | cons member others ih => rw [rereadMembers, ih, List.map_cons]

/-! ### Numbers -/

/-- The decimal of a floating-point number begins with a character that neither is a gap nor ends a list. -/
theorem Marked.opens {text : List Char} (marked : Decimal.Marked text) :
    ∃ c rest, text = c :: rest ∧ isSpace c = false ∧ c ≠ ']' := by
  obtain ⟨each, some_⟩ := marked
  cases text with
  | nil => simp at some_
  | cons c rest =>
    refine ⟨c, rest, rfl, ?_⟩
    rcases each c List.mem_cons_self with digit | rfl | rfl | rfl | rfl
    · exact ⟨isSpace_digit digit, by rintro rfl; cases digit⟩
    all_goals decide

variable {levels : Nat}

/-- What a number is read as wherever it stands is what readers make of it. -/
theorem Number.reread_eq {number : Number} {held : Json} (reads : ReadAs 0 number.write.toList held) :
    number.reread = held := by
  have alone : parse number.write = .ok held :=
    reads.parse (by decide) gap_nil gap_nil (by rw [List.nil_append, List.append_nil])
  rw [Number.reread, alone]
  rfl

/-- A floating-point number is read where it is written: as a number, or as nothing where it is none. -/
theorem readAs_float (value : Float) :
    ReadAs levels (Number.float value).write.toList (Number.float value).reread ∧
      ((Number.float value).reread = .null ∨ ∃ number, (Number.float value).reread = .number number) := by
  rcases finite : value.isNaN || value.isInf with _ | _
  · rw [Bool.or_eq_false_iff] at finite
    obtain ⟨number, read⟩ := readValue_float finite.1 finite.2
    have marked : Decimal.Marked (Number.float value).write.toList := by
      refine (Decimal.write_float value).resolve_left fun null => ?_
      -- The word for nothing is not read as a number.
      have other := read 1 1 [] ended_nil
      rw [null, List.append_nil] at other
      exact nomatch (show Except.ok (Json.null, []) = _ from other)
    have reads (levels : Nat) : ReadAs levels (Number.float value).write.toList (.number number) :=
      ⟨Marked.opens marked, fun _ _ ended => read _ _ _ ended⟩
    rw [Number.reread_eq (reads 0)]
    exact ⟨reads levels, .inr ⟨number, rfl⟩⟩
  · have null : (Number.float value).write = "null" := by rw [Number.write, finite, if_pos rfl]
    have reads (levels : Nat) : ReadAs levels (Number.float value).write.toList .null := null ▸ readAs_null
    rw [Number.reread_eq (reads 0)]
    exact ⟨reads levels, .inl rfl⟩

/-- A whole number of 64 bits is read as itself. -/
theorem reread_integer {value : Int} (whole : Whole (.number (.integer value))) :
    (Number.integer value).reread = .number (.integer value) :=
  Number.reread_eq (show ReadAs 0 (Number.integer value).write.toList _ from readAs_integer whole)

/-! ### Arrays and objects -/

/-- Items behind gaps of one kind are read one after another. -/
theorem readItems_laid {gap : List Char} (blank : Gap gap) {write : Json → List Char} {items : List Json}
    (each : ∀ item ∈ items, ReadAs levels (write item) item.reread) (first : Bool) :
    ReadItems levels first (itemsText first (items.map fun item => gap ++ write item)) (rereadItems items) := by
  induction items generalizing first with
  | nil => exact .nil first
  | cons item others ih =>
    rw [List.forall_mem_cons] at each
    have read := @ReadItems.cons levels first _ _ _ _ _ _ gap_nil blank each.1 (ih each.2 false)
    simpa [itemsText, rereadItems] using read

/-- Members behind gaps of one kind, and with such gaps behind their colons, are read one after another. -/
theorem readMembers_laid {gap space : List Char} (blank : Gap gap) (blankSpace : Gap space)
    {write : Json → List Char} {members : List (String × Json)}
    (each : ∀ member ∈ members, ReadAs levels (write member.2) member.2.reread) (first : Bool) :
    ReadMembers levels first
      (itemsText first (members.map fun member => gap ++ (quote member.1 ++ ':' :: (space ++ write member.2))))
      (rereadMembers members) := by
  induction members generalizing first with
  | nil => exact .nil first
  | cons member others ih =>
    rw [List.forall_mem_cons] at each
    have read := @ReadMembers.cons levels first _ _ _ _ _ _ _ _ _ _ gap_nil blank (stringText_quote member.1)
      gap_nil blankSpace each.1 (ih each.2 false)
    simpa [itemsText, rereadMembers] using read

/-- Items are written on one line one by one. -/
theorem compactItems_eq (items : List Json) :
    compactItems items = items.map fun item => [] ++ item.compactChars := by
  induction items with
  | nil => rfl
  | cons item others ih => rw [compactItems, ih, List.map_cons, List.nil_append]

/-- Members are written on one line one by one. -/
theorem compactMembers_eq (members : List (String × Json)) : compactMembers members =
    members.map fun member => [] ++ (quote member.1 ++ ':' :: ([] ++ member.2.compactChars)) := by
  induction members with
  | nil => rfl
  | cons member others ih => rw [compactMembers, ih, List.map_cons, List.nil_append, List.nil_append]

/-- Items are written on lines of their own one by one. -/
theorem prettyItems_eq (level : Nat) (items : List Json) :
    prettyItems level items = items.map (prettyChars level) := by
  induction items with
  | nil => rfl
  | cons item others ih => rw [prettyItems, ih, List.map_cons]

/-- Members are written on lines of their own one by one. -/
theorem prettyMembers_eq (level : Nat) (members : List (String × Json)) : prettyMembers level members =
    members.map fun member => quote member.1 ++ ':' :: ([' '] ++ prettyChars level member.2) := by
  induction members with
  | nil => rfl
  | cons member others ih =>
    rw [prettyMembers, ih, List.map_cons]
    rfl

/-! ### Whole values -/

namespace Tidy

variable {value : Json}

/-- What is written on one line is read as what readers make of the value. -/
theorem readAs_compact (tidy : Tidy value) : ReadAs value.depth value.compactChars value.reread := by
  -- Each item has at most the nesting that the marks around it leave.
  induction tidy with
  | null => exact readAs_null
  | bool value =>
    cases value with
    | true => exact readAs_bool true
    | false => exact readAs_bool false
  | integer whole =>
    rw [reread, reread_integer whole]
    exact readAs_integer whole
  | float value => exact (readAs_float value).1
  | string text => exact (stringText_quote text).readAs
  | @array items _ ih =>
    have below := depthItems_le_iff.mp (Nat.le_refl (depthItems items))
    have inside := readItems_laid gap_nil (fun item among => (ih item among).mono (below item among)) true
    rw [← compactItems_eq, ← commaJoined_eq] at inside
    simpa [compactChars, depth, reread] using ReadAs.array inside gap_nil
  | @object members _ _ ih =>
    have below := depthMembers_le_iff.mp (Nat.le_refl (depthMembers members))
    have inside := readMembers_laid gap_nil gap_nil
      (fun member among => (ih member among).mono (below member among)) true
    rw [← compactMembers_eq, ← commaJoined_eq] at inside
    simpa [compactChars, depth, reread] using ReadAs.object inside gap_nil

/-- What is written with one item to a line is read as the same. -/
theorem readAs_pretty (tidy : Tidy value) (level : Nat) :
    ReadAs value.depth (prettyChars level value) value.reread := by
  induction tidy generalizing level with
  | null => exact readAs_null
  | bool value =>
    cases value with
    | true => exact readAs_bool true
    | false => exact readAs_bool false
  | integer whole =>
    rw [reread, reread_integer whole]
    exact readAs_integer whole
  | float value => exact (readAs_float value).1
  | string text => exact (stringText_quote text).readAs
  | @array items _ ih =>
    have below := depthItems_le_iff.mp (Nat.le_refl (depthItems items))
    have inside := readItems_laid (newLine_gap (level + 1))
      (fun item among => (ih item among (level + 1)).mono (below item among)) true
    obtain ⟨gap, blank, written⟩ := exists_block level '[' ']' (prettyItems (level + 1) items)
    rw [prettyChars, written, depth, reread, prettyItems_eq, List.map_map]
    simpa [Function.comp_def] using ReadAs.array inside blank
  | @object members _ _ ih =>
    have below := depthMembers_le_iff.mp (Nat.le_refl (depthMembers members))
    have inside := readMembers_laid (newLine_gap (level + 1)) gap_blank
      (fun member among => (ih member among (level + 1)).mono (below member among)) true
    obtain ⟨gap, blank, written⟩ := exists_block level '{' '}' (prettyMembers (level + 1) members)
    rw [prettyChars, written, depth, reread, prettyMembers_eq, List.map_map]
    simpa [Function.comp_def] using ReadAs.object inside blank

/-- A document on one line is parsed as what readers make of the value. -/
theorem parse_compact (tidy : Tidy value) (shallow : value.depth < depthLimit) :
    parse value.compact = .ok value.reread := by
  refine tidy.readAs_compact.parse shallow gap_nil gap_nil ?_
  rw [compact, String.toList_ofList, List.nil_append, List.append_nil]

/-- A document with one item to a line is parsed as the same. -/
theorem parse_pretty (tidy : Tidy value) (shallow : value.depth < depthLimit) :
    parse value.pretty = .ok value.reread := by
  refine (tidy.readAs_pretty 0).parse shallow gap_nil gap_nil ?_
  rw [pretty, String.toList_ofList, List.nil_append, List.append_nil]

end Tidy

/-! ### Texts at their places -/

/-- A step from a value into one of its parts. -/
inductive Step
  | member (key : String)
  | item (index : Nat)
deriving DecidableEq, Repr

/-- The value to which steps lead. -/
def reach? : List Step → Json → Option Json
  | [], value => some value
  | .member key :: steps, .object members => (member? key members).bind (reach? steps)
  | .item index :: steps, .array items => items[index]?.bind (reach? steps)
  | _ :: _, _ => none

/-- Texts, each with the steps that lead to it. -/
abbrev Texts := List (List Step × String)

/-- Texts that stand one step further down. -/
def Texts.below (texts : Texts) (step : Step) : Texts :=
  texts.map fun (steps, text) => (step :: steps, text)

mutual

/-- The texts in a value. -/
def texts : Json → Texts
  | .string text => [([], text)]
  | .array items => textsOfItems 0 items
  | .object members => textsOfMembers members
  | _ => []

/-- The texts in items, which are counted from a number on. -/
def textsOfItems (index : Nat) : List Json → Texts
  | [] => []
  | item :: others => (texts item).below (.item index) ++ textsOfItems (index + 1) others

/-- The texts in members. -/
def textsOfMembers : List (String × Json) → Texts
  | [] => []
  | (key, value) :: others => (texts value).below (.member key) ++ textsOfMembers others

end

/-- Texts one step further down have that step in front. -/
theorem Texts.mem_below {texts : Texts} {step : Step} {steps : List Step} {text : String} :
    (steps, text) ∈ texts.below step ↔ ∃ rest, steps = step :: rest ∧ (rest, text) ∈ texts := by
  simp only [below, List.mem_map, Prod.mk.injEq, Prod.exists]
  constructor
  · rintro ⟨rest, _, among, rfl, rfl⟩
    exact ⟨rest, rfl, among⟩
  · rintro ⟨rest, rfl, among⟩
    exact ⟨rest, text, among, rfl, rfl⟩

/-- The texts in items stand in one of them, under its number. -/
theorem mem_textsOfItems {index : Nat} {items : List Json} {steps : List Step} {text : String} :
    (steps, text) ∈ textsOfItems index items ↔
      ∃ place item rest, items[place]? = some item ∧ steps = .item (index + place) :: rest ∧
        (rest, text) ∈ item.texts := by
  induction items generalizing index with
  | nil => simp [textsOfItems]
  | cons first others ih =>
    rw [textsOfItems, List.mem_append, Texts.mem_below, ih]
    constructor
    · rintro (⟨rest, same, among⟩ | ⟨place, item, rest, found, same, among⟩)
      · exact ⟨0, first, rest, rfl, same, among⟩
      · exact ⟨place + 1, item, rest, found, by rw [same]; simp [Nat.add_comm, Nat.add_left_comm], among⟩
    · rintro ⟨place, item, rest, found, same, among⟩
      cases place with
      | zero =>
        cases found
        exact .inl ⟨rest, same, among⟩
      | succ place =>
        exact .inr ⟨place, item, rest, found, by rw [same]; simp [Nat.add_comm, Nat.add_left_comm], among⟩

/-- The texts in members stand in one of them, under its key. -/
theorem mem_textsOfMembers {members : List (String × Json)} {steps : List Step} {text : String} :
    (steps, text) ∈ textsOfMembers members ↔
      ∃ member ∈ members, ∃ rest, steps = .member member.1 :: rest ∧ (rest, text) ∈ member.2.texts := by
  induction members with
  | nil => simp [textsOfMembers]
  | cons member others ih => rw [textsOfMembers, List.mem_append, Texts.mem_below, ih, List.exists_mem_cons_iff]

/-- Where no key comes twice, each key leads to its own member. -/
theorem member?_eq_some_iff {members : List (String × Json)} (apart : (members.map (·.1)).Nodup) {key : String}
    {value : Json} : member? key members = some value ↔ (key, value) ∈ members := by
  induction members with
  | nil => simp [member?]
  | cons member others ih =>
    obtain ⟨name, held⟩ := member
    rw [List.map_cons, List.nodup_cons] at apart
    rw [member?, List.mem_cons, Prod.mk.injEq]
    split
    · rename_i same
      subst same
      -- The key stands in front, hence nowhere else.
      have alone : (name, value) ∉ others := fun among => apart.1 (List.mem_map.mpr ⟨_, among, rfl⟩)
      simp [alone, eq_comm]
    · rename_i different
      rw [ih apart.2]
      simp [Ne.symm different]

/-- Where no key comes twice, filing members changes nothing about what the keys lead to. -/
theorem member?_filed_apart {members : List (String × Json)} (apart : (members.map (·.1)).Nodup) (key : String) :
    member? key (filed [] members) = member? key members := by
  refine Option.ext fun value => ?_
  rw [member?_filed, member?_eq_some_iff apart]
  constructor
  · rintro (⟨before, after, rfl, -⟩ | ⟨-, none⟩)
    · simp
    · cases none
  · intro among
    obtain ⟨before, after, rfl⟩ := List.append_of_mem among
    refine .inl ⟨before, after, rfl, ?_⟩
    rw [List.map_append, List.map_cons] at apart
    exact (List.nodup_cons.mp apart.of_append_right).1

namespace Tidy

variable {value : Json}

/-- The texts of a value are those to which steps lead. -/
theorem mem_texts (tidy : Tidy value) {steps : List Step} {text : String} :
    (steps, text) ∈ value.texts ↔ reach? steps value = some (.string text) := by
  induction steps generalizing value with
  | nil =>
    cases value with
    | array items => simp [texts, mem_textsOfItems, reach?]
    | object members => simp [texts, mem_textsOfMembers, reach?]
    | _ => simp [texts, reach?, eq_comm]
  | cons step steps ih =>
    cases tidy with
    | @array items each =>
      rw [texts, mem_textsOfItems]
      cases step with
      | member key => simp [reach?]
      | item index =>
        have inside {item : Json} (found : items[index]? = some item) :=
          @ih item (each item (List.mem_of_getElem? found))
        simp only [reach?, Option.bind_eq_some_iff]
        constructor
        · rintro ⟨place, item, rest, found, same, among⟩
          cases same
          rw [Nat.zero_add] at *
          exact ⟨item, found, (inside found).mp among⟩
        · rintro ⟨item, found, reached⟩
          exact ⟨index, item, steps, found, by rw [Nat.zero_add], (inside found).mpr reached⟩
    | @object members apart each =>
      rw [texts, mem_textsOfMembers]
      cases step with
      | item index => simp [reach?]
      | member key =>
        simp only [reach?, Option.bind_eq_some_iff, member?_eq_some_iff apart]
        constructor
        · rintro ⟨⟨key, value⟩, among, rest, same, deeper⟩
          cases same
          exact ⟨value, among, (ih (each _ among)).mp deeper⟩
        · rintro ⟨value, among, reached⟩
          exact ⟨(key, value), among, steps, rfl, (ih (each _ among)).mpr reached⟩
    | _ => simp [texts, reach?]

/-- A number is read again as a number or as nothing. -/
theorem reread_number {number : Number} (tidy : Tidy (.number number)) :
    number.reread = .null ∨ ∃ other, number.reread = .number other := by
  cases tidy with
  | integer whole => exact .inr ⟨_, reread_integer whole⟩
  | float value => exact (@readAs_float 0 value).2

/-- What is read again is a text where it was this text, and only there. -/
theorem reread_eq_string (tidy : Tidy value) {text : String} :
    value.reread = .string text ↔ value = .string text := by
  cases value with
  | number number =>
    rw [reread]
    rcases tidy.reread_number with null | ⟨other, same⟩
    · simp [null]
    · simp [same]
  | _ => simp [reread]

/-- Steps lead through what is read again to what is read again of the parts. -/
theorem reach?_reread (tidy : Tidy value) (steps : List Step) :
    (reach? steps value.reread = none ∧ reach? steps value = none) ∨
      ∃ part, Tidy part ∧ reach? steps value = some part ∧ reach? steps value.reread = some part.reread := by
  induction steps generalizing value with
  | nil => exact .inr ⟨value, tidy, rfl, rfl⟩
  | cons step steps ih =>
    cases tidy with
    | @array items each =>
      cases step with
      | member key => exact .inl ⟨rfl, rfl⟩
      | item index =>
        rw [reread, rereadItems_eq, reach?, reach?, List.getElem?_map]
        cases found : items[index]? with
        | none => exact .inl ⟨rfl, rfl⟩
        | some item => exact ih (each item (List.mem_of_getElem? found))
    | @object members apart each =>
      cases step with
      | item index => exact .inl ⟨rfl, rfl⟩
      | member key =>
        have kept : ((rereadMembers members).map (·.1)) = members.map (·.1) := by
          simp [rereadMembers_eq, Function.comp_def]
        have under : member? key (filed [] (rereadMembers members)) = (member? key members).map reread := by
          rw [member?_filed_apart (kept ▸ apart), rereadMembers_eq]
          clear apart each kept
          induction members with
          | nil => rfl
          | cons member others ih =>
            rw [List.map_cons, member?, member?, ih]
            split <;> rfl
        rw [reread, reach?, reach?, under]
        cases found : member? key members with
        | none => exact .inl ⟨rfl, rfl⟩
        | some value => exact ih (each _ ((member?_eq_some_iff apart).mp found))
    | integer whole =>
      rw [reread, reread_integer whole]
      exact .inl ⟨by cases step <;> rfl, by cases step <;> rfl⟩
    | float value =>
      rw [reread]
      refine .inl ⟨?_, by cases step <;> rfl⟩
      rcases (Tidy.float value).reread_number with null | ⟨other, same⟩
      · rw [null]
        cases step <;> rfl
      · rw [same]
        cases step <;> rfl
    | _ => exact .inl ⟨by cases step <;> rfl, by cases step <;> rfl⟩

/-- A value that is read again has its texts where they were. -/
theorem reach?_reread_string (tidy : Tidy value) {steps : List Step} {text : String} :
    reach? steps value.reread = some (.string text) ↔ (steps, text) ∈ value.texts := by
  rw [tidy.mem_texts]
  rcases tidy.reach?_reread steps with ⟨nothing, none⟩ | ⟨part, whole, reached, again⟩
  · rw [nothing, none]
  · rw [reached, again, Option.some_inj, Option.some_inj, whole.reread_eq_string]

end Tidy

/-! ### One line -/

/-- A character that breaks no line, and controls nothing else. -/
def Shown (c : Char) : Prop :=
  0x20 ≤ c.toNat

instance (c : Char) : Decidable (Shown c) :=
  inferInstanceAs (Decidable (0x20 ≤ c.toNat))

/-- A digit can be seen. -/
theorem shown_of_isDigit {c : Char} (digit : c.isDigit = true) : Shown c := by
  simp only [Char.isDigit, Bool.and_eq_true, decide_eq_true_eq, ge_iff_le, UInt32.le_iff_toNat_le] at digit
  have low : 48 ≤ c.toNat := digit.1
  unfold Shown
  omega

/-- Letters can be seen when a look at each of them says so. -/
theorem shown_of_all {letters : List Char} (each : letters.all (0x20 ≤ ·.toNat) = true) :
    ∀ c ∈ letters, Shown c :=
  fun c among => of_decide_eq_true (List.all_eq_true.mp each c among)

/-- What the writer makes of a character of a text can be seen. -/
theorem shown_escapedChar (c : Char) : ∀ d ∈ escapedChar c, Shown d := by
  unfold escapedChar
  split
  case h_8 =>
    split
    · rename_i control
      have digits : ∀ value, value < 16 → Shown (Nat.digitChar value) := by decide
      have high := digits (c.toNat / 16) (by omega)
      have low := digits (c.toNat % 16) (by omega)
      simp only [List.forall_mem_cons, List.not_mem_nil, false_implies, implies_true, and_true]
      exact ⟨by decide, by decide, by decide, by decide, high, low⟩
    · rename_i shown
      rw [List.forall_mem_singleton]
      exact Nat.le_of_not_lt shown
  all_goals exact shown_of_all (by decide)

/-- A string in its quotation marks can be seen. -/
theorem shown_quote (text : String) : ∀ c ∈ quote text, Shown c := by
  intro c among
  simp only [quote, escaped, List.cons_append, List.mem_cons, List.mem_append, List.mem_flatMap,
    List.not_mem_nil, or_false] at among
  rcases among with rfl | ⟨d, -, among⟩ | rfl
  · decide
  · exact shown_escapedChar d c among
  · decide

/-- A number can be seen. -/
theorem shown_write (number : Number) : ∀ c ∈ number.write.toList, Shown c := by
  cases number with
  | integer value =>
    intro c among
    rw [Number.write, Decimal.toList_toString, List.mem_append] at among
    rcases among with sign | digit
    · split at sign
      · rw [List.mem_singleton.mp sign]
        decide
      · cases sign
    · exact shown_of_isDigit ((Decimal.isNumeral_toDigits value.natAbs).2 c digit)
  | float value =>
    rcases Decimal.write_float value with null | marked
    · rw [null]
      exact shown_of_all (by decide)
    · intro c among
      rcases marked.each c among with digit | rfl | rfl | rfl | rfl
      · exact shown_of_isDigit digit
      all_goals decide

/-- Joined lists of characters can be seen when each of them can. -/
theorem shown_commaJoined {items : List (List Char)} (each : ∀ item ∈ items, ∀ c ∈ item, Shown c) :
    ∀ c ∈ commaJoined items, Shown c := by
  induction items with
  | nil => simp [commaJoined]
  | cons item others ih =>
    rw [List.forall_mem_cons] at each
    cases others with
    | nil => exact each.1
    | cons next others =>
      have joined : commaJoined (item :: next :: others) = item ++ ',' :: commaJoined (next :: others) := rfl
      rw [joined, List.forall_mem_append, List.forall_mem_cons]
      exact ⟨each.1, by decide, ih each.2⟩

/-- What is written on one line has no character that breaks it. -/
theorem shown_compactChars (value : Json) : ∀ c ∈ value.compactChars, Shown c := by
  have between {opening closing : Char} (opens : Shown opening) (closes : Shown closing) {body : List Char}
      (inside : ∀ c ∈ body, Shown c) : ∀ c ∈ opening :: body ++ [closing], Shown c := by
    rw [List.forall_mem_append, List.forall_mem_cons, List.forall_mem_singleton]
    exact ⟨⟨opens, inside⟩, closes⟩
  induction value using nested_induction with
  | null => exact shown_of_all (by decide)
  | bool value => cases value <;> exact shown_of_all (by decide)
  | number value => exact shown_write value
  | string text => exact shown_quote text
  | array items ih =>
    refine between (by decide) (by decide) (shown_commaJoined ?_)
    rw [compactItems_eq, List.forall_mem_map]
    exact ih
  | object members ih =>
    refine between (by decide) (by decide) (shown_commaJoined ?_)
    rw [compactMembers_eq, List.forall_mem_map]
    intro member among
    rw [List.nil_append, List.nil_append, List.forall_mem_append, List.forall_mem_cons]
    exact ⟨shown_quote member.1, by decide, ih member among⟩

/-! ### Documents -/

/-- Two documents, the second on one line, are read as one value, in which these texts stand and no others. -/
structure Faithful (pretty compact : String) (texts : Texts) : Prop where
  read : ∃ held, parse pretty = .ok held ∧ parse compact = .ok held ∧
    ∀ steps text, reach? steps held = some (.string text) ↔ (steps, text) ∈ texts
  shown : ∀ c ∈ compact.toList, Shown c

/-- The documents of a value are faithful to its texts. -/
theorem Tidy.faithful {value : Json} (tidy : Tidy value) (shallow : value.depth < depthLimit) :
    Faithful value.pretty value.compact value.texts where
  read := ⟨value.reread, tidy.parse_pretty shallow, tidy.parse_compact shallow,
    fun _ _ => tidy.reach?_reread_string⟩
  shown := by
    rw [compact, String.toList_ofList]
    exact value.shown_compactChars

end Placard.Json

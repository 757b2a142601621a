import Placard.Extraction
import Placard.Proofs.Json.Complete
import Placard.Proofs.Json.Sound
import Placard.Proofs.Machine.Path
import Placard.Proofs.Text.Blank

/-! Values taken out of JSON bodies: the node at the end of a path of keys, as a text. -/

namespace Placard

namespace Text

/-- Keys without dots are the pieces of the path that dots join. -/
theorem splitAt_joinWith {keys : List String} (some_ : keys ≠ [])
    (dotless : ∀ key ∈ keys, '.' ∉ key.toList) : splitAt '.' (joinWith "." keys) = keys := by
  induction keys with
  | nil => exact absurd rfl some_
  | cons key others ih =>
    rw [List.forall_mem_cons] at dotless
    -- No dot parts a key, so that its only piece is itself.
    have single : pieces (· == '.') key.toList = [key.toList] := pieces_single fun c member => by
      rw [beq_eq_false_iff_ne]
      rintro rfl
      exact dotless.1 member
    cases others with
    | nil => simp [joinWith, splitAt, single]
    | cons next others =>
      have rest := ih (List.cons_ne_nil _ _) dotless.2
      rw [splitAt] at rest
      have letters : (joinWith "." (key :: next :: others)).toList =
          key.toList ++ '.' :: (joinWith "." (next :: others)).toList := by
        simp [joinWith]
      rw [splitAt, letters, pieces_append (by decide), single, List.map_append, rest]
      simp

end Text

namespace Extraction

/-- What a node comes to as a text, without blanks around it. -/
def Shows : Json → String → Prop
  -- An array or an object is written again, with the members of objects sorted.
  | .string value, shown => shown = Text.trim value
  | .null, shown => shown = ""
  | .bool value, shown => shown = toString value
  | .number (.integer value), shown => shown = toString value
  | .number value, shown => shown = Text.trim value.write
  | .array items, shown => Json.parse shown = .ok (Json.array items).normal
  | .object members, shown => Json.parse shown = .ok (Json.object members).normal

/-- A decimal number has no blanks. -/
theorem trim_integer (value : Int) : Text.trim (toString value) = toString value := by
  refine Text.trim_of_forall fun c member => ?_
  rw [Decimal.toList_toString, List.mem_append] at member
  -- A sign is no blank, and neither is a digit.
  rcases member with sign | digit
  · split at sign
    · rw [List.mem_singleton.mp sign]
      rfl
    · cases sign
  · exact Text.isBlank_of_isDigit ((Decimal.isNumeral_toDigits _).2 c digit)

/-- Marks around a text keep its blanks from being trimmed. -/
theorem trim_compact {value : Json} {opening closing : Char} {body : List Char}
    (enclosed : value.compactChars = opening :: body ++ [closing])
    (begins : Text.isBlank opening = false) (ends : Text.isBlank closing = false) :
    Text.trim value.compact = value.compact := by
  have letters : value.compact.toList = opening :: body ++ [closing] := by
    rw [Json.compact, String.toList_ofList, enclosed]
  refine Text.trim_solid (fun c front => ?_) (fun c back => ?_)
  · rw [letters, List.cons_append, List.head?_cons, Option.some.injEq] at front
    exact front ▸ begins
  · rw [letters, List.getLast?_concat, Option.some.injEq] at back
    exact back ▸ ends

/-- The text of a node in normal form shows the node. -/
theorem shows_nodeText {node : Json} (whole : node.Whole) (shallow : node.depth < Json.depthLimit) :
    Shows node (Text.trim (nodeText node.normal)) := by
  -- What is written of a normal form is read as that form, which filing its members does not change.
  have read := Json.parse_compact whole.normal ((Json.depth_normal node).trans_lt shallow)
  rw [Json.normal_normal] at read
  cases node with
  | null => rfl
  | bool value => cases value <;> rfl
  | number value =>
    cases value with
    | integer value =>
      have written : nodeText (Json.number (.integer value)).normal = toString value :=
        String.ofList_toList
      exact (congrArg Text.trim written).trans (trim_integer value)
    | float value =>
      rw [Json.Whole] at whole
      exact whole.elim
  | string value => rfl
  | array items =>
    have kept : Text.trim (Json.array items).normal.compact = (Json.array items).normal.compact :=
      trim_compact rfl rfl rfl
    exact (congrArg Json.parse kept).trans read
  | object members =>
    have kept : Text.trim (Json.object members).normal.compact = (Json.object members).normal.compact :=
      trim_compact rfl rfl rfl
    exact (congrArg Json.parse kept).trans read

end Extraction

namespace Json

/-- Where keys lead, numbers are whole and the nesting is no deeper. -/
theorem Leads.inside {keys : List String} {value node : Json} (leads : Leads keys value node) :
    (value.Whole → node.Whole) ∧ node.depth ≤ value.depth := by
  induction leads with
  | here value => exact ⟨id, Nat.le_refl _⟩
  | @member key keys before after value node last others ih =>
    have among : (key, value) ∈ before ++ (key, value) :: after := by simp
    constructor
    · intro whole
      rw [Whole, wholeMembers_iff] at whole
      exact ih.1 (whole _ among)
    · have inner : value.depth ≤ _ := depthMembers_le_iff.mp (Nat.le_refl _) _ among
      rw [depth]
      omega

end Json

/-- A path of keys takes out of a JSON body the node to which the keys lead, or finds no match.

The body is any text that writes the value, with gaps, escapes and repeated keys as they come; of
several members with one key the last counts. A body that writes no value is a fault of its JSON
for every path that is not blank, and is taken as a whole for a blank one. -/
theorem extract_json :
    (∀ {value : Json} {body : String} {keys : List String}, Json.Writes body value → value.Whole →
      value.depth < Json.depthLimit → (∀ key ∈ keys, '.' ∉ key.toList) →
      Text.allBlank (Text.joinWith "." keys) = false →
      let found := extract body .json (Text.joinWith "." keys)
      (found = .error .noMatch ↔ ¬ ∃ node, Json.Leads keys value node) ∧
        ∀ node, Json.Leads keys value node → ∃ shown, found = .ok shown ∧ Extraction.Shows node shown) ∧
    ∀ {body : String}, (¬ ∃ value, Json.Writes body value) → ∀ path,
      (Text.allBlank path = false → ∃ fault, extract body .json path = .error (.badJson body fault)) ∧
        (Text.allBlank path = true → extract body .json path = .ok (Text.trim body)) := by
  constructor
  · intro value body keys writes whole shallow dotless filled found
    have some_ : keys ≠ [] := by
      rintro rfl
      cases filled
    -- The body is read as the normal form of its value, and the path is parted into its keys again.
    have along : found = (Json.descend? keys value.normal).elim (.error .noMatch) fun node =>
        .ok (Text.trim (Extraction.nodeText node)) := by
      simp only [found, extract, filled, Bool.false_eq_true, if_false, Extraction.alongPath,
        Json.parse_writes writes whole shallow, Text.splitAt_joinWith some_ dotless]
      cases Json.descend? keys value.normal <;> rfl
    rw [along]
    cases reached : Json.descend? keys value.normal with
    | none =>
      -- The keys lead nowhere, else the node would have been reached.
      have nowhere : ∀ node, ¬ Json.Leads keys value node := fun node leads => by
        have found := Json.descend?_normal.mpr ⟨node, leads, rfl⟩
        rw [reached] at found
        cases found
      exact ⟨iff_of_true rfl fun ⟨node, leads⟩ => nowhere node leads, fun node leads =>
        absurd leads (nowhere node)⟩
    | some held =>
      -- Keys that lead to a node in several ways lead to one normal form, so its text shows each.
      obtain ⟨other, led, -⟩ := Json.descend?_normal.mp reached
      refine ⟨iff_of_false (fun same => by cases same) fun none_ => none_ ⟨other, led⟩, fun node leads => ?_⟩
      have same := Json.descend?_normal.mpr ⟨node, leads, rfl⟩
      rw [reached, Option.some.injEq] at same
      subst same
      obtain ⟨kept, nested⟩ := leads.inside
      exact ⟨_, rfl, Extraction.shows_nodeText (kept whole) (nested.trans_lt shallow)⟩
  · intro body none_ path
    constructor
    · intro filled
      cases read : Json.parse body with
      | ok value => exact absurd (Json.writes_of_parse read) none_
      | error fault => exact ⟨fault, by simp [extract, filled, Extraction.alongPath, read]⟩
    · intro blank
      simp [extract, blank]

/-- A key that stands twice, an empty key, a text with blanks around it, and a body without a value. -/
theorem extract_json_repeated :
    let inner : Json := .object [("", .array [.number (.integer (-7)), .null]), ("b", .string " \"x\" ")]
    let value : Json := .object [("a", .null), ("a", inner)]
    value.Whole ∧ value.depth < Json.depthLimit ∧
      extract value.compact .json "a.b" = .ok "\"x\"" ∧
      extract value.compact .json "a.c" = .error .noMatch ∧
      (∃ shown, extract value.compact .json "a." = .ok shown ∧
        Json.parse shown = .ok (.array [.number (.integer (-7)), .null])) ∧
      ∃ fault, extract "" .json "a" = .error (.badJson "" fault) := by
  intro inner value
  have whole : value.Whole := by
    simp [value, inner, Json.Whole, Json.WholeMembers, Json.WholeItems, Json.maxWord]
  have shallow : value.depth < Json.depthLimit := by decide
  have writes := Json.writes_compact whole
  have led {key : String} {node : Json} (leads : Json.Leads [key] inner node) :
      Json.Leads ["a", key] value node :=
    @Json.Leads.member "a" [key] [("a", .null)] [] inner node List.not_mem_nil leads
  refine ⟨whole, shallow, ?_, ?_, ?_, ?_⟩
  · have leads : Json.Leads ["b"] inner (.string " \"x\" ") :=
      @Json.Leads.member "b" [] [("", _)] [] _ _ List.not_mem_nil (.here _)
    obtain ⟨shown, found, same⟩ :=
      (extract_json.1 writes whole shallow (by decide) (by decide)).2 _ (led leads)
    have trimmed : shown = "\"x\"" := same.trans (by decide)
    exact trimmed ▸ found
  · have missing : ¬ ∃ node, Json.Leads ["a", "c"] value node := by
      rintro ⟨node, leads⟩
      have reached := Json.descend?_normal.mpr ⟨node, leads, rfl⟩
      have absent : (Json.descend? ["a", "c"] value.normal).isNone = true := by decide +kernel
      rw [reached] at absent
      cases absent
    exact (extract_json.1 writes whole shallow (by decide) (by decide)).1.mpr missing
  · have leads : Json.Leads [""] inner (.array [.number (.integer (-7)), .null]) :=
      @Json.Leads.member "" [] [] [("b", _)] _ _ (by decide) (.here _)
    exact (extract_json.1 writes whole shallow (by decide) (by decide)).2 _ (led leads)
  · refine (extract_json.2 ?_ "a").1 (by decide)
    rintro ⟨value, before, written, after, -, own, -, same⟩
    obtain ⟨c, rest, rfl, -, -⟩ := own.head
    simp at same

end Placard

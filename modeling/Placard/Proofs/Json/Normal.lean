import Placard.Proofs.Json.Grammar
import Mathlib.Data.String.Basic

/-! Values as readers give them: members in the order of their keys, the last of a key alone. -/

namespace Placard.Json

/-- Members filed one after another among those held, each in its place. -/
def filed (held : List (String × Json)) : List (String × Json) → List (String × Json) :=
  List.foldl (fun held member => insertSorted member.1 member.2 held) held

mutual

/-- A value with the members of its objects sorted by their keys, of which the last of each stays. -/
def normal : Json → Json
  | .array items => .array (normalItems items)
  | .object members => .object (filed [] (normalMembers members))
  | value => value

/-- The items of an array, each with its members sorted. -/
def normalItems : List Json → List Json
  | [] => []
  | item :: others => normal item :: normalItems others

/-- The members of an object where they stand, each with its own members sorted. -/
def normalMembers : List (String × Json) → List (String × Json)
  | [] => []
  | (key, value) :: others => (key, normal value) :: normalMembers others

end

/-! ### Looking keys up -/

/-- A member that is filed is found under its key, and changes nothing for other keys. -/
theorem member?_insertSorted (key wanted : String) (value : Json) (members : List (String × Json)) :
    member? wanted (insertSorted key value members) =
      if key = wanted then some value else member? wanted members := by
  induction members with
  | nil => rfl
  | cons member others ih =>
    obtain ⟨name, held⟩ := member
    rw [insertSorted]
    split
    · -- The member takes the place of one with the same key.
      rename_i same
      subst same
      by_cases found : key = wanted <;> simp [member?, found]
    · rename_i different
      split
      · -- The member comes before all others.
        rfl
      · -- The member goes further in; the first of the others has a key of its own.
        by_cases found : key = wanted
        · subst found
          simpa [member?, Ne.symm different] using ih
        · simp [member?, ih, found]

/-- Under a key stands the last member with the key; where there is none, what was held. -/
theorem member?_filed {key : String} {value : Json} {held members : List (String × Json)} :
    member? key (filed held members) = some value ↔
      (∃ before after, members = before ++ (key, value) :: after ∧ key ∉ after.map (·.1)) ∨
      key ∉ members.map (·.1) ∧ member? key held = some value := by
  induction members generalizing held with
  | nil => simp [filed]
  | cons member others ih =>
    obtain ⟨name, first⟩ := member
    have next : filed held ((name, first) :: others) = filed (insertSorted name first held) others := rfl
    rw [next, ih, member?_insertSorted]
    constructor
    · rintro (⟨before, after, rfl, last⟩ | ⟨absent, found⟩)
      · -- A later member with the key takes the place of this one.
        exact .inl ⟨(name, first) :: before, after, rfl, last⟩
      · -- None of the others has the key, so this one is the last that can.
        split at found
        · rename_i same
          cases found
          exact .inl ⟨[], others, by rw [same]; rfl, absent⟩
        · rename_i different
          refine .inr ⟨?_, found⟩
          simpa [Ne.symm different] using absent
    · rintro (⟨before, after, parted, last⟩ | ⟨absent, found⟩)
      · cases before with
        | nil =>
          obtain ⟨same, rfl⟩ := List.cons.inj parted
          obtain ⟨rfl, rfl⟩ := Prod.mk.inj same
          exact .inr ⟨last, if_pos rfl⟩
        | cons _ before => exact .inl ⟨before, after, (List.cons.inj parted).2, last⟩
      · rw [List.map_cons, List.mem_cons, not_or] at absent
        refine .inr ⟨absent.2, ?_⟩
        rw [if_neg (Ne.symm absent.1), found]

/-- The members of an object are made normal one by one. -/
theorem normalMembers_eq (members : List (String × Json)) :
    normalMembers members = members.map fun member => (member.1, member.2.normal) := by
  induction members with
  | nil => rfl
  | cons member others ih => rw [normalMembers, ih, List.map_cons]

/-- Keys lead through objects to a value, each time by the last member with the key. -/
inductive Leads : List String → Json → Json → Prop
  | here (value : Json) : Leads [] value value
  | member {key : String} {keys : List String} {before after : List (String × Json)}
      {value node : Json} (last : key ∉ after.map (·.1)) (others : Leads keys value node) :
      Leads (key :: keys) (.object (before ++ (key, value) :: after)) node

/-- In the normal form of a value, keys lead to the normal forms of the values to which they lead. -/
theorem descend?_normal {keys : List String} {value found : Json} :
    descend? keys value.normal = some found ↔ ∃ node, Leads keys value node ∧ found = node.normal := by
  induction keys generalizing value with
  | nil =>
    constructor
    · rintro ⟨rfl⟩
      exact ⟨value, .here value, rfl⟩
    · rintro ⟨node, leads, rfl⟩
      cases leads
      rfl
  | cons key keys ih =>
    cases value with
    | object members =>
      rw [normal, descend?, Option.bind_eq_some_iff]
      -- What an object holds under a key once its members are filed, told of the members as they stood.
      have under (value : Json) : member? key (filed [] (normalMembers members)) = some value ↔
          ∃ before after node, members = before ++ (key, node) :: after ∧
            key ∉ after.map (·.1) ∧ value = node.normal := by
        rw [member?_filed, normalMembers_eq]
        constructor
        · rintro (⟨before, after, parted, last⟩ | ⟨-, held⟩)
          · obtain ⟨first, second, rfl, rfl, behind⟩ := List.map_eq_append_iff.mp parted
            obtain ⟨⟨_, node⟩, rest, rfl, same, rfl⟩ := List.map_eq_cons_iff.mp behind
            obtain ⟨rfl, rfl⟩ := Prod.mk.inj same
            exact ⟨first, rest, node, rfl, by simpa [Function.comp_def] using last, rfl⟩
          · cases held
        · rintro ⟨before, after, node, rfl, last, rfl⟩
          exact .inl ⟨_, _, by rw [List.map_append, List.map_cons], by simpa [Function.comp_def] using last⟩
      constructor
      · rintro ⟨inner, reached, further⟩
        obtain ⟨before, after, node, rfl, last, rfl⟩ := (under inner).mp reached
        obtain ⟨end_, leads, rfl⟩ := ih.mp further
        exact ⟨end_, .member last leads, rfl⟩
      · rintro ⟨node, leads, rfl⟩
        -- The object is named, so that the last step of the way can be taken apart.
        generalize same : Json.object members = root at leads
        cases leads with
        | @member _ _ before after value _ last others =>
          cases same
          exact ⟨value.normal, (under _).mpr ⟨before, after, value, rfl, last, rfl⟩,
            ih.mpr ⟨node, others, rfl⟩⟩
    | _ =>
      -- Keys lead nowhere from what is no object.
      simp only [normal, descend?, reduceCtorEq, false_iff]
      rintro ⟨node, leads, -⟩
      cases leads

/-! ### What stays when members are filed -/

/-- What stands among members after one is filed was there before, or is that one. -/
theorem mem_insertSorted {key : String} {value : Json} {members : List (String × Json)}
    {member : String × Json} (among : member ∈ insertSorted key value members) :
    member = (key, value) ∨ member ∈ members := by
  induction members with
  | nil => exact .inl (List.mem_singleton.mp among)
  | cons other others ih =>
    obtain ⟨name, held⟩ := other
    rw [insertSorted] at among
    split at among
    · exact (List.mem_cons.mp among).imp_right (List.mem_cons_of_mem _)
    · split at among
      · exact List.mem_cons.mp among
      · rcases List.mem_cons.mp among with same | later
        · exact .inr (same ▸ List.mem_cons_self)
        · exact (ih later).imp_right (List.mem_cons_of_mem _)

/-- Filed members were held before or are among those that were filed. -/
theorem mem_filed {held members : List (String × Json)} {member : String × Json}
    (among : member ∈ filed held members) : member ∈ held ∨ member ∈ members := by
  induction members generalizing held with
  | nil => exact .inl among
  | cons first others ih =>
    rcases ih among with early | later
    · rcases mem_insertSorted early with same | before
      · exact .inr (same ▸ List.mem_cons_self)
      · exact .inl before
    · exact .inr (List.mem_cons_of_mem _ later)

/-- A member of an object in normal form is the normal form of one of its members. -/
theorem mem_normal {members : List (String × Json)} {member : String × Json}
    (among : member ∈ filed [] (normalMembers members)) :
    ∃ origin ∈ members, member = (origin.1, origin.2.normal) := by
  rw [normalMembers_eq] at among
  obtain ⟨origin, listed, same⟩ := List.mem_map.mp ((mem_filed among).resolve_left List.not_mem_nil)
  exact ⟨origin, listed, same.symm⟩

/-- What holds of plain values, and of arrays and objects if of all in them, holds of every value. -/
@[elab_as_elim]
theorem nested_induction {motive : Json → Prop} (null : motive .null) (bool : ∀ value, motive (.bool value))
    (number : ∀ value, motive (.number value)) (string : ∀ value, motive (.string value))
    (array : ∀ items, (∀ item ∈ items, motive item) → motive (.array items))
    (object : ∀ members, (∀ member ∈ members, motive member.2) → motive (.object members))
    (value : Json) : motive value :=
  -- The recursor also asks for the lists of items and of members, whose motives say "each of them".
  Json.rec null bool number string array object
    (fun _ absent => absurd absent List.not_mem_nil)
    (fun _ _ first others item among => by
      rcases List.mem_cons.mp among with rfl | later
      · exact first
      · exact others item later)
    (fun _ absent => absurd absent List.not_mem_nil)
    (fun _ _ first others member among => by
      rcases List.mem_cons.mp among with rfl | later
      · exact first
      · exact others member later)
    (fun _ _ held => held) value

/-- The items of an array are made normal one by one. -/
theorem normalItems_eq (items : List Json) : normalItems items = items.map normal := by
  induction items with
  | nil => rfl
  | cons item others ih => rw [normalItems, ih, List.map_cons]

/-- The numbers among items are whole when those of each item are. -/
theorem wholeItems_iff {items : List Json} : WholeItems items ↔ ∀ item ∈ items, Whole item := by
  induction items with
  | nil => simp [WholeItems]
  | cons item others ih => simp [WholeItems, ih]

/-- The numbers among members are whole when those of each value are. -/
theorem wholeMembers_iff {members : List (String × Json)} :
    WholeMembers members ↔ ∀ member ∈ members, Whole member.2 := by
  induction members with
  | nil => simp [WholeMembers]
  | cons member others ih => rw [WholeMembers, ih, List.forall_mem_cons]

/-- The nesting among items is bounded when that of each item is. -/
theorem depthItems_le_iff {items : List Json} {bound : Nat} :
    depthItems items ≤ bound ↔ ∀ item ∈ items, depth item ≤ bound := by
  induction items with
  | nil => simp [depthItems]
  | cons item others ih => rw [depthItems, Nat.max_le, ih, List.forall_mem_cons]

/-- The nesting among members is bounded when that of each value is. -/
theorem depthMembers_le_iff {members : List (String × Json)} {bound : Nat} :
    depthMembers members ≤ bound ↔ ∀ member ∈ members, depth member.2 ≤ bound := by
  induction members with
  | nil => simp [depthMembers]
  | cons member others ih => rw [depthMembers, Nat.max_le, ih, List.forall_mem_cons]

/-- The numbers in a normal form are whole when those of the value are. -/
theorem Whole.normal {value : Json} (whole : Whole value) : Whole value.normal := by
  induction value using nested_induction with
  | array items ih =>
    rw [Whole, wholeItems_iff] at whole
    rw [Json.normal, Whole, wholeItems_iff, normalItems_eq, List.forall_mem_map]
    exact fun item among => ih item among (whole item among)
  | object members ih =>
    rw [Whole, wholeMembers_iff] at whole
    rw [Json.normal, Whole, wholeMembers_iff]
    intro member among
    obtain ⟨origin, listed, rfl⟩ := mem_normal among
    exact ih origin listed (whole origin listed)
  | _ => exact whole

/-- A normal form is nested no deeper than the value. -/
theorem depth_normal (value : Json) : value.normal.depth ≤ value.depth := by
  induction value using nested_induction with
  | array items ih =>
    rw [Json.normal, depth, depth, Nat.add_le_add_iff_right, depthItems_le_iff, normalItems_eq,
      List.forall_mem_map]
    exact fun item among => (ih item among).trans (depthItems_le_iff.mp (Nat.le_refl _) item among)
  | object members ih =>
    rw [Json.normal, depth, depth, Nat.add_le_add_iff_right, depthMembers_le_iff]
    intro member among
    obtain ⟨origin, listed, rfl⟩ := mem_normal among
    exact (ih origin listed).trans (depthMembers_le_iff.mp (Nat.le_refl _) origin listed)
  | _ => exact Nat.le_refl _

/-! ### Normal forms stay as they are -/

/-- The keys of members rise from each to the next. -/
def Rising (members : List (String × Json)) : Prop :=
  members.Pairwise (·.1 < ·.1)

/-- Filing one member keeps the keys rising. -/
theorem Rising.insertSorted {members : List (String × Json)} (rising : Rising members) (key : String)
    (value : Json) : Rising (insertSorted key value members) := by
  induction members with
  | nil => exact List.pairwise_singleton _ _
  | cons member others ih =>
    obtain ⟨name, held⟩ := member
    obtain ⟨above, rest⟩ := List.pairwise_cons.mp rising
    rw [Json.insertSorted]
    split
    · -- The key is there already, and only its value changes.
      rename_i same
      exact List.pairwise_cons.mpr ⟨same ▸ above, rest⟩
    · rename_i different
      split
      · -- The key is below the first one, hence below all.
        rename_i below
        refine List.pairwise_cons.mpr ⟨?_, rising⟩
        rw [List.forall_mem_cons]
        exact ⟨below, fun other among => below.trans (above other among)⟩
      · -- The key goes further in: the first key stays below the old ones and the new one.
        rename_i beyond
        refine List.pairwise_cons.mpr ⟨fun other among => ?_, ih rest⟩
        rcases mem_insertSorted among with rfl | later
        · exact lt_of_le_of_ne (not_lt.mp beyond) (Ne.symm different)
        · exact above other later

/-- Filing members keeps the keys rising. -/
theorem Rising.filed {held : List (String × Json)} (rising : Rising held)
    (members : List (String × Json)) : Rising (filed held members) := by
  induction members generalizing held with
  | nil => exact rising
  | cons member others ih => exact ih (rising.insertSorted member.1 member.2)

/-- A member whose key is above all others goes to the end. -/
theorem insertSorted_above {key : String} {value : Json} {members : List (String × Json)}
    (above : ∀ member ∈ members, member.1 < key) :
    insertSorted key value members = members ++ [(key, value)] := by
  induction members with
  | nil => rfl
  | cons member others ih =>
    obtain ⟨name, held⟩ := member
    rw [List.forall_mem_cons] at above
    rw [insertSorted, if_neg above.1.ne', if_neg above.1.asymm, ih above.2]
    rfl

/-- Members whose keys rise are filed as they stand. -/
theorem filed_rising {held members : List (String × Json)} (rising : Rising (held ++ members)) :
    filed held members = held ++ members := by
  induction members generalizing held with
  | nil => exact (List.append_nil held).symm
  | cons member others ih =>
    -- The next member belongs at the end of those already held.
    have above : ∀ other ∈ held, other.1 < member.1 := fun other among =>
      (List.pairwise_append.mp rising).2.2 other among member List.mem_cons_self
    have next : filed held (member :: others) =
        filed (insertSorted member.1 member.2 held) others := rfl
    rw [List.append_cons] at rising
    rw [next, insertSorted_above above, ih rising, ← List.append_cons]

/-- The normal form of a normal form is itself. -/
theorem normal_normal (value : Json) : value.normal.normal = value.normal := by
  induction value using nested_induction with
  | array items ih =>
    rw [normal, normal, normalItems_eq, normalItems_eq, List.map_map]
    exact congrArg Json.array (List.map_congr_left ih)
  | object members ih =>
    -- Each filed member is a normal form already, and their keys rise, so filing again moves nothing.
    have kept : normalMembers (filed [] (normalMembers members)) = filed [] (normalMembers members) := by
      rw [normalMembers_eq]
      refine (List.map_congr_left fun member among => ?_).trans (List.map_id _)
      obtain ⟨origin, listed, rfl⟩ := mem_normal among
      exact Prod.ext rfl (ih origin listed)
    rw [normal, normal, kept]
    exact congrArg Json.object (filed_rising (Rising.filed List.Pairwise.nil _))
  | _ => rfl

end Placard.Json

/-! Actions that may fail: a failure ends the action, and a value is handed on. -/

namespace Placard

variable {ε α β : Type}

/-- What comes next goes on with the value. -/
@[simp] theorem ok_bind (value : α) (next : α → Except ε β) :
    (Except.ok value >>= next) = next value := rfl

/-- After a failure nothing comes next. -/
@[simp] theorem error_bind (fault : ε) (next : α → Except ε β) :
    (Except.error fault >>= next) = .error fault := rfl

/-- An action in two steps succeeds when both do. -/
theorem bind_eq_ok_iff {first : Except ε α} {next : α → Except ε β} {value : β} :
    (first >>= next) = .ok value ↔ ∃ found, first = .ok found ∧ next found = .ok value := by
  cases first with
  | error fault => simp
  | ok found => simp

/-- Behind a check, an action succeeds when nothing was found wrong and the rest of it succeeds. -/
theorem check_eq_ok_iff {wrong : Prop} [Decidable wrong] {fault : ε} {rest : PUnit → Except ε β}
    {value : β} :
    (if wrong then (throw fault : Except ε PUnit) >>= rest else rest ⟨⟩) = .ok value ↔
      ¬ wrong ∧ rest ⟨⟩ = .ok value := by
  by_cases found : wrong
  · rw [if_pos found]
    exact iff_of_false (fun same => nomatch same) fun ⟨fine, _⟩ => fine found
  · rw [if_neg found]
    exact (and_iff_right found).symm

/-- An action that fails in the end fails, however far it comes. -/
theorem bind_fails (action : Except ε α) {next : α → Except ε β}
    (fails : ∀ value, ∃ fault, next value = .error fault) :
    ∃ fault, (action >>= next) = .error fault := by
  cases action with
  | error fault => exact ⟨fault, rfl⟩
  | ok value => exact fails value

/-- Throwing is failing. -/
@[simp] theorem throw_eq_error (fault : ε) : (throw fault : Except ε α) = .error fault := rfl

/-- Giving a value is succeeding. -/
@[simp] theorem pure_eq_ok (value : α) : (pure value : Except ε α) = .ok value := rfl

/-- Changing the value of a success changes nothing else. -/
@[simp] theorem map_ok (change : α → β) (value : α) :
    (Except.ok value : Except ε α).map change = .ok (change value) := rfl

/-- Without its fault, a result has a value exactly when it is a success with the value. -/
theorem toOption_eq_some_iff {action : Except ε α} {value : α} :
    action.toOption = some value ↔ action = .ok value := by
  cases action with
  | error fault => simp [Except.toOption]
  | ok found => simp [Except.toOption]

/-- The value of a success may be changed before or after the fault is left out. -/
theorem toOption_map (action : Except ε α) (change : α → β) :
    (action.map change).toOption = action.toOption.map change := by
  cases action <;> rfl

/-- An action whose value is changed succeeds when the action does. -/
theorem map_eq_ok_iff {action : Except ε α} {change : α → β} {value : β} :
    action.map change = .ok value ↔ ∃ found, action = .ok found ∧ change found = value := by
  cases action with
  | error fault =>
    constructor
    · rintro ⟨⟩
    · rintro ⟨_, ⟨⟩, _⟩
  | ok found => simp

/-- Rewording the fault of a success changes nothing. -/
@[simp] theorem mapError_ok (reword : ε → β) (value : α) :
    (Except.ok value : Except ε α).mapError reword = .ok value := rfl

/-- An action whose fault is reworded succeeds when the action does. -/
theorem mapError_eq_ok_iff {action : Except ε α} {reword : ε → β} {value : α} :
    action.mapError reword = .ok value ↔ action = .ok value := by
  cases action with
  | error fault =>
    constructor
    · rintro ⟨⟩
    · rintro ⟨⟩
  | ok found => simp

/-! ### Two actions -/

/-- Two actions end alike: both with the same fault, or both with values that are related. -/
inductive EndAlike (related : α → β → Prop) : Except ε α → Except ε β → Prop
  | error (fault : ε) : EndAlike related (.error fault) (.error fault)
  | ok {value : α} {value' : β} (same : related value value') :
    EndAlike related (.ok value) (.ok value')

/-- An action ends like itself. -/
theorem EndAlike.refl (action : Except ε α) : EndAlike Eq action action := by
  cases action with
  | error fault => exact .error fault
  | ok value => exact .ok rfl

/-- Two actions that end alike fail with one fault or succeed with related values. -/
theorem EndAlike.either {related : α → β → Prop} {action : Except ε α} {action' : Except ε β}
    (alike : EndAlike related action action') :
    (∃ fault, action = .error fault ∧ action' = .error fault) ∨
    ∃ value value', related value value' ∧ action = .ok value ∧ action' = .ok value' := by
  cases alike with
  | error fault => exact .inl ⟨fault, rfl, rfl⟩
  | ok same => exact .inr ⟨_, _, same, rfl, rfl⟩

/-- Actions in two steps end alike when both steps do. -/
theorem EndAlike.bind {γ δ : Type} {related : α → β → Prop} {after : γ → δ → Prop}
    {first : Except ε α} {first' : Except ε β} {next : α → Except ε γ} {next' : β → Except ε δ}
    (begins : EndAlike related first first')
    (goes : ∀ value value', related value value' → EndAlike after (next value) (next' value')) :
    EndAlike after (first >>= next) (first' >>= next') := by
  cases begins with
  | error fault => exact .error fault
  | ok same => exact goes _ _ same

end Placard

import Mathlib.Data.List.Forall2

/-!
# Lists that are read item by item

Reading every item of a list gives the values of the items, place by place (`mapM_eq_some_iff`). So
what holds of the value of an item comes from an item of the list, and the other way round.
-/

namespace ContractAtlas

variable {α β γ : Type}

/-- Reading a list gives values exactly when each item reads as the value in its place. -/
theorem mapM_eq_some_iff {read : α → Option β} {items : List α} {values : List β} :
    items.mapM read = some values ↔
      List.Forall₂ (fun item value => read item = some value) items values := by
  induction items generalizing values with
  | nil => simp [eq_comm]
  | cons item later inductionHypothesis =>
      cases values with
      | nil => simp [Option.bind_eq_some_iff]
      | cons value others =>
          rw [List.forall₂_cons, ← inductionHypothesis]
          simp [Option.bind_eq_some_iff]

/-- Every item on the right of a list related item by item has a partner on the left. -/
theorem exists_of_mem_forall₂ {relates : α → β → Prop} {left : List α} {right : List β}
    (related : List.Forall₂ relates left right) {item : β} (member : item ∈ right) :
    ∃ partner ∈ left, relates partner item := by
  induction related with
  | nil => cases member
  | cons first _ inductionHypothesis =>
      rcases List.mem_cons.mp member with rfl | member
      · exact ⟨_, List.mem_cons_self, first⟩
      · obtain ⟨partner, inside, holds⟩ := inductionHypothesis member
        exact ⟨partner, List.mem_cons_of_mem _ inside, holds⟩

/-- Two lists related item by item to the same sources: each part on one side comes from a source
that some value on the other side comes from too. -/
theorem exists_of_mem_of_forall₂ {reads : α → β → Prop} {denotes : α → γ → Prop}
    {sources : List α} {parts : List β} {values : List γ}
    (read : List.Forall₂ reads sources parts) (readValues : List.Forall₂ denotes sources values)
    {part : β} (member : part ∈ parts) :
    ∃ source, reads source part ∧ ∃ value ∈ values, denotes source value := by
  induction read generalizing values with
  | nil => cases member
  | cons first _ inductionHypothesis =>
      cases readValues with
      | cons valueFirst valueLater =>
          rcases List.mem_cons.mp member with rfl | member
          · exact ⟨_, first, _, List.mem_cons_self, valueFirst⟩
          · obtain ⟨source, holds, value, inside, denoted⟩ :=
              inductionHypothesis valueLater member
            exact ⟨source, holds, value, List.mem_cons_of_mem _ inside, denoted⟩

end ContractAtlas

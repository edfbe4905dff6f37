import Mathlib.Data.List.Pairwise

/-! # Rows of a table -/

namespace ChatsEngine

variable {Row : Type u} {Selected : Row → Prop} [DecidablePred Selected]
  {change : Row → Row} {rows : List Row}

def modifyFirst (Selected : Row → Prop) [DecidablePred Selected]
    (change : Row → Row) : List Row → List Row
  | [] => []
  | row :: rows =>
      if Selected row then change row :: rows
      else row :: modifyFirst Selected change rows

theorem mem_modifyFirst {row : Row}
    (member : row ∈ modifyFirst Selected change rows) :
    row ∈ rows ∨ ∃ before ∈ rows, Selected before ∧ row = change before := by
  induction rows with
  | nil => cases member
  | cons first rest induction =>
      rw [modifyFirst] at member
      split at member
      · next selected =>
          rcases List.mem_cons.mp member with rfl | later
          · exact .inr ⟨first, List.mem_cons_self, selected, rfl⟩
          · exact .inl (List.mem_cons_of_mem _ later)
      · rcases List.mem_cons.mp member with rfl | later
        · exact .inl List.mem_cons_self
        · rcases induction later with unchanged | ⟨before, listed, selected, same⟩
          · exact .inl (List.mem_cons_of_mem _ unchanged)
          · exact .inr ⟨before, List.mem_cons_of_mem _ listed, selected, same⟩

theorem mem_modifyFirst_of_not_selected {row : Row}
    (member : row ∈ rows) (spared : ¬Selected row) :
    row ∈ modifyFirst Selected change rows := by
  induction rows with
  | nil => cases member
  | cons first rest induction =>
      rw [modifyFirst]
      split
      · next selected =>
          rcases List.mem_cons.mp member with rfl | later
          · exact absurd selected spared
          · exact List.mem_cons_of_mem _ later
      · rcases List.mem_cons.mp member with rfl | later
        · exact List.mem_cons_self
        · exact List.mem_cons_of_mem _ (induction later)

theorem modifyFirst_pairwise {Related : Row → Row → Prop}
    (respected : ∀ left right, Related left right →
      Related (change left) right ∧ Related left (change right))
    (pairwise : rows.Pairwise Related) :
    (modifyFirst Selected change rows).Pairwise Related := by
  induction rows with
  | nil => exact pairwise
  | cons first rest induction =>
      rw [List.pairwise_cons] at pairwise
      rcases pairwise with ⟨firstRelated, restPairwise⟩
      rw [modifyFirst]
      split
      · rw [List.pairwise_cons]
        exact ⟨fun row member => (respected first row (firstRelated row member)).1,
          restPairwise⟩
      · rw [List.pairwise_cons]
        refine ⟨?_, induction restPairwise⟩
        intro row member
        rcases mem_modifyFirst member with unchanged | ⟨before, listed, _, rfl⟩
        · exact firstRelated row unchanged
        · exact (respected first before (firstRelated before listed)).2

theorem not_selected_of_mem_modifyFirst
    (atMostOne : rows.Pairwise fun left right => Selected left → ¬Selected right)
    (takesOut : ∀ row, ¬Selected (change row)) {row : Row}
    (member : row ∈ modifyFirst Selected change rows) : ¬Selected row := by
  induction rows with
  | nil => cases member
  | cons first rest induction =>
      rw [List.pairwise_cons] at atMostOne
      rw [modifyFirst] at member
      split at member
      · next selected =>
          rcases List.mem_cons.mp member with rfl | later
          · exact takesOut first
          · exact atMostOne.1 row later selected
      · next spared =>
          rcases List.mem_cons.mp member with rfl | later
          · exact spared
          · exact induction atMostOne.2 later

end ChatsEngine

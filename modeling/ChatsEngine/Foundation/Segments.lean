import Mathlib.Data.List.Basic

/-! # Segments

The items of a sequence between its interruptions. Each segment comes with the mark of the
interruption that it follows, the first one with a mark of its own. -/

namespace ChatsEngine

variable {Item : Type u} {Mark : Type v}

def segments (interrupts : Item → Bool) (mark : Item → Mark) (first : Mark)
    (items : List Item) : List (Mark × List Item) :=
  (first :: (items.filter interrupts).map mark).zip (items.splitOnP interrupts)

namespace Segments

variable {interrupts : Item → Bool} {mark : Item → Mark} {first : Mark} {item : Item}
  {items : List Item}

@[simp] theorem segments_nil : segments interrupts mark first [] = [(first, [])] := rfl

theorem segments_cons_of_interrupts (interrupting : interrupts item = true) :
    segments interrupts mark first (item :: items) =
      (first, []) :: segments interrupts mark (mark item) items := by
  rw [segments, segments, List.splitOnP_cons_eq_if_modifyHead, if_pos interrupting,
    List.filter_cons_of_pos interrupting, List.map_cons, List.zip_cons_cons]

theorem exists_segments_eq_cons (interrupts : Item → Bool) (mark : Item → Mark)
    (items : List Item) :
    ∃ segment later, ∀ first : Mark,
      segments interrupts mark first items = (first, segment) :: later := by
  cases split : items.splitOnP interrupts with
  | nil => exact absurd split (List.splitOnP_ne_nil _ _)
  | cons segment rest =>
      refine ⟨segment, ((items.filter interrupts).map mark).zip rest, fun first => ?_⟩
      rw [segments, split, List.zip_cons_cons]

theorem segments_cons_of_not_interrupts (continuing : interrupts item = false)
    {segment : List Item} {later : List (Mark × List Item)}
    (rest : segments interrupts mark first items = (first, segment) :: later) :
    segments interrupts mark first (item :: items) = (first, item :: segment) :: later := by
  cases split : items.splitOnP interrupts with
  | nil => exact absurd split (List.splitOnP_ne_nil _ _)
  | cons own others =>
      rw [segments, split, List.zip_cons_cons] at rest
      cases rest
      rw [segments, List.splitOnP_cons_eq_if_modifyHead, if_neg (by simp [continuing]), split,
        List.filter_cons_of_neg (by simp [continuing]), List.modifyHead_cons, List.zip_cons_cons]

end Segments

end ChatsEngine

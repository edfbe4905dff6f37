import Mathlib.Data.List.Infix
import Mathlib.Tactic.Common

/-! # Search from the right

The last place at which a pattern occurs in a sequence. -/

namespace ChatsEngine

variable {Item : Type u} [DecidableEq Item]

def rfind (pattern : List Item) : List Item → Option Nat
  | [] => if pattern = [] then some 0 else none
  | item :: items =>
      match rfind pattern items with
      | some index => some (index + 1)
      | none => if pattern <+: item :: items then some 0 else none

namespace Search

variable {pattern before after items : List Item} {index : Nat}

theorem rfind_eq_none_iff : rfind pattern items = none ↔ ¬pattern <:+: items := by
  induction items with
  | nil => simp [rfind]
  | cons item items induction =>
      rw [rfind, List.infix_cons_iff, not_or]
      cases found : rfind pattern items with
      | some index =>
          have occurs : pattern <:+: items := by
            by_contra absent
            rw [induction.mpr absent] at found
            cases found
          simp [occurs]
      | none => simp [induction.mp found]

theorem isPrefix_of_rfind (found : rfind pattern items = some index) :
    pattern <+: items.drop index := by
  induction items generalizing index with
  | nil =>
      rw [rfind] at found
      split at found
      · next isNil =>
          rw [isNil]
          exact List.nil_prefix
      · cases found
  | cons item items induction =>
      rw [rfind] at found
      cases later : rfind pattern items with
      | some index =>
          rw [later] at found
          cases found
          exact induction later
      | none =>
          rw [later] at found
          by_cases begins : pattern <+: item :: items
          · cases (if_pos begins).symm.trans found
            exact begins
          · cases (if_neg begins).symm.trans found

theorem rfind_append (before : List Item) (begins : pattern <+: items) (nonempty : items ≠ [])
    (absent : ¬pattern <:+: items.tail) :
    rfind pattern (before ++ items) = some before.length := by
  induction before with
  | nil =>
      cases items with
      | nil => exact absurd rfl nonempty
      | cons item items =>
          have none : rfind pattern items = none := rfind_eq_none_iff.mpr absent
          rw [List.nil_append, rfind, none]
          exact if_pos begins
  | cons item before induction =>
      rw [List.cons_append, rfind, induction]
      rfl

theorem rfind_of_isSuffix (nonempty : pattern ≠ []) (ends : pattern <:+ items) :
    rfind pattern items = some (items.length - pattern.length) := by
  rcases ends with ⟨before, rfl⟩
  rw [rfind_append before (List.prefix_refl _) nonempty, List.length_append,
    Nat.add_sub_cancel]
  intro occurs
  have shorter := occurs.length_le
  have positive := List.length_pos_of_ne_nil nonempty
  rw [List.length_tail] at shorter
  omega

omit [DecidableEq Item] in
theorem three_infix_append_iff {first second third : Item} :
    [first, second, third] <:+: before ++ after ↔
      [first, second, third] <:+: before ∨ [first, second, third] <:+: after ∨
        [first] <:+ before ∧ [second, third] <+: after ∨
          [first, second] <:+ before ∧ [third] <+: after := by
  rw [List.infix_append_iff_ne_nil]
  apply or_congr_right
  apply or_congr_right
  constructor
  · intro given
    rcases given with ⟨left, right, hasLeft, hasRight, split, isLeft, isRight⟩
    rcases left with _ | ⟨one, _ | ⟨two, _ | ⟨three, left⟩⟩⟩
    · exact absurd rfl hasLeft
    · cases split
      exact .inl ⟨isLeft, isRight⟩
    · cases split
      exact .inr ⟨isLeft, isRight⟩
    · have lengths := congrArg List.length split
      have positive := List.length_pos_of_ne_nil hasRight
      simp only [List.length_append, List.length_cons, List.length_nil] at lengths
      omega
  · rintro (⟨isLeft, isRight⟩ | ⟨isLeft, isRight⟩)
    · exact ⟨[first], [second, third], by simp, by simp, rfl, isLeft, isRight⟩
    · exact ⟨[first, second], [third], by simp, by simp, rfl, isLeft, isRight⟩

end Search

end ChatsEngine

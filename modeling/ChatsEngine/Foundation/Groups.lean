import Mathlib.Data.List.Induction
import Mathlib.Data.List.Nodup
import Mathlib.Tactic.Common

/-! # Groups

Items collected under keys, in the order in which the keys come up first. -/

namespace ChatsEngine

variable {Key : Type u} {Item : Type v} [DecidableEq Key]

abbrev Groups (Key : Type u) (Item : Type v) := List (Key × List Item)

namespace Groups

def add (groups : Groups Key Item) (key : Key) (item : Item) : Groups Key Item :=
  match groups with
  | [] => [(key, [item])]
  | group :: groups =>
      if group.1 = key then (group.1, group.2 ++ [item]) :: groups
      else group :: add groups key item

def collect (keyOf : Item → Key) (items : List Item) : Groups Key Item :=
  items.foldl (fun groups item => groups.add (keyOf item) item) []

/-- What the groups are after items have been added to them. -/
structure Collects (keyOf : Item → Key) (items : List Item) (groups : Groups Key Item) :
    Prop where
  distinct : (groups.map Prod.fst).Nodup
  nonempty : ∀ group ∈ groups, group.2 ≠ []
  belongs : ∀ group ∈ groups, ∀ item ∈ group.2, item ∈ items ∧ keyOf item = group.1
  collected : ∀ item ∈ items, ∃ group ∈ groups, item ∈ group.2

variable {keyOf : Item → Key} {items : List Item} {groups : Groups Key Item} {key : Key}
  {item : Item} {group : Key × List Item}

theorem mem_keys_add {other : Key} (listed : other ∈ (groups.add key item).map Prod.fst) :
    other = key ∨ other ∈ groups.map Prod.fst := by
  induction groups with
  | nil => exact .inl (List.mem_singleton.mp listed)
  | cons first groups induction =>
      rw [add] at listed
      split at listed
      · exact .inr listed
      · rw [List.map_cons, List.mem_cons] at listed ⊢
        rcases listed with isFirst | later
        · exact .inr (.inl isFirst)
        · rcases induction later with isKey | known
          · exact .inl isKey
          · exact .inr (.inr known)

theorem nodup_keys_add (distinct : (groups.map Prod.fst).Nodup) :
    ((groups.add key item).map Prod.fst).Nodup := by
  induction groups with
  | nil => exact List.nodup_singleton key
  | cons first groups induction =>
      rw [add]
      split
      · exact distinct
      · next other =>
          rw [List.map_cons, List.nodup_cons] at distinct ⊢
          refine ⟨fun listed => ?_, induction distinct.2⟩
          rcases mem_keys_add listed with isKey | known
          · exact other isKey
          · exact distinct.1 known

theorem mem_add (listed : group ∈ groups.add key item) :
    group ∈ groups ∨ group = (key, [item]) ∨
      ∃ before, (key, before) ∈ groups ∧ group = (key, before ++ [item]) := by
  induction groups with
  | nil => exact .inr (.inl (List.mem_singleton.mp listed))
  | cons first groups induction =>
      rw [add] at listed
      split at listed
      · next isKey =>
          rcases List.mem_cons.mp listed with rfl | later
          · rw [isKey]
            exact .inr (.inr ⟨first.2, isKey ▸ List.mem_cons_self, rfl⟩)
          · exact .inl (List.mem_cons_of_mem _ later)
      · rcases List.mem_cons.mp listed with rfl | later
        · exact .inl List.mem_cons_self
        · rcases induction later with known | isNew | ⟨before, known, grown⟩
          · exact .inl (List.mem_cons_of_mem _ known)
          · exact .inr (.inl isNew)
          · exact .inr (.inr ⟨before, List.mem_cons_of_mem _ known, grown⟩)

theorem exists_add_of_mem {other : Item} (listed : group ∈ groups) (member : other ∈ group.2) :
    ∃ after ∈ groups.add key item, other ∈ after.2 := by
  induction groups with
  | nil => exact absurd listed List.not_mem_nil
  | cons first groups induction =>
      rw [add]
      split
      · rcases List.mem_cons.mp listed with rfl | later
        · exact ⟨_, List.mem_cons_self, List.mem_append_left _ member⟩
        · exact ⟨group, List.mem_cons_of_mem _ later, member⟩
      · rcases List.mem_cons.mp listed with rfl | later
        · exact ⟨group, List.mem_cons_self, member⟩
        · rcases induction later with ⟨after, isAfter, isMember⟩
          exact ⟨after, List.mem_cons_of_mem _ isAfter, isMember⟩

theorem exists_add_self (groups : Groups Key Item) (key : Key) (item : Item) :
    ∃ after ∈ groups.add key item, item ∈ after.2 := by
  induction groups with
  | nil => exact ⟨_, List.mem_singleton.mpr rfl, List.mem_singleton.mpr rfl⟩
  | cons first groups induction =>
      rw [add]
      split
      · exact ⟨_, List.mem_cons_self, List.mem_append_right _ (List.mem_singleton.mpr rfl)⟩
      · rcases induction with ⟨after, isAfter, isMember⟩
        exact ⟨after, List.mem_cons_of_mem _ isAfter, isMember⟩

theorem Collects.add (collects : Collects keyOf items groups) (item : Item) :
    Collects keyOf (items ++ [item]) (groups.add (keyOf item) item) where
  distinct := nodup_keys_add collects.distinct
  nonempty := by
    intro group listed
    rcases mem_add listed with known | rfl | ⟨before, _, rfl⟩
    · exact collects.nonempty group known
    · exact List.cons_ne_nil _ _
    · simp
  belongs := by
    intro group listed other member
    rcases mem_add listed with known | rfl | ⟨before, known, rfl⟩
    · have belongs := collects.belongs group known other member
      exact ⟨List.mem_append_left _ belongs.1, belongs.2⟩
    · cases List.mem_singleton.mp member
      exact ⟨List.mem_append_right _ member, rfl⟩
    · rcases List.mem_append.mp member with earlier | new
      · have belongs := collects.belongs _ known other earlier
        exact ⟨List.mem_append_left _ belongs.1, belongs.2⟩
      · cases List.mem_singleton.mp new
        exact ⟨List.mem_append_right _ new, rfl⟩
  collected := by
    intro other listed
    rcases List.mem_append.mp listed with earlier | new
    · rcases collects.collected other earlier with ⟨group, known, member⟩
      exact exists_add_of_mem known member
    · cases List.mem_singleton.mp new
      exact exists_add_self groups _ _

theorem collects_collect (keyOf : Item → Key) (items : List Item) :
    Collects keyOf items (collect keyOf items) := by
  induction items using List.reverseRecOn with
  | nil =>
      exact ⟨List.nodup_nil, fun _ none => absurd none List.not_mem_nil,
        fun _ none => absurd none List.not_mem_nil, fun _ none => absurd none List.not_mem_nil⟩
  | append_singleton items item induction =>
      rw [collect, List.foldl_append, List.foldl_cons, List.foldl_nil]
      exact induction.add item

end Groups

end ChatsEngine

import ChatsEngine.Foundation.Machine
import Mathlib.Algebra.BigOperators.Group.List.Basic
import Mathlib.Data.List.Perm.Basic
import Mathlib.Algebra.Order.Group.Multiset
import Mathlib.Tactic.Abel

/-! # Cascades

Items wait to be handled, in any order. To handle one may make others, which wait as well. If
each of them weighs so much less that all of them are lighter than the one they are made from,
then no more items are ever handled than the weights of those that were given. -/

namespace ChatsEngine

structure Cascade (Item Choice Result : Type) where
  /-- How the handling of an item ends, if the choice lets it end. -/
  handle : Item → Choice → Option Result
  /-- What a handled item leaves to be handled. -/
  makes : Result → List Item

structure CascadeState (Item Result : Type) where
  waiting : List Item
  given : List Item
  /-- Every item that has been handled, and how. -/
  handled : List (Item × Result)

inductive CascadeEvent (Item Choice : Type)
  | give (item : Item)
  | handle (position : Nat) (choice : Choice)

namespace CascadeState

variable {Item Choice Result : Type}

def empty : CascadeState Item Result := ⟨[], [], []⟩

def made (cascade : Cascade Item Choice Result) (state : CascadeState Item Result) : List Item :=
  state.handled.flatMap fun entry => cascade.makes entry.2

end CascadeState

namespace Cascade

variable {Item Choice Result : Type} (cascade : Cascade Item Choice Result)

def step (state : CascadeState Item Result) :
    CascadeEvent Item Choice → Option (CascadeState Item Result)
  | .give item =>
      some { state with waiting := state.waiting ++ [item], given := state.given ++ [item] }
  | .handle position choice =>
      match state.waiting[position]? with
      | none => none
      | some item =>
          match cascade.handle item choice with
          -- The item waits on.
          | none => some state
          | some result =>
              some { state with
                waiting := state.waiting.eraseIdx position ++ cascade.makes result
                handled := state.handled ++ [(item, result)] }

def machine : Machine (CascadeState Item Result) (CascadeEvent Item Choice) where
  step := cascade.step

variable {cascade}

theorem step_cases {state next : CascadeState Item Result} {event : CascadeEvent Item Choice}
    (stepped : cascade.machine.step state event = some next) :
    (∃ item, next = { state with
        waiting := state.waiting ++ [item], given := state.given ++ [item] }) ∨
      next = state ∨
      ∃ position item choice result, state.waiting[position]? = some item ∧
        cascade.handle item choice = some result ∧
        next = { state with
          waiting := state.waiting.eraseIdx position ++ cascade.makes result
          handled := state.handled ++ [(item, result)] } := by
  cases event with
  | give item => exact .inl ⟨item, (Option.some.inj stepped).symm⟩
  | handle position choice =>
      change cascade.step state (.handle position choice) = some next at stepped
      rw [step] at stepped
      split at stepped
      · cases stepped
      · next item found =>
        split at stepped
        · exact .inr (.inl (Option.some.inj stepped).symm)
        · next result handles =>
          exact .inr (.inr ⟨position, item, choice, result, found, handles,
            (Option.some.inj stepped).symm⟩)

/-- Nothing is lost, and nothing is handled twice. -/
def Conserved (cascade : Cascade Item Choice Result) (state : CascadeState Item Result) : Prop :=
  (state.given ++ state.made cascade).Perm (state.waiting ++ state.handled.map (·.1))

theorem perm_eraseIdx {items : List Item} {position : Nat} {item : Item}
    (found : items[position]? = some item) : items.Perm (item :: items.eraseIdx position) := by
  rcases List.getElem?_eq_some_iff.mp found with ⟨within, here⟩
  rw [← here]
  exact (List.getElem_cons_eraseIdx_perm within).symm

theorem conserved_step {state next : CascadeState Item Result} {event : CascadeEvent Item Choice}
    (conserved : Conserved cascade state)
    (stepped : cascade.machine.step state event = some next) : Conserved cascade next := by
  rcases step_cases stepped with ⟨item, same⟩ | same |
    ⟨position, item, choice, result, found, -, same⟩
  · subst same
    unfold Conserved CascadeState.made at conserved ⊢
    calc (state.given ++ [item]) ++ state.handled.flatMap (fun entry => cascade.makes entry.2)
        _ = state.given ++ ([item] ++
            state.handled.flatMap (fun entry => cascade.makes entry.2)) := List.append_assoc ..
        List.Perm _ (state.given ++
            (state.handled.flatMap (fun entry => cascade.makes entry.2) ++ [item])) :=
          List.perm_append_comm.append_left _
        _ = (state.given ++ state.handled.flatMap (fun entry => cascade.makes entry.2)) ++
            [item] := (List.append_assoc ..).symm
        List.Perm _ ((state.waiting ++ state.handled.map (·.1)) ++ [item]) :=
          conserved.append_right _
        _ = state.waiting ++ (state.handled.map (·.1) ++ [item]) := List.append_assoc ..
        List.Perm _ (state.waiting ++ ([item] ++ state.handled.map (·.1))) :=
          List.perm_append_comm.append_left _
        _ = (state.waiting ++ [item]) ++ state.handled.map (·.1) := (List.append_assoc ..).symm
  · subst same
    exact conserved
  · subst same
    unfold Conserved CascadeState.made at conserved ⊢
    simp only [List.flatMap_append, List.flatMap_cons, List.flatMap_nil, List.append_nil,
      List.map_append, List.map_cons, List.map_nil]
    rw [← List.append_assoc]
    have taken := perm_eraseIdx found
    calc (state.given ++ state.handled.flatMap (fun entry => cascade.makes entry.2)) ++
          cascade.makes result
        List.Perm _ ((state.waiting ++ state.handled.map (·.1)) ++ cascade.makes result) :=
          conserved.append_right _
        List.Perm _ (((item :: state.waiting.eraseIdx position) ++ state.handled.map (·.1)) ++
            cascade.makes result) := (taken.append_right _).append_right _
        List.Perm _ ((state.waiting.eraseIdx position ++ cascade.makes result) ++
            (state.handled.map (·.1) ++ [item])) := by
          rw [← Multiset.coe_eq_coe]
          simp only [← Multiset.coe_add, ← Multiset.cons_coe, ← Multiset.singleton_add,
            Multiset.coe_nil, add_zero]
          abel

section Runs

variable {condition : CascadeState Item Result → CascadeEvent Item Choice → Prop}
  {final : CascadeState Item Result}

/-- Nothing is lost in any run. -/
theorem conserved_of_reaches (reaches : cascade.machine.Reaches condition .empty final) :
    Conserved cascade final :=
  reaches.invariant (List.Perm.refl []) fun _ _ _ conserved _ stepped =>
    conserved_step conserved stepped

/-- Every item has been handled as the cascade does it. -/
theorem handled_of_reaches (reaches : cascade.machine.Reaches condition .empty final) :
    ∀ entry ∈ final.handled, ∃ choice, cascade.handle entry.1 choice = some entry.2 := by
  apply reaches.invariant
  · intro entry member
    cases member
  · intro current event next handledSo _ stepped
    rcases step_cases stepped with ⟨item, same⟩ | same |
      ⟨position, item, choice, result, -, handles, same⟩
    · subst same
      exact handledSo
    · subst same
      exact handledSo
    · subst same
      intro entry member
      rcases List.mem_append.mp member with before | new
      · exact handledSo entry before
      · rw [List.mem_singleton.mp new]
        exact ⟨choice, handles⟩

end Runs

/-! ## Weights -/

section Weights

variable (weight : Item → Nat)

def weigh (items : List Item) : Nat := (items.map weight).sum

@[simp] theorem weigh_append (items others : List Item) :
    weigh weight (items ++ others) = weigh weight items + weigh weight others := by
  rw [weigh, List.map_append, List.sum_append]
  rfl

@[simp] theorem weigh_cons (item : Item) (items : List Item) :
    weigh weight (item :: items) = weight item + weigh weight items := by
  rw [weigh, List.map_cons, List.sum_cons]
  rfl

@[simp] theorem weigh_nil : weigh weight [] = 0 := rfl

theorem weigh_perm {items others : List Item} (same : items.Perm others) :
    weigh weight items = weigh weight others :=
  (same.map weight).sum_eq

theorem weigh_le {bound : Nat} {items : List Item}
    (bounded : ∀ item ∈ items, weight item ≤ bound) :
    weigh weight items ≤ items.length * bound := by
  induction items with
  | nil => exact Nat.zero_le _
  | cons item items induction =>
      have ofHead := bounded item List.mem_cons_self
      have ofTail := induction fun other member => bounded other (List.mem_cons_of_mem _ member)
      rw [weigh_cons, List.length_cons, Nat.succ_mul]
      omega

def Lightens (cascade : Cascade Item Choice Result) : Prop :=
  ∀ item choice result, cascade.handle item choice = some result →
    weigh weight (cascade.makes result) < weight item

variable {weight}

theorem weight_step (lightens : Lightens weight cascade)
    {state next : CascadeState Item Result} {event : CascadeEvent Item Choice}
    (bounded : state.handled.length + weigh weight state.waiting ≤ weigh weight state.given)
    (stepped : cascade.machine.step state event = some next) :
    next.handled.length + weigh weight next.waiting ≤ weigh weight next.given := by
  rcases step_cases stepped with ⟨item, same⟩ | same |
    ⟨position, item, choice, result, found, handles, same⟩
  · subst same
    simp only [weigh_append, weigh_cons, weigh_nil]
    omega
  · subst same
    exact bounded
  · subst same
    have taken := weigh_perm weight (perm_eraseIdx found)
    have lighter := lightens item choice result handles
    rw [weigh_cons] at taken
    simp only [weigh_append, List.length_append, List.length_singleton]
    omega

/-- No more items are handled than the given ones weigh. -/
theorem length_handled_of_reaches (lightens : Lightens weight cascade)
    {condition : CascadeState Item Result → CascadeEvent Item Choice → Prop}
    {final : CascadeState Item Result}
    (reaches : cascade.machine.Reaches condition .empty final) :
    final.handled.length + weigh weight final.waiting ≤ weigh weight final.given :=
  reaches.invariant (Nat.zero_le _) fun _ _ _ bounded _ stepped =>
    weight_step lightens bounded stepped

end Weights

end Cascade

end ChatsEngine

import Mathlib.Logic.Function.Basic

/-! # What a source was over time

A source that others change has been in force, in each of its states, from one instant to
another. A reader that keeps what it has read answers with a state of the past; how old the
answer is, is a statement about the instants at which that state was in force. -/

namespace ChatsEngine

/-- The states of a source, numbered in the order of the changes, and when each of them began. -/
structure Timeline (Source : Type u) where
  changes : Nat
  state : Nat → Source
  began : Nat → Nat

namespace Timeline

variable {Source : Type u} {timeline : Timeline Source} {number time now : Nat}

def start (now : Nat) (source : Source) : Timeline Source where
  changes := 0
  state := fun _ => source
  began := fun _ => now

def current (timeline : Timeline Source) : Source := timeline.state timeline.changes

def change (timeline : Timeline Source) (now : Nat) (source : Source) : Timeline Source where
  changes := timeline.changes + 1
  state := Function.update timeline.state (timeline.changes + 1) source
  began := Function.update timeline.began (timeline.changes + 1) now

@[simp] theorem began_change_last (now : Nat) (source : Source) :
    (timeline.change now source).began (timeline.changes + 1) = now :=
  Function.update_self _ _ _

theorem state_change (now : Nat) (source : Source) (made : number ≤ timeline.changes) :
    (timeline.change now source).state number = timeline.state number :=
  Function.update_of_ne (Nat.ne_of_lt (Nat.lt_succ_of_le made)) _ _

theorem began_change (now : Nat) (source : Source) (made : number ≤ timeline.changes) :
    (timeline.change now source).began number = timeline.began number :=
  Function.update_of_ne (Nat.ne_of_lt (Nat.lt_succ_of_le made)) _ _

@[simp] theorem current_change (now : Nat) (source : Source) :
    (timeline.change now source).current = source :=
  Function.update_self _ _ _

/-- The source was in this state at the given instant. Where it was changed at that instant, this
holds of the state before the change and of the one after it. -/
def InForce (timeline : Timeline Source) (number time : Nat) : Prop :=
  number ≤ timeline.changes ∧ timeline.began number ≤ time ∧
    (number < timeline.changes → time ≤ timeline.began (number + 1))

instance (timeline : Timeline Source) (number time : Nat) :
    Decidable (timeline.InForce number time) :=
  inferInstanceAs (Decidable (_ ∧ _ ∧ (_ → _)))

/-- The present state has begun. -/
def Until (timeline : Timeline Source) (now : Nat) : Prop :=
  timeline.began timeline.changes ≤ now

theorem Until.later {later : Nat} (holds : timeline.Until now) (order : now ≤ later) :
    timeline.Until later :=
  Nat.le_trans holds order

theorem Until.inForce (holds : timeline.Until now) : timeline.InForce timeline.changes now :=
  ⟨Nat.le_refl _, holds, fun impossible => absurd impossible (Nat.lt_irrefl _)⟩

theorem until_start (now : Nat) (source : Source) : (start now source).Until now :=
  Nat.le_refl now

theorem until_change (now : Nat) (source : Source) : (timeline.change now source).Until now :=
  Nat.le_of_eq (began_change_last now source)

structure Extends (timeline after : Timeline Source) (now : Nat) : Prop where
  changes_le : timeline.changes ≤ after.changes
  state_eq : ∀ number ≤ timeline.changes, after.state number = timeline.state number
  inForce : ∀ number time, time ≤ now → timeline.InForce number time → after.InForce number time

theorem Extends.refl (timeline : Timeline Source) (now : Nat) : timeline.Extends timeline now where
  changes_le := Nat.le_refl _
  state_eq := fun _ _ => rfl
  inForce := fun _ _ _ holds => holds

theorem extends_change (timeline : Timeline Source) (now : Nat) (source : Source) :
    timeline.Extends (timeline.change now source) now where
  changes_le := Nat.le_succ _
  state_eq := fun _ made => state_change now source made
  inForce := by
    intro number time order holds
    rcases holds with ⟨made, started, ended⟩
    refine ⟨Nat.le_succ_of_le made, ?_, fun _ => ?_⟩
    · rw [began_change now source made]
      exact started
    · by_cases last : number = timeline.changes
      · subst number
        rw [began_change_last]
        exact order
      · have earlier : number < timeline.changes := Nat.lt_of_le_of_ne made last
        rw [began_change now source earlier]
        exact ended earlier

end Timeline

end ChatsEngine

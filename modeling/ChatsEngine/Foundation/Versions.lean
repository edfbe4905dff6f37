import Mathlib.Logic.Function.Basic

/-! # Versions of a source

A source is changed again and again. Changes are numbered in the order in which they are made,
and a change returns some time after it has been made: until then readers may still get what
was there before it. -/

namespace ChatsEngine

structure Versions (Source : Type u) where
  /-- The source after each change. -/
  version : Nat → Source
  /-- How many changes have been made. -/
  changes : Nat
  /-- The changes that have returned. -/
  returned : List Nat

namespace Versions

variable {Source : Type u} {Value : Type v} {versions after later : Versions Source}
  {read : Source → Value} {value : Value} {seen number : Nat} {since : List Nat}

def current (versions : Versions Source) : Source := versions.version versions.changes

def unchanged (source : Source) : Versions Source where
  version := fun _ => source
  changes := 0
  returned := []

def change (versions : Versions Source) (source : Source) : Versions Source :=
  { versions with
    version := Function.update versions.version (versions.changes + 1) source
    changes := versions.changes + 1 }

def settle (versions : Versions Source) (number : Nat) : Versions Source :=
  { versions with returned := number :: versions.returned }

def Alters (versions : Versions Source) (read : Source → Value) (number : Nat) : Prop :=
  read (versions.version (number - 1)) ≠ read (versions.version number)

instance [DecidableEq Value] (versions : Versions Source) (read : Source → Value) :
    DecidablePred (versions.Alters read) :=
  fun _ => inferInstanceAs (Decidable (_ ≠ _))

/-- No change of the list has altered what is read after the version was seen. -/
def Reflects (versions : Versions Source) (since : List Nat) (read : Source → Value)
    (seen : Nat) : Prop :=
  seen ≤ versions.changes ∧ ∀ number ∈ since, seen < number → ¬versions.Alters read number

instance [DecidableEq Value] (versions : Versions Source) (since : List Nat)
    (read : Source → Value) : DecidablePred (versions.Reflects since read) :=
  fun _ => inferInstanceAs (Decidable (_ ∧ ∀ number ∈ since, _ < number → ¬_))

/-- The value is what is read from a version that reflects the changes of the list. -/
def Answers (versions : Versions Source) (since : List Nat) (read : Source → Value)
    (value : Value) : Prop :=
  ∃ seen, read (versions.version seen) = value ∧ versions.Reflects since read seen

instance [DecidableEq Value] (versions : Versions Source) (since : List Nat)
    (read : Source → Value) : DecidablePred (versions.Answers since read) := by
  intro value
  apply decidable_of_iff (∃ seen ≤ versions.changes,
    read (versions.version seen) = value ∧ versions.Reflects since read seen)
  constructor
  · intro given
    rcases given with ⟨seen, _, answers⟩
    exact ⟨seen, answers⟩
  · intro given
    rcases given with ⟨seen, isRead, reflects⟩
    exact ⟨seen, reflects.1, isRead, reflects⟩

/-- Only changes that have been made return. -/
def MadeBefore (versions : Versions Source) (since : List Nat) : Prop :=
  ∀ number ∈ since, number ≤ versions.changes

structure Extends (versions after : Versions Source) : Prop where
  changes_le : versions.changes ≤ after.changes
  version_eq : ∀ number ≤ versions.changes, after.version number = versions.version number

theorem Extends.refl (versions : Versions Source) : versions.Extends versions where
  changes_le := Nat.le_refl _
  version_eq := fun _ _ => rfl

theorem extends_change (versions : Versions Source) (source : Source) :
    versions.Extends (versions.change source) where
  changes_le := Nat.le_succ _
  version_eq := by
    intro number made
    apply Function.update_of_ne
    omega

theorem extends_settle (versions : Versions Source) (number : Nat) :
    versions.Extends (versions.settle number) where
  changes_le := Nat.le_refl _
  version_eq := fun _ _ => rfl

@[simp] theorem current_change (versions : Versions Source) (source : Source) :
    (versions.change source).current = source := by
  simp [current, change]

theorem alters_change_iff (versions : Versions Source) (source : Source) :
    (versions.change source).Alters read (versions.changes + 1) ↔
      read versions.current ≠ read source := by
  simp [Alters, change, current]

theorem Extends.alters_iff (extended : versions.Extends after) (made : number ≤ versions.changes) :
    after.Alters read number ↔ versions.Alters read number := by
  rw [Alters, Alters, extended.version_eq _ made, extended.version_eq _ (by omega)]

theorem Reflects.extended (reflects : versions.Reflects since read seen)
    (made : versions.MadeBefore since) (extended : versions.Extends after) :
    after.Reflects since read seen := by
  refine ⟨Nat.le_trans reflects.1 extended.changes_le, ?_⟩
  intro number listed later
  rw [extended.alters_iff (made number listed)]
  exact reflects.2 number listed later

theorem Answers.extended (answers : versions.Answers since read value)
    (made : versions.MadeBefore since) (extended : versions.Extends after) :
    after.Answers since read value := by
  rcases answers with ⟨seen, isRead, reflects⟩
  exact ⟨seen, (congrArg read (extended.version_eq seen reflects.1)).trans isRead,
    reflects.extended made extended⟩

theorem Answers.map {Result : Type w} (answers : versions.Answers since read value)
    (make : Value → Result) :
    versions.Answers since (fun source => make (read source)) (make value) := by
  rcases answers with ⟨seen, isRead, madeBefore, unaltered⟩
  refine ⟨seen, congrArg make isRead, madeBefore, ?_⟩
  intro number listed later altered
  apply unaltered number listed later
  intro same
  exact altered (congrArg make same)

theorem MadeBefore.extended (made : versions.MadeBefore since)
    (extended : versions.Extends after) : after.MadeBefore since :=
  fun number listed => Nat.le_trans (made number listed) extended.changes_le

theorem reflects_current (made : versions.MadeBefore since) :
    versions.Reflects since read versions.changes := by
  refine ⟨Nat.le_refl _, ?_⟩
  intro number listed later
  exact absurd (made number listed) (by omega)

theorem answers_current (made : versions.MadeBefore since) :
    versions.Answers since read (read versions.current) :=
  ⟨versions.changes, rfl, reflects_current made⟩

end Versions

end ChatsEngine

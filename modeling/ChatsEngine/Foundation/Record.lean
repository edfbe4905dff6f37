import Mathlib.Data.List.Basic
import Mathlib.Data.Sigma.Basic
import Mathlib.Logic.Function.Basic

/-! # Records by column

A record gives every column a value of the column's own type. Rows of a table
and the instances that a program loads from it are both records, so storing an
instance, storing some of its columns, and updating a row in place can be said
and compared column by column. -/

namespace ChatsEngine

variable {Column : Type u} {Value : Column → Type v} [DecidableEq Column]

abbrev Record (Value : Column → Type v) := (column : Column) → Value column

abbrev Assignment (Value : Column → Type v) := (column : Column) × Value column

namespace Record

/-- The columns that a save with `update_fields` stores; without `update_fields`
it stores all of them. -/
def Stores : Option (List Column) → Column → Prop
  | none, _ => True
  | some columns, column => column ∈ columns

instance (updateFields : Option (List Column)) (column : Column) :
    Decidable (Stores updateFields column) := by
  unfold Stores
  split <;> infer_instance

def store (row instanceValues : Record Value) (updateFields : Option (List Column)) :
    Record Value :=
  fun column => if Stores updateFields column then instanceValues column else row column

def assign (row : Record Value) : List (Assignment Value) → Record Value
  | [] => row
  | assignment :: rest =>
      assign (Function.update row assignment.1 assignment.2) rest

theorem store_of_stores (row instanceValues : Record Value)
    {updateFields : Option (List Column)} {column : Column}
    (stores : Stores updateFields column) :
    row.store instanceValues updateFields column = instanceValues column := by
  simp [store, stores]

theorem store_of_not_stores (row instanceValues : Record Value)
    {updateFields : Option (List Column)} {column : Column}
    (spares : ¬Stores updateFields column) :
    row.store instanceValues updateFields column = row column := by
  simp [store, spares]

theorem assign_of_not_mem {row : Record Value} {assignments : List (Assignment Value)}
    {column : Column} (notMember : column ∉ assignments.map Sigma.fst) :
    row.assign assignments column = row column := by
  induction assignments generalizing row with
  | nil => rfl
  | cons assignment rest induction =>
      rw [List.map_cons, List.mem_cons, not_or] at notMember
      rw [assign, induction notMember.2, Function.update_of_ne notMember.1]

theorem assign_of_mem {row : Record Value} {assignments : List (Assignment Value)}
    (distinct : (assignments.map Sigma.fst).Nodup) {assignment : Assignment Value}
    (member : assignment ∈ assignments) :
    row.assign assignments assignment.1 = assignment.2 := by
  induction assignments generalizing row with
  | nil => cases member
  | cons first rest induction =>
      rw [List.map_cons, List.nodup_cons] at distinct
      rw [assign]
      rcases List.mem_cons.mp member with rfl | later
      · rw [assign_of_not_mem distinct.1, Function.update_self]
      · exact induction distinct.2 later

theorem assign_append (row : Record Value) (first second : List (Assignment Value)) :
    row.assign (first ++ second) = (row.assign first).assign second := by
  induction first generalizing row with
  | nil => rfl
  | cons assignment rest induction => exact induction _

theorem assign_if_self (row : Record Value) {column : Column} (condition : Bool)
    (value : Value column) :
    row.assign (if condition then [⟨column, value⟩] else []) column =
      if condition then value else row column := by
  cases condition with
  | false => rfl
  | true => exact Function.update_self _ _ _

theorem assign_if_other (row : Record Value) {column other : Column} (condition : Bool)
    (value : Value other) (different : column ≠ other) :
    row.assign (if condition then [⟨other, value⟩] else []) column = row column := by
  cases condition with
  | false => rfl
  | true => exact Function.update_of_ne different _ _

omit [DecidableEq Column] in
@[simp] theorem columns_map {Other : Column → Type w}
    (transform : (column : Column) → Value column → Other column)
    (assignments : List (Assignment Value)) :
    (assignments.map (Sigma.map id transform)).map Sigma.fst =
      assignments.map Sigma.fst := by
  rw [List.map_map]
  rfl

end Record

end ChatsEngine

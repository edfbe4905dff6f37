import ChatsEngine.Core.Types
import ChatsEngine.Foundation.JsonWriter
import ChatsEngine.Foundation.Machine
import ChatsEngine.Foundation.Table

/-! # How many status types a project has

`CustomStatusType.save` limits the status types that a project has besides those created by the
system, but looks at the limit only for an instance without a primary key, which a new instance
has from its default. -/

namespace ChatsEngine.Projects.StatusTypes

open JsonText

/-! ## Rows -/

structure StatusTypeRow (Real : Type) where
  name : String
  project : Uuid
  isDeleted : Bool
  config : Option (Value Real)

variable {Real : Type}

namespace StatusTypeRow

/-- Not `config__created_by_system__isnull`. -/
def isSystem (row : StatusTypeRow Real) : Bool :=
  match row.config with
  | some (.object fields) => (Fields.get fields (text "created_by_system")).isSome
  | _ => false

def Counts (project : Uuid) (row : StatusTypeRow Real) : Prop :=
  row.project = project ∧ row.isDeleted = false ∧ row.isSystem = false

instance (project : Uuid) : DecidablePred (@Counts Real project) :=
  fun _ => inferInstanceAs (Decidable (_ ∧ _ ∧ _))

/-- Two rows that the constraint `unique_custom_status` allows beside each other. -/
def Compatible (left right : StatusTypeRow Real) : Prop :=
  left.isDeleted = false → right.isDeleted = false → left.name = right.name →
    left.project ≠ right.project

instance (left right : StatusTypeRow Real) : Decidable (left.Compatible right) :=
  inferInstanceAs (Decidable (_ → _))

end StatusTypeRow

structure StatusTypeTable (Real : Type) where
  rows : Table Uuid (StatusTypeRow Real)
  compatible : ∀ uuid other row otherRow, rows.lookup uuid = some row →
    rows.lookup other = some otherRow → uuid ≠ other → row.Compatible otherRow

namespace StatusTypeTable

def empty : StatusTypeTable Real where
  rows := ∅
  compatible := fun _ _ _ _ impossible => by cases impossible

def Accepts (table : StatusTypeTable Real) (uuid : Uuid) (row : StatusTypeRow Real) : Prop :=
  ∀ entry ∈ table.rows.entries, entry.1 ≠ uuid → row.Compatible entry.2

instance (table : StatusTypeTable Real) (uuid : Uuid) (row : StatusTypeRow Real) :
    Decidable (table.Accepts uuid row) :=
  inferInstanceAs (Decidable (∀ entry ∈ table.rows.entries, _))

def put (table : StatusTypeTable Real) (uuid : Uuid) (row : StatusTypeRow Real)
    (accepts : table.Accepts uuid row) : StatusTypeTable Real where
  rows := table.rows.insert uuid row
  compatible := by
    intro first second firstRow secondRow firstStored secondStored different
    rcases Table.lookup_insert_iff.mp firstStored with ⟨rfl, rfl⟩ | ⟨firstOther, firstBefore⟩
    · rcases Table.lookup_insert_iff.mp secondStored with ⟨rfl, _⟩ | ⟨secondOther, before⟩
      · exact absurd rfl different
      · exact accepts ⟨second, secondRow⟩ (Table.mem_entries_iff.mpr before) secondOther
    · rcases Table.lookup_insert_iff.mp secondStored with ⟨rfl, rfl⟩ | ⟨_, secondBefore⟩
      · have compatible := accepts ⟨first, firstRow⟩ (Table.mem_entries_iff.mpr firstBefore)
          firstOther
        exact fun notDeleted otherNotDeleted sameName sameProject =>
          compatible otherNotDeleted notDeleted sameName.symm sameProject.symm
      · exact table.compatible _ _ _ _ firstBefore secondBefore different

/-- `CustomStatusType.objects.select_for_update().filter(…).count()` -/
def existingCount (table : StatusTypeTable Real) (project : Uuid) : Nat :=
  table.rows.count (StatusTypeRow.Counts project)

end StatusTypeTable

/-! ## Saving -/

inductive StatusTypeColumn
  | name
  | project
  | isDeleted
  | config
deriving DecidableEq, Repr

structure StatusTypeInstance (Real : Type) where
  /-- The primary key, `uuid4` by default. -/
  uuid : Option Uuid
  /-- `_state.adding` -/
  isAdding : Bool
  row : StatusTypeRow Real

/-- A call of `save`. -/
structure SaveCall (Real : Type) where
  subject : StatusTypeInstance Real
  forceInsert : Bool
  updateFields : Option (List StatusTypeColumn)
  /-- The key that is drawn for an instance without one. -/
  drawn : Uuid

inductive SaveError
  | validation (message : String)
  | integrity
  | database
  | value
deriving DecidableEq, Repr

namespace SaveCall

/-- `CustomStatusType.objects.create`, or a serializer without an instance. -/
def create (uuid : Uuid) (row : StatusTypeRow Real) : SaveCall Real where
  subject := ⟨some uuid, true, row⟩
  forceInsert := true
  updateFields := none
  drawn := uuid

/-- An instance that has been loaded is saved, to edit or to restore it. -/
def edit (subject : StatusTypeInstance Real) : SaveCall Real where
  subject := subject
  forceInsert := false
  updateFields := none
  drawn := 0

def delete (subject : StatusTypeInstance Real) : SaveCall Real where
  subject := { subject with row := { subject.row with isDeleted := true } }
  forceInsert := false
  updateFields := some [.isDeleted]
  drawn := 0

variable (call : SaveCall Real)

def uuid : Uuid := call.subject.uuid.getD call.drawn

def setColumn (row : StatusTypeRow Real) : StatusTypeColumn → StatusTypeRow Real
  | .name => { row with name := call.subject.row.name }
  | .project => { row with project := call.subject.row.project }
  | .isDeleted => { row with isDeleted := call.subject.row.isDeleted }
  | .config => { row with config := call.subject.row.config }

/-- The row after an `UPDATE` of the columns. -/
def updated (old : StatusTypeRow Real) : StatusTypeRow Real :=
  match call.updateFields with
  | none => call.subject.row
  | some columns => columns.foldl call.setColumn old

/-- What `Model.save` stores, unless there is nothing to do. An instance that is being added is
inserted with all its columns, any other one is updated if there is a row, and inserted otherwise
unless it names the columns. -/
def stored (table : StatusTypeTable Real) :
    Except SaveError (Option (StatusTypeRow Real)) :=
  if call.forceInsert = true ∧ call.updateFields.getD [] ≠ [] then .error .value
  else if call.updateFields = some [] then .ok none
  else if call.forceInsert = true ∨ call.subject.isAdding = true then
    if call.uuid ∈ table.rows then .error .integrity else .ok (some call.subject.row)
  else
    match table.rows.lookup call.uuid with
    | some old => .ok (some (call.updated old))
    | none =>
        if call.updateFields = none then .ok (some call.subject.row) else .error .database

/-- `super().save(*args, **kwargs)` -/
def modelSave (table : StatusTypeTable Real) : Except SaveError (StatusTypeTable Real) :=
  match call.stored table with
  | .error error => .error error
  | .ok none => .ok table
  | .ok (some row) =>
      if accepts : table.Accepts call.uuid row then .ok (table.put call.uuid row accepts)
      else .error .integrity

def Refused (table : StatusTypeTable Real) : Prop :=
  call.subject.uuid = none ∧ 10 < table.existingCount call.subject.row.project

instance (table : StatusTypeTable Real) : Decidable (call.Refused table) :=
  inferInstanceAs (Decidable (_ ∧ _))

def save (table : StatusTypeTable Real) : Except SaveError (StatusTypeTable Real) :=
  if call.Refused table then
    .error (.validation "A project can have a maximum of 10 custom statuses.")
  else call.modelSave table

end SaveCall

/-- One call of `save` after the other. One that raises changes nothing. -/
def machine (Real : Type) : Machine (StatusTypeTable Real) (SaveCall Real) where
  step table call :=
    match call.save table with
    | .ok after => some after
    | .error _ => some table

/-! ## The limit -/

/-- No project has more than ten status types that count. -/
def Limited (table : StatusTypeTable Real) : Prop :=
  ∀ project, table.existingCount project ≤ 10

def CountsAlready (table : StatusTypeTable Real) (uuid project : Uuid) : Prop :=
  ∃ old ∈ table.rows.lookup uuid, old.Counts project

instance (table : StatusTypeTable Real) (uuid project : Uuid) :
    Decidable (CountsAlready table uuid project) :=
  inferInstanceAs (Decidable (∃ old ∈ _, _))

/-- A row that starts to count for its project finds at most nine others that do, unless it is
refused. -/
def LeavesLimit (table : StatusTypeTable Real) (call : SaveCall Real) : Prop :=
  ∀ row, call.stored table = .ok (some row) → ¬call.Refused table →
    table.Accepts call.uuid row → row.Counts row.project →
    ¬CountsAlready table call.uuid row.project → table.existingCount row.project < 10

theorem existingCount_put (table : StatusTypeTable Real) (uuid : Uuid) (row : StatusTypeRow Real)
    (accepts : table.Accepts uuid row) (project : Uuid) :
    (table.put uuid row accepts).existingCount project +
        (if CountsAlready table uuid project then 1 else 0) =
      table.existingCount project + if row.Counts project then 1 else 0 :=
  Table.count_insert table.rows (StatusTypeRow.Counts project) uuid row

theorem limited_put_iff {table : StatusTypeTable Real} (limited : Limited table) {uuid : Uuid}
    {row : StatusTypeRow Real} (accepts : table.Accepts uuid row) :
    Limited (table.put uuid row accepts) ↔
      (row.Counts row.project → ¬CountsAlready table uuid row.project →
        table.existingCount row.project < 10) := by
  constructor
  · intro after counts notAlready
    have put := existingCount_put table uuid row accepts row.project
    have bound := after row.project
    rw [if_neg notAlready, if_pos counts] at put
    omega
  · intro finds project
    have put := existingCount_put table uuid row accepts project
    have bound := limited project
    by_cases counts : row.Counts project
    · by_cases already : CountsAlready table uuid project
      · rw [if_pos already, if_pos counts] at put
        omega
      · rcases counts with ⟨rfl, notDeleted, notSystem⟩
        have place := finds ⟨rfl, notDeleted, notSystem⟩ already
        rw [if_neg already, if_pos ⟨rfl, notDeleted, notSystem⟩] at put
        omega
    · rw [if_neg counts] at put
      split at put <;> omega

theorem limited_step_iff {table next : StatusTypeTable Real} {call : SaveCall Real}
    (limited : Limited table) (stepped : (machine Real).step table call = some next) :
    Limited next ↔ LeavesLimit table call := by
  simp only [machine, SaveCall.save, SaveCall.modelSave] at stepped
  by_cases refused : call.Refused table
  · rw [if_pos refused] at stepped
    cases stepped
    exact iff_of_true limited fun _ _ notRefused => absurd refused notRefused
  · rw [if_neg refused] at stepped
    cases stored : call.stored table with
    | error error =>
        rw [stored] at stepped
        cases stepped
        refine iff_of_true limited fun row storedRow => ?_
        rw [stored] at storedRow
        cases storedRow
    | ok written =>
        rw [stored] at stepped
        cases written with
        | none =>
            cases stepped
            refine iff_of_true limited fun row storedRow => ?_
            rw [stored] at storedRow
            cases storedRow
        | some row =>
            dsimp only at stepped
            by_cases accepts : table.Accepts call.uuid row
            · rw [dif_pos accepts] at stepped
              cases stepped
              rw [limited_put_iff limited accepts]
              constructor
              · intro finds other storedRow _ _
                rw [stored] at storedRow
                cases storedRow
                exact finds
              · exact fun leaves => leaves row stored refused accepts
            · rw [dif_neg accepts] at stepped
              cases stepped
              refine iff_of_true limited fun other storedRow _ otherAccepts => ?_
              rw [stored] at storedRow
              cases storedRow
              exact absurd otherAccepts accepts

/-- The limit holds throughout exactly when each save that makes a row count finds at most nine
others. -/
theorem limited_throughout_iff {table : StatusTypeTable Real} (limited : Limited table)
    (calls : List (SaveCall Real)) :
    (machine Real).Throughout Limited table calls ↔
      (machine Real).AllSteps LeavesLimit table calls :=
  Machine.throughout_iff_allSteps (fun _ _ _ (_ : True) _ => trivial)
    (fun _ _ _ _ limited stepped => limited_step_iff limited stepped) trivial limited calls

theorem limited_empty : Limited (.empty : StatusTypeTable Real) :=
  fun _ => Nat.zero_le 10

def elevenCreations : List (SaveCall FloatLiteral) :=
  (List.range 11).map fun index => .create index ⟨toString index, 7, false, none⟩

theorem eleven_status_types :
    Limited (.empty : StatusTypeTable FloatLiteral) ∧
      ¬(machine FloatLiteral).Throughout Limited .empty elevenCreations := by
  refine ⟨limited_empty, fun throughout => ?_⟩
  have eleven : ((machine FloatLiteral).run .empty elevenCreations).any
      (fun table => table.existingCount 7 = 11) = true := by
    decide +kernel
  rcases (Option.any_eq_true _ _).mp eleven with ⟨final, ran, count⟩
  have limited := throughout.of_run ran 7
  rw [of_decide_eq_true count] at limited
  omega

def deletionAndCreation : List (SaveCall FloatLiteral) :=
  elevenCreations.take 10 ++
    [.delete ⟨some 3, false, ⟨"3", 7, false, none⟩⟩, .create 11 ⟨"11", 7, false, none⟩]

theorem limited_throughout_iff_deletion :
    (machine FloatLiteral).Throughout Limited .empty deletionAndCreation ↔
      (machine FloatLiteral).AllSteps LeavesLimit .empty deletionAndCreation :=
  limited_throughout_iff limited_empty _

end ChatsEngine.Projects.StatusTypes

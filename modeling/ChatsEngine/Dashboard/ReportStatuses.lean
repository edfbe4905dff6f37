import ChatsEngine.Core.Types
import ChatsEngine.Foundation.Pool
import ChatsEngine.Foundation.Table

/-! # The statuses of reports

`process_pending_reports`, `process_pending_room_exports` and `generate_room_export` as a
program whose steps are their database statements. The `ReportStatus` rows are the shared
state. A selection holds the lock of the row that it takes until its transaction ends, so it
is one step. An exception outside of a `try` ends a task just as if it was killed. -/

namespace ChatsEngine.Dashboard

inductive ReportType
  | customDashboard
  | roomExport
  deriving DecidableEq, Repr

/-- The choices of `ReportStatus.status`. -/
inductive StatusChoice
  | pending
  | ready
  | inProgress
  | failed
  | permanentlyFailed
  deriving DecidableEq, Repr

structure ReportStatus where
  reportType : ReportType
  createdOn : Instant
  modifiedOn : Instant
  status : StatusChoice
  errorMessage : Option String
  retryCount : Nat
  deriving DecidableEq, Repr

namespace ReportStatus

def maxRetryCount : Nat := 3

/-- The row that `objects.create` inserts. -/
def created (reportType : ReportType) (now : Instant) : ReportStatus where
  reportType := reportType
  createdOn := now
  modifiedOn := now
  status := .pending
  errorMessage := none
  retryCount := 0

/-- The filters of `_select_report_to_process` and `_select_room_export_to_process`. -/
def Selectable (reportType : ReportType) (stuckTimeout : Instant) (report : ReportStatus) :
    Prop :=
  report.reportType = reportType ∧
    ((report.status = .pending ∨ report.status = .failed) ∨
      report.status = .inProgress ∧ report.modifiedOn < stuckTimeout) ∧
    report.retryCount < maxRetryCount

instance (reportType : ReportType) (stuckTimeout : Instant) :
    DecidablePred (Selectable reportType stuckTimeout) :=
  fun report => inferInstanceAs (Decidable (report.reportType = reportType ∧
    ((report.status = .pending ∨ report.status = .failed) ∨
      report.status = .inProgress ∧ report.modifiedOn < stuckTimeout) ∧
    report.retryCount < maxRetryCount))

/-- What `_handle_report_error` and `_handle_room_export_error` assign to the instance. -/
def handleError (report : ReportStatus) (error : String) : ReportStatus :=
  { report with
    retryCount := report.retryCount + 1
    errorMessage := some error
    status := if report.retryCount + 1 ≥ maxRetryCount then .permanentlyFailed else .failed }

end ReportStatus

/-- `timedelta(minutes=10)`. -/
def stuckAfter : Instant := 600000000

structure Attempt where
  uuid : Uuid
  /-- How many attempts at the row had been started when this one was, which nothing in
  the code reads. -/
  number : Nat
  report : ReportStatus
  deriving DecidableEq, Repr

structure ReportDatabase where
  now : Instant
  rows : Table Uuid ReportStatus
  /-- How many attempts have been started for a row. -/
  attempts : Uuid → Nat
  /-- How many of them have been taken over as stuck. The code reads neither. -/
  takenOver : Uuid → Nat

namespace ReportDatabase

def empty (now : Instant) : ReportDatabase where
  now := now
  rows := ∅
  attempts := fun _ => 0
  takenOver := fun _ => 0

def put (database : ReportDatabase) (uuid : Uuid) (report : ReportStatus) : ReportDatabase :=
  { database with rows := database.rows.insert uuid report }

/-- `report.save()`, which stores all columns. -/
def save (database : ReportDatabase) (uuid : Uuid) (report : ReportStatus) : ReportDatabase :=
  database.put uuid { report with modifiedOn := database.now }

/-- `report.save(update_fields=["status", "modified_on"])`. -/
def saveStatus (database : ReportDatabase) (uuid : Uuid) (status : StatusChoice) :
    ReportDatabase :=
  match database.rows.lookup uuid with
  | none => database
  | some row => database.put uuid { row with status, modifiedOn := database.now }

/-- The update of `modified_on` after each part. -/
def touch (database : ReportDatabase) (uuid : Uuid) : ReportDatabase :=
  match database.rows.lookup uuid with
  | none => database
  | some row => database.put uuid { row with modifiedOn := database.now }

/-- The save of `ready`, of all columns or of some. -/
def saveReady (database : ReportDatabase) (attempt : Attempt) : ReportDatabase :=
  match attempt.report.reportType with
  | .customDashboard => database.save attempt.uuid { attempt.report with status := .ready }
  | .roomExport => database.saveStatus attempt.uuid .ready

/-- The row of a selection, as it is saved before the transaction ends. -/
def taken (database : ReportDatabase) (report : ReportStatus) : ReportStatus :=
  { report with status := .inProgress, modifiedOn := database.now }

def take (database : ReportDatabase) (uuid : Uuid) (report : ReportStatus) : ReportDatabase :=
  { database.put uuid (database.taken report) with
    attempts := Function.update database.attempts uuid (database.attempts uuid + 1)
    takenOver := Function.update database.takenOver uuid
      (database.takenOver uuid + if report.status = .inProgress then 1 else 0) }

def attempt (database : ReportDatabase) (uuid : Uuid) (report : ReportStatus) : Attempt where
  uuid := uuid
  number := database.attempts uuid + 1
  report := database.taken report

end ReportDatabase

inductive ReportStage
  | starting (reportType : ReportType)
  | selecting (reportType : ReportType) (stuckTimeout : Instant)
  | locking (uuid : Uuid)
  | processing (attempt : Attempt)
  | savingReady (attempt : Attempt)
  | savingError (attempt : Attempt) (error : String)
  deriving DecidableEq, Repr

inductive ReportTask
  /-- `process_pending_reports` or `process_pending_room_exports`. -/
  | processPending (reportType : ReportType)
  | generateRoomExport (uuid : Uuid)
  deriving DecidableEq, Repr

inductive ReportChoice
  /-- The step succeeds. Other transactions hold the locks of the rows `locked`, and
  `first` is the row that a selection finds. -/
  | statement (locked : List Uuid) (first : Option Uuid)
  /-- One more part is stored, and the row updated. -/
  | writePart
  | raise (error : String)
  /-- A save that succeeds, after which the `post_save` signal raises an exception. -/
  | raiseAfter (error : String)
  deriving DecidableEq, Repr

inductive ReportSurrounding
  | tick (elapsed : Nat)
  | create (uuid : Uuid) (reportType : ReportType)
  deriving DecidableEq, Repr

namespace ReportDatabase

variable (database : ReportDatabase)

/-- The rows of which a selection takes the first one. -/
def candidates (reportType : ReportType) (stuckTimeout : Instant) (locked : List Uuid) :
    List ((_ : Uuid) × ReportStatus) :=
  database.rows.entries.filter fun entry =>
    entry.1 ∉ locked ∧ entry.2.Selectable reportType stuckTimeout

/-- `_select_report_to_process` or `_select_room_export_to_process`, after the clock has been
read. Of rows with the same `created_on` any may come first. -/
def select (reportType : ReportType) (stuckTimeout : Instant) (locked : List Uuid)
    (first : Option Uuid) : Option (ReportDatabase × Option ReportStage) :=
  let candidates := database.candidates reportType stuckTimeout locked
  match first with
  | none => if candidates.isEmpty then some (database, none) else none
  | some uuid =>
      match candidates.find? fun entry => entry.1 = uuid with
      | none => none
      | some entry =>
          if ∀ other ∈ candidates, entry.2.createdOn ≤ other.2.createdOn then
            some (database.take uuid entry.2, some (.processing (database.attempt uuid entry.2)))
          else
            none

/-- The transaction of `generate_room_export`. -/
def lockRoomExport (uuid : Uuid) (locked : List Uuid) : ReportDatabase × Option ReportStage :=
  match database.rows.lookup uuid with
  | none => (database, none)
  | some report =>
      if uuid ∈ locked ∨ report.reportType ≠ .roomExport then
        (database, none)
      else if report.status ≠ .pending ∧ report.status ≠ .failed then
        (database, none)
      else
        (database.take uuid report, some (.processing (database.attempt uuid report)))

def advance : ReportStage → ReportChoice → Option (ReportDatabase × Option ReportStage)
  | .starting reportType, .statement _ _ =>
      some (database, some (.selecting reportType (database.now - stuckAfter)))
  | .selecting reportType stuckTimeout, .statement locked first =>
      database.select reportType stuckTimeout locked first
  | .locking uuid, .statement locked _ => some (database.lockRoomExport uuid locked)
  | .processing attempt, .writePart =>
      match attempt.report.reportType with
      | .customDashboard => some (database.touch attempt.uuid, some (.processing attempt))
      | .roomExport => none
  | .processing attempt, .statement _ _ => some (database, some (.savingReady attempt))
  | .savingReady attempt, .statement _ _ => some (database.saveReady attempt, none)
  | .savingError attempt error, .statement _ _ =>
      some (database.save attempt.uuid (attempt.report.handleError error), none)
  | .processing attempt, .raise error => some (database, some (.savingError attempt error))
  | .savingReady attempt, .raise error => some (database, some (.savingError attempt error))
  | _, .raise _ => some (database, none)
  -- The exception of the signal is caught like any other, although `ready` is stored.
  | .savingReady attempt, .raiseAfter error =>
      some (database.saveReady attempt, some (.savingError attempt error))
  | .savingError attempt error, .raiseAfter _ =>
      some (database.save attempt.uuid (attempt.report.handleError error), none)
  | _, _ => none

def surround : ReportSurrounding → Option ReportDatabase
  | .tick elapsed => some { database with now := database.now + elapsed }
  | .create uuid reportType =>
      match database.rows.lookup uuid with
      | some _ => none
      | none => some (database.put uuid (.created reportType database.now))

end ReportDatabase

def reportProgram :
    Program ReportDatabase ReportStage ReportTask ReportChoice ReportSurrounding where
  enter
    | .processPending reportType => .starting reportType
    | .generateRoomExport uuid => .locking uuid
  advance := ReportDatabase.advance
  surround := ReportDatabase.surround

abbrev ReportPool (Pid : Type) := Pool Pid ReportDatabase ReportStage

/-! ## Outcomes -/

def StatusChoice.Final : StatusChoice → Prop
  | .ready | .permanentlyFailed => True
  | _ => False

namespace ReportDatabase

variable {database after : ReportDatabase} {uuid : Uuid} {locked : List Uuid}
  {rest : Option ReportStage}

theorem mem_candidates {reportType : ReportType} {stuckTimeout : Instant}
    {entry : (_ : Uuid) × ReportStatus}
    (listed : entry ∈ database.candidates reportType stuckTimeout locked) :
    database.rows.lookup entry.1 = some entry.2 ∧ entry.2.Selectable reportType stuckTimeout := by
  rw [candidates, List.mem_filter] at listed
  have selectable := of_decide_eq_true listed.2
  exact ⟨Table.mem_entries_iff.mp listed.1, selectable.2⟩

theorem select_cases {reportType : ReportType} {stuckTimeout : Instant} {first : Option Uuid}
    (selected : database.select reportType stuckTimeout locked first = some (after, rest)) :
    (first = none ∧ after = database ∧ rest = none) ∨
      ∃ uuid row, first = some uuid ∧ database.rows.lookup uuid = some row ∧
        ¬row.status.Final ∧ after = database.take uuid row ∧
        rest = some (.processing (database.attempt uuid row)) := by
  unfold select at selected
  dsimp only at selected
  split at selected
  · split at selected <;> cases selected
    exact .inl ⟨rfl, rfl, rfl⟩
  · next uuid =>
      split at selected
      · cases selected
      · next entry isEntry =>
          split at selected <;> cases selected
          have same := List.find?_some isEntry
          simp only [decide_eq_true_eq] at same
          subst same
          rcases mem_candidates (List.mem_of_find?_eq_some isEntry) with ⟨stored, selectable⟩
          refine .inr ⟨_, _, rfl, stored, ?_, rfl, rfl⟩
          rcases selectable.2.1 with (status | status) | ⟨status, _⟩ <;>
            simp [status, StatusChoice.Final]

theorem lockRoomExport_cases (ran : database.lockRoomExport uuid locked = (after, rest)) :
    (after = database ∧ rest = none) ∨
      ∃ row, database.rows.lookup uuid = some row ∧ row.reportType = .roomExport ∧
        (row.status = .pending ∨ row.status = .failed) ∧ after = database.take uuid row ∧
        rest = some (.processing (database.attempt uuid row)) := by
  rw [lockRoomExport] at ran
  split at ran
  · cases ran
    exact .inl ⟨rfl, rfl⟩
  · next row stored =>
      split at ran
      · cases ran
        exact .inl ⟨rfl, rfl⟩
      · next free =>
          split at ran
          · cases ran
            exact .inl ⟨rfl, rfl⟩
          · next taken =>
              cases ran
              rw [not_or, not_not] at free
              have status : row.status = .pending ∨ row.status = .failed := by
                simpa only [not_and_or, not_not] using taken
              exact .inr ⟨row, stored, free.2, status, rfl, rfl⟩

end ReportDatabase

namespace ReportDatabase

def KeepsOutcome (before after : ReportDatabase) (uuid : Uuid) : Prop :=
  ∀ row ∈ before.rows.lookup uuid, row.status.Final →
    ∃ kept ∈ after.rows.lookup uuid, kept.status = row.status

def AttemptsBounded (database : ReportDatabase) (uuid : Uuid) : Prop :=
  database.attempts uuid ≤ ReportStatus.maxRetryCount

variable (database : ReportDatabase)

def IsLatest (attempt : Attempt) : Prop := attempt.number = database.attempts attempt.uuid

/-- The row has attempts left, when each one that was taken over as stuck counts, and one
that is to be taken over now. -/
def HasAttemptsLeft (uuid : Uuid) (row : ReportStatus) : Prop :=
  row.retryCount + (database.takenOver uuid + if row.status = .inProgress then 1 else 0) <
    ReportStatus.maxRetryCount

/-- The row that a selection takes, unless it leaves it alone. -/
def selected : ReportStage → ReportChoice → Option Uuid
  | .selecting _ _, .statement _ first => first
  | .locking uuid, .statement _ _ =>
      (database.rows.lookup uuid).bind fun row =>
        if row.status = .pending ∨ row.status = .failed then some uuid else none
  | _, _ => none

end ReportDatabase

namespace ReportStage

def recorded : ReportStage → ReportChoice → Option Attempt
  | .savingReady attempt, .statement _ _ => some attempt
  | .savingReady attempt, .raiseAfter _ => some attempt
  | .savingError attempt _, .statement _ _ => some attempt
  | .savingError attempt _, .raiseAfter _ => some attempt
  | _, _ => none

def raisesAfterReady : ReportStage → ReportChoice → Bool
  | .savingReady _, .raiseAfter _ => true
  | _, _ => false

end ReportStage

/-- An attempt is started while there are attempts left, and none records its outcome once
the next one has been started, or raises an exception after it has saved `ready`. -/
structure ReportDatabase.InTurn (database : ReportDatabase) (stage : ReportStage)
    (choice : ReportChoice) : Prop where
  attemptsLeft : ∀ uuid ∈ database.selected stage choice, ∀ row ∈ database.rows.lookup uuid,
    database.HasAttemptsLeft uuid row
  latest : ∀ attempt ∈ stage.recorded choice, database.IsLatest attempt
  quiet : stage.raisesAfterReady choice = false

instance (database : ReportDatabase) (uuid : Uuid) (row : ReportStatus) :
    Decidable (database.HasAttemptsLeft uuid row) :=
  Nat.decLt _ _

instance (database : ReportDatabase) (attempt : Attempt) : Decidable (database.IsLatest attempt) :=
  Nat.decEq _ _

instance (database : ReportDatabase) (stage : ReportStage) (choice : ReportChoice) :
    Decidable (database.InTurn stage choice) :=
  decidable_of_iff
    ((∀ uuid ∈ database.selected stage choice, ∀ row ∈ database.rows.lookup uuid,
        database.HasAttemptsLeft uuid row) ∧
      (∀ attempt ∈ stage.recorded choice, database.IsLatest attempt) ∧
        stage.raisesAfterReady choice = false)
    ⟨fun parts => ⟨parts.1, parts.2.1, parts.2.2⟩,
      fun inTurn => ⟨inTurn.attemptsLeft, inTurn.latest, inTurn.quiet⟩⟩

end ChatsEngine.Dashboard

import ChatsEngine.Core.Types
import ChatsEngine.Foundation.Sessions
import ChatsEngine.Foundation.Table
import Mathlib.Data.List.Chain

/-! # The daily log of an agent's status

Each change is logged by a task of its own. The task builds the entry, with its timestamp,
before it gets the row of the day, which it then holds until it commits. -/

namespace ChatsEngine.Projects.StatusLog

/-! ## Rows -/

/-- The offset to UTC at each instant, in microseconds. -/
abbrev Timezone := Instant → Int

structure ProjectRow where
  uuid : Uuid
  timezone : Timezone

structure CustomStatusRow where
  user : UserEmail
  project : Uuid
  isActive : Bool
  statusTypeName : String
deriving DecidableEq, Repr

/-- An entry of `status_changes`. A key that is missing reads as `none`. -/
structure StatusEntry where
  status : String
  /-- The instant that the text stands for. -/
  timestamp : Instant
  customStatus : Option String
  statusTypeUuid : Option String
deriving DecidableEq, Repr

/-- The columns of `unique_agent_project_date_log`. -/
structure LogKey where
  agent : UserEmail
  project : Uuid
  /-- Days since the epoch, in the timezone of the project. -/
  logDate : Int
deriving DecidableEq, Repr

structure Execution where
  key : LogKey
  statusEntry : StatusEntry
  lastChange : Option StatusEntry
deriving DecidableEq, Repr

structure StatusStore where
  now : Instant
  agents : List UserEmail
  projects : List ProjectRow
  customStatuses : List CustomStatusRow
  logs : Table LogKey (List StatusEntry)
  executed : List Execution

inductive LogWrite
  | create (key : LogKey) (statusEntry : StatusEntry)
  /-- The column `status_changes` as a whole. -/
  | save (key : LogKey) (statusChanges : List StatusEntry)
  | finish (execution : Execution)
deriving DecidableEq, Repr

namespace StatusStore

def write (store : StatusStore) : LogWrite → StatusStore
  | .create key statusEntry => { store with logs := store.logs.insert key [statusEntry] }
  | .save key statusChanges =>
      { store with logs := store.logs.modify key fun _ => statusChanges }
  | .finish execution => { store with executed := execution :: store.executed }

def initial (now : Instant) (agents : List UserEmail) (projects : List ProjectRow)
    (customStatuses : List CustomStatusRow) : StatusStore :=
  ⟨now, agents, projects, customStatuses, ∅, []⟩

end StatusStore

/-! ## The task -/

structure LogTask where
  agentEmail : UserEmail
  projectUuid : Uuid
  status : String
  customStatusName : Option String
  customStatusTypeUuid : Option String
deriving DecidableEq, Repr

def microsecondsOfDay : Nat := 24 * 60 * 60 * 1000000

/-- `now.astimezone(project_tz).date()` -/
def localDate (timezone : Timezone) (now : Instant) : Int :=
  ((now : Nat) + timezone now) / microsecondsOfDay

def newEntry (status : String) (customStatusName : Option String) (timestamp : Instant) :
    StatusEntry :=
  if status = "ONLINE" then ⟨"ONLINE", timestamp, none, none⟩
  else if status = "OFFLINE" ∧ customStatusName = none then ⟨"OFFLINE", timestamp, none, none⟩
  else ⟨if customStatusName = some "In-Service" then "In-Service" else "BREAK", timestamp,
    customStatusName, none⟩

def isDuplicate (lastChange statusEntry : StatusEntry) : Bool :=
  lastChange.status = statusEntry.status && lastChange.customStatus = statusEntry.customStatus &&
    lastChange.statusTypeUuid = statusEntry.statusTypeUuid

inductive LogStage
  | gettingAgent
  | gettingProject
  | gettingCustomStatus (timezone : Timezone)
  | readingClock (timezone : Timezone) (customStatusName : Option String)
  /-- The `SELECT … FOR UPDATE` of `get_or_create`. -/
  | gettingLog (key : LogKey) (statusEntry : StatusEntry)
  /-- Its `INSERT`, within a savepoint. -/
  | creatingLog (key : LogKey) (statusEntry : StatusEntry)
  /-- Its second `SELECT … FOR UPDATE`, after an `IntegrityError`. -/
  | gettingLogAgain (key : LogKey) (statusEntry : StatusEntry)
  | saving (key : LogKey) (statusEntry : StatusEntry) (statusChanges : List StatusEntry)
  | committing (execution : Execution)

structure LogLocal where
  task : LogTask
  stage : LogStage

inductive LogChoice
  | returns
  | raises
deriving DecidableEq, Repr

abbrev LogStatement := Statement LogWrite LogKey LogLocal

def goTo (task : LogTask) (stage : LogStage) : LogStatement where
  locks := []
  writes := []
  next := .proceed ⟨task, stage⟩

def raised : LogStatement where
  locks := []
  writes := []
  next := .rollback none

def afterComparison (key : LogKey) (statusEntry : StatusEntry)
    (statusChanges : List StatusEntry) : LogStage :=
  match statusChanges.getLast? with
  | some lastChange =>
      if isDuplicate lastChange statusEntry then
        .committing ⟨key, statusEntry, some lastChange⟩
      else .saving key statusEntry statusChanges
  | none => .saving key statusEntry statusChanges

def afterGet (task : LogTask) (key : LogKey) (statusEntry : StatusEntry)
    (statusChanges : List StatusEntry) : LogStatement where
  locks := [key]
  writes := []
  next := .proceed ⟨task, afterComparison key statusEntry statusChanges⟩

/-- The statements of `log_agent_status_change`. An `INSERT` waits for another one of the same
day to be committed or rolled back. -/
def advance (store : StatusStore) (task : LogTask) : LogStage → LogStatement
  | .gettingAgent =>
      if task.agentEmail ∈ store.agents then goTo task .gettingProject else raised
  | .gettingProject =>
      match store.projects.find? fun project => project.uuid = task.projectUuid with
      | none => raised
      | some project =>
          if task.customStatusName = none ∧ task.customStatusTypeUuid = none then
            goTo task (.gettingCustomStatus project.timezone)
          else goTo task (.readingClock project.timezone task.customStatusName)
  | .gettingCustomStatus timezone =>
      goTo task (.readingClock timezone ((store.customStatuses.find? fun customStatus =>
        customStatus.user = task.agentEmail ∧ customStatus.project = task.projectUuid ∧
          customStatus.isActive).map CustomStatusRow.statusTypeName))
  | .readingClock timezone customStatusName =>
      goTo task (.gettingLog ⟨task.agentEmail, task.projectUuid, localDate timezone store.now⟩
        (newEntry task.status customStatusName store.now))
  | .gettingLog key statusEntry =>
      match store.logs.lookup key with
      | none => goTo task (.creatingLog key statusEntry)
      | some statusChanges => afterGet task key statusEntry statusChanges
  | .creatingLog key statusEntry =>
      match store.logs.lookup key with
      | none =>
          { locks := [key]
            writes := [.create key statusEntry]
            next := .proceed ⟨task, .committing ⟨key, statusEntry, none⟩⟩ }
      | some _ => goTo task (.gettingLogAgain key statusEntry)
  | .gettingLogAgain key statusEntry =>
      match store.logs.lookup key with
      | none => raised
      | some statusChanges => afterGet task key statusEntry statusChanges
  | .saving key statusEntry statusChanges =>
      { locks := [key]
        writes := [.save key (statusChanges ++ [statusEntry])]
        next := .proceed ⟨task, .committing ⟨key, statusEntry, statusChanges.getLast?⟩⟩ }
  | .committing execution =>
      { locks := [], writes := [.finish execution], next := .commit none }

inductive LogAmbient
  | tick (elapsed : Nat)
  | changeAgents (agents : List UserEmail)
  | changeProjects (projects : List ProjectRow)
  | changeCustomStatuses (customStatuses : List CustomStatusRow)

def surround (store : StatusStore) : LogAmbient → StatusStore
  | .tick elapsed => { store with now := store.now + elapsed }
  | .changeAgents agents => { store with agents }
  | .changeProjects projects => { store with projects }
  | .changeCustomStatuses customStatuses => { store with customStatuses }

def logProgram : SessionProgram StatusStore LogWrite LogKey LogLocal LogTask LogChoice
    LogAmbient where
  enter := fun task => ⟨task, .gettingAgent⟩
  write := StatusStore.write
  advance := fun store locals choice =>
    match choice with
    | .raises => some raised
    | .returns => some (advance store locals.task locals.stage)
  surround := fun store event => some (surround store event)

abbrev LogSessions (Pid : Type) := Sessions Pid StatusStore LogWrite LogKey LogLocal

abbrev LogEvent (Pid : Type) := PoolEvent Pid LogTask LogChoice LogAmbient

/-! ## Logs that are sound -/

/-- The status and the custom status are the same. -/
def StatusEntry.Repeats (left right : StatusEntry) : Prop :=
  left.status = right.status ∧ left.customStatus = right.customStatus

instance (left right : StatusEntry) : Decidable (left.Repeats right) :=
  inferInstanceAs (Decidable (_ ∧ _))

def StatusEntry.NotAfter (left right : StatusEntry) : Prop := left.timestamp ≤ right.timestamp

instance (left right : StatusEntry) : Decidable (left.NotAfter right) :=
  inferInstanceAs (Decidable (_ ≤ _))

instance : Std.Refl StatusEntry.NotAfter := ⟨fun statusEntry => Nat.le_refl statusEntry.timestamp⟩

instance : Trans StatusEntry.NotAfter StatusEntry.NotAfter StatusEntry.NotAfter :=
  ⟨fun first second => Nat.le_trans first second⟩

def Execution.Changes (execution : Execution) : Prop :=
  ∀ lastChange ∈ execution.lastChange, ¬lastChange.Repeats execution.statusEntry

/-- Each entry of a log is related to the one before it. -/
def StatusStore.Chained (Related : StatusEntry → StatusEntry → Prop) (store : StatusStore) :
    Prop :=
  ∀ key statusChanges, store.logs.lookup key = some statusChanges →
    statusChanges.IsChain Related

def Execution.readAt (execution : Execution) : Instant := execution.statusEntry.timestamp

def Execution.ChangesLog (execution : Execution) (key : LogKey) : Prop :=
  execution.key = key ∧ execution.Changes

instance (execution : Execution) : Decidable execution.Changes :=
  inferInstanceAs (Decidable (∀ lastChange ∈ execution.lastChange, _))

instance (execution : Execution) : DecidablePred execution.ChangesLog :=
  fun _ => inferInstanceAs (Decidable (_ ∧ _))

/-- An executed change that differs from the one before it is in its log. -/
def StatusStore.KeepsExecuted (store : StatusStore) : Prop :=
  ∀ execution ∈ store.executed, execution.Changes →
    ∃ statusChanges, store.logs.lookup execution.key = some statusChanges ∧
      execution.statusEntry ∈ statusChanges

def StatusStore.Logged (store : StatusStore) : Prop :=
  ∀ key statusChanges, store.logs.lookup key = some statusChanges →
    ∀ statusEntry ∈ statusChanges, ∃ execution ∈ store.executed,
      execution.ChangesLog key ∧ execution.statusEntry = statusEntry

structure Sound (store : StatusStore) : Prop where
  ordered : store.Chained StatusEntry.NotAfter
  distinct : store.Chained fun left right => ¬left.Repeats right
  present : store.KeepsExecuted

/-- An execution that changes a log has not read the clock before one that has got the row before
it. A row is held from its lock to the commit, so that the commits stand in the order of the
locks. -/
def LocksInTurn (store : StatusStore) (session : Session LogWrite LogLocal)
    (choice : LogChoice) : Prop :=
  match session.locals.stage, choice with
  | .committing execution, .returns => execution.Changes →
      ∀ earlier ∈ store.executed, earlier.ChangesLog execution.key →
        earlier.readAt ≤ execution.readAt
  | _, _ => True

/-! ## What a commit does -/

def StatusStore.statusChanges (store : StatusStore) (key : LogKey) : List StatusEntry :=
  (store.logs.lookup key).getD []

/-- An execution is committed: it appends its entry if that differs from the last change. -/
structure Commits (store after : StatusStore) (execution : Execution) : Prop where
  executed : after.executed = execution :: store.executed
  others : ∀ key, key ≠ execution.key → after.logs.lookup key = store.logs.lookup key
  lastChange : (store.statusChanges execution.key).getLast? = execution.lastChange
  changed : execution.Changes → after.logs.lookup execution.key =
    some (store.statusChanges execution.key ++ [execution.statusEntry])
  repeated : ¬execution.Changes →
    after.logs.lookup execution.key = store.logs.lookup execution.key

namespace Commits

variable {store after : StatusStore} {execution : Execution}
  {Related : StatusEntry → StatusEntry → Prop}

theorem chained_iff (commits : Commits store after execution) (chained : store.Chained Related) :
    after.Chained Related ↔
      (execution.Changes → ∀ lastChange ∈ execution.lastChange,
        Related lastChange execution.statusEntry) := by
  have before : (store.statusChanges execution.key).IsChain Related := by
    rw [StatusStore.statusChanges]
    cases found : store.logs.lookup execution.key with
    | none => exact List.isChain_nil
    | some statusChanges => exact chained _ _ found
  have appended : (store.statusChanges execution.key ++ [execution.statusEntry]).IsChain Related ↔
      ∀ lastChange ∈ execution.lastChange, Related lastChange execution.statusEntry := by
    rw [List.isChain_append, commits.lastChange]
    simp [before]
  constructor
  · intro chainedAfter changes
    exact appended.mp (chainedAfter _ _ (commits.changed changes))
  · intro related key statusChanges found
    by_cases same : key = execution.key
    · subst same
      by_cases changes : execution.Changes
      · rw [commits.changed changes] at found
        cases found
        exact appended.mpr (related changes)
      · rw [commits.repeated changes] at found
        exact chained _ _ found
    · rw [commits.others key same] at found
      exact chained _ _ found

theorem mem_of_mem (commits : Commits store after execution) {key : LogKey}
    {statusEntry : StatusEntry}
    (logged : ∃ statusChanges, store.logs.lookup key = some statusChanges ∧
      statusEntry ∈ statusChanges) :
    ∃ statusChanges, after.logs.lookup key = some statusChanges ∧
      statusEntry ∈ statusChanges := by
  rcases logged with ⟨statusChanges, found, listed⟩
  by_cases same : key = execution.key
  · subst same
    by_cases changes : execution.Changes
    · refine ⟨_, commits.changed changes, List.mem_append_left _ ?_⟩
      rw [StatusStore.statusChanges, found]
      exact listed
    · exact ⟨statusChanges, (commits.repeated changes).trans found, listed⟩
  · exact ⟨statusChanges, (commits.others key same).trans found, listed⟩

theorem keepsExecuted (commits : Commits store after execution)
    (present : store.KeepsExecuted) : after.KeepsExecuted := by
  intro other listed changes
  rw [commits.executed, List.mem_cons] at listed
  rcases listed with rfl | before
  · exact ⟨_, commits.changed changes, List.mem_append_right _ (List.mem_singleton_self _)⟩
  · exact commits.mem_of_mem (present other before changes)

theorem mem_or_eq (commits : Commits store after execution) {key : LogKey}
    {statusChanges : List StatusEntry} {statusEntry : StatusEntry}
    (found : after.logs.lookup key = some statusChanges) (listed : statusEntry ∈ statusChanges) :
    (∃ before, store.logs.lookup key = some before ∧ statusEntry ∈ before) ∨
      execution.ChangesLog key ∧ statusEntry = execution.statusEntry := by
  by_cases same : key = execution.key
  · subst same
    by_cases changes : execution.Changes
    · rw [commits.changed changes] at found
      cases found
      rcases List.mem_append.mp listed with before | isNew
      · left
        rw [StatusStore.statusChanges] at before
        cases stored : store.logs.lookup execution.key with
        | none =>
            rw [stored] at before
            cases before
        | some statusChanges =>
            rw [stored] at before
            exact ⟨statusChanges, rfl, before⟩
      · exact .inr ⟨⟨rfl, changes⟩, List.mem_singleton.mp isNew⟩
    · rw [commits.repeated changes] at found
      exact .inl ⟨statusChanges, found, listed⟩
  · rw [commits.others key same] at found
    exact .inl ⟨statusChanges, found, listed⟩

theorem logged (commits : Commits store after execution) (logged : store.Logged) :
    after.Logged := by
  intro key statusChanges found statusEntry listed
  rw [commits.executed]
  rcases commits.mem_or_eq found listed with ⟨before, stored, isListed⟩ | ⟨changed, rfl⟩
  · rcases logged key before stored statusEntry isListed with ⟨earlier, isExecuted, isEntry⟩
    exact ⟨earlier, List.mem_cons_of_mem _ isExecuted, isEntry⟩
  · exact ⟨execution, List.mem_cons_self, changed, rfl⟩

theorem notAfter_last_iff (commits : Commits store after execution)
    (ordered : store.Chained StatusEntry.NotAfter) (logged : store.Logged)
    (present : store.KeepsExecuted) :
    (∀ lastChange ∈ execution.lastChange, lastChange.NotAfter execution.statusEntry) ↔
      ∀ earlier ∈ store.executed, earlier.ChangesLog execution.key →
        earlier.readAt ≤ execution.readAt := by
  rw [← commits.lastChange]
  constructor
  · intro lastFirst earlier isExecuted changed
    rcases present earlier isExecuted changed.2 with ⟨statusChanges, found, listed⟩
    rw [changed.1] at found
    rw [StatusStore.statusChanges, found, Option.getD_some] at lastFirst
    have nonempty : statusChanges ≠ [] := List.ne_nil_of_mem listed
    have isLast : statusChanges.getLast? = some (statusChanges.getLast nonempty) :=
      List.getLast?_eq_some_getLast nonempty
    have lastNotAfter := lastFirst _ isLast
    have sorted : statusChanges.Pairwise StatusEntry.NotAfter :=
      List.isChain_iff_pairwise.mp (ordered _ _ found)
    exact Nat.le_trans (sorted.rel_getLast listed) lastNotAfter
  · intro inTurn lastChange isLast
    rw [StatusStore.statusChanges] at isLast
    cases stored : store.logs.lookup execution.key with
    | none =>
        rw [stored] at isLast
        cases isLast
    | some statusChanges =>
        rw [stored] at isLast
        rcases logged _ _ stored lastChange (List.mem_of_getLast? isLast) with
          ⟨earlier, isExecuted, changed, rfl⟩
        exact inTurn earlier isExecuted changed

theorem distinct (commits : Commits store after execution)
    (distinct : store.Chained fun left right => ¬left.Repeats right) :
    after.Chained fun left right => ¬left.Repeats right :=
  (commits.chained_iff distinct).mpr fun changes => changes

end Commits

/-! ## What a task knows -/

/-- The task never writes `status_type_uuid`. -/
def StatusStore.Untyped (store : StatusStore) : Prop :=
  ∀ key statusChanges, store.logs.lookup key = some statusChanges →
    ∀ statusEntry ∈ statusChanges, statusEntry.statusTypeUuid = none

theorem newEntry_untyped (status : String) (customStatusName : Option String)
    (timestamp : Instant) : (newEntry status customStatusName timestamp).statusTypeUuid = none := by
  rw [newEntry]
  split
  · rfl
  · split <;> rfl

theorem isDuplicate_iff {lastChange statusEntry : StatusEntry}
    (lastUntyped : lastChange.statusTypeUuid = none)
    (untyped : statusEntry.statusTypeUuid = none) :
    isDuplicate lastChange statusEntry = true ↔ lastChange.Repeats statusEntry := by
  rw [isDuplicate, lastUntyped, untyped, StatusEntry.Repeats]
  simp

inductive Prepared (store : StatusStore) : List LogWrite → Execution → Prop
  | created (key : LogKey) (statusEntry : StatusEntry)
      (absent : store.logs.lookup key = none) :
      Prepared store [.create key statusEntry] ⟨key, statusEntry, none⟩
  | saved (key : LogKey) (statusEntry : StatusEntry) (statusChanges : List StatusEntry)
      (found : store.logs.lookup key = some statusChanges)
      (differs : ∀ lastChange ∈ statusChanges.getLast?, ¬lastChange.Repeats statusEntry) :
      Prepared store [.save key (statusChanges ++ [statusEntry])]
        ⟨key, statusEntry, statusChanges.getLast?⟩
  | duplicate (key : LogKey) (statusEntry lastChange : StatusEntry)
      (statusChanges : List StatusEntry)
      (found : store.logs.lookup key = some statusChanges)
      (isLast : statusChanges.getLast? = some lastChange)
      (repeats : lastChange.Repeats statusEntry) :
      Prepared store [] ⟨key, statusEntry, some lastChange⟩

/-- The row that has been found is locked, and still as it was. -/
def LogStage.Knows (owns : LogKey → Prop) (store : StatusStore) (pending : List LogWrite) :
    LogStage → Prop
  | .gettingLog _ statusEntry | .creatingLog _ statusEntry | .gettingLogAgain _ statusEntry =>
      pending = [] ∧ statusEntry.statusTypeUuid = none
  | .saving key statusEntry statusChanges =>
      pending = [] ∧ statusEntry.statusTypeUuid = none ∧ owns key ∧
        store.logs.lookup key = some statusChanges ∧
        ∀ lastChange ∈ statusChanges.getLast?, ¬lastChange.Repeats statusEntry
  | .committing execution =>
      execution.statusEntry.statusTypeUuid = none ∧ owns execution.key ∧
        Prepared store pending execution
  | _ => pending = []

section Knowledge

variable {owns : LogKey → Prop} {store later : StatusStore} {pending : List LogWrite}
  {task : LogTask} {stage : LogStage} {execution : Execution}

theorem Prepared.congr (prepared : Prepared store pending execution)
    (same : later.logs.lookup execution.key = store.logs.lookup execution.key) :
    Prepared later pending execution := by
  cases prepared with
  | created key statusEntry absent => exact .created key statusEntry (same.trans absent)
  | saved key statusEntry statusChanges found differs =>
      exact .saved key statusEntry statusChanges (same.trans found) differs
  | duplicate key statusEntry lastChange statusChanges found isLast repeats =>
      exact .duplicate key statusEntry lastChange statusChanges (same.trans found) isLast repeats

theorem LogStage.Knows.congr (knows : stage.Knows owns store pending)
    (same : ∀ key, owns key → later.logs.lookup key = store.logs.lookup key) :
    stage.Knows owns later pending := by
  cases stage with
  | saving key statusEntry statusChanges =>
      rcases knows with ⟨noWrites, untyped, locked, found, differs⟩
      exact ⟨noWrites, untyped, locked, (same key locked).trans found, differs⟩
  | committing execution =>
      rcases knows with ⟨untyped, locked, prepared⟩
      exact ⟨untyped, locked, prepared.congr (same _ locked)⟩
  | _ => exact knows

theorem commits_insert {key : LogKey} {statusEntry : StatusEntry} {after : StatusStore}
    (logs : after.logs = store.logs.insert key (store.statusChanges key ++ [statusEntry]))
    (executed : after.executed =
      ⟨key, statusEntry, (store.statusChanges key).getLast?⟩ :: store.executed)
    (differs : ∀ lastChange ∈ (store.statusChanges key).getLast?,
      ¬lastChange.Repeats statusEntry) :
    Commits store after ⟨key, statusEntry, (store.statusChanges key).getLast?⟩ where
  executed := executed
  others other different := by
    rw [logs]
    exact AList.lookup_insert_ne different
  lastChange := rfl
  changed _ := by
    rw [logs]
    exact AList.lookup_insert _
  repeated repeats := absurd differs repeats

theorem Prepared.commits (prepared : Prepared store pending execution) :
    Commits store (logProgram.writeAll store (pending ++ [.finish execution])) execution := by
  cases prepared with
  | created key statusEntry absent =>
      have noChanges : store.statusChanges key = [] := by
        rw [StatusStore.statusChanges, absent]
        rfl
      have commits := @commits_insert store key statusEntry
        (logProgram.writeAll store [.create key statusEntry, .finish ⟨key, statusEntry, none⟩])
      rw [noChanges] at commits
      exact commits rfl rfl nofun
  | saved key statusEntry statusChanges found differs =>
      have all : store.statusChanges key = statusChanges := by
        rw [StatusStore.statusChanges, found]
        rfl
      have commits := @commits_insert store key statusEntry
        (logProgram.writeAll store [.save key (statusChanges ++ [statusEntry]),
          .finish ⟨key, statusEntry, statusChanges.getLast?⟩])
      rw [all] at commits
      refine commits ?_ rfl differs
      change store.logs.modify key _ = _
      rw [Table.modify, found]
  | duplicate key statusEntry lastChange statusChanges found isLast repeats =>
      refine ⟨rfl, fun _ _ => rfl, ?_, fun changes => ?_, fun _ => rfl⟩
      · rw [StatusStore.statusChanges, found]
        exact isLast
      · exact absurd repeats (changes lastChange rfl)

theorem Prepared.executed (prepared : Prepared store pending execution) :
    (logProgram.writeAll store pending).executed = store.executed := by
  cases prepared <;> rfl

/-! ## The steps of a task -/

def LogStatement.GoesOn (owns : LogKey → Prop) (store : StatusStore) (pending : List LogWrite)
    (statement : LogStatement) : Prop :=
  ∀ locals, statement.next = .proceed locals →
    locals.stage.Knows (fun lock => owns lock ∨ lock ∈ statement.locks) store
      (pending ++ statement.writes)

theorem goesOn_goTo {next : LogStage}
    (knows : next.Knows (fun lock => owns lock ∨ lock ∈ []) store (pending ++ [])) :
    LogStatement.GoesOn owns store pending (goTo task next) := by
  intro locals isNext
  cases isNext
  exact knows

theorem goesOn_raised : LogStatement.GoesOn owns store pending raised := by
  intro locals isNext
  cases isNext

theorem knows_afterComparison {key : LogKey} {statusEntry : StatusEntry}
    {statusChanges : List StatusEntry} (storeUntyped : store.Untyped) (locked : owns key)
    (found : store.logs.lookup key = some statusChanges)
    (untyped : statusEntry.statusTypeUuid = none) :
    (afterComparison key statusEntry statusChanges).Knows owns store [] := by
  rw [afterComparison]
  split
  · next lastChange isLast =>
      have lastUntyped : lastChange.statusTypeUuid = none :=
        storeUntyped key statusChanges found lastChange (List.mem_of_getLast? isLast)
      simp only [isDuplicate_iff lastUntyped untyped]
      split
      · next repeats =>
          exact ⟨untyped, locked, .duplicate key statusEntry lastChange statusChanges found
            isLast repeats⟩
      · next differs =>
          refine ⟨rfl, untyped, locked, found, ?_⟩
          rw [isLast]
          intro _ given
          rcases given with ⟨⟩
          exact differs
  · next isEmpty =>
      refine ⟨rfl, untyped, locked, found, ?_⟩
      rw [isEmpty]
      exact nofun

theorem goesOn_afterGet {key : LogKey} {statusEntry : StatusEntry}
    {statusChanges : List StatusEntry} (storeUntyped : store.Untyped)
    (found : store.logs.lookup key = some statusChanges)
    (untyped : statusEntry.statusTypeUuid = none) :
    LogStatement.GoesOn owns store [] (afterGet task key statusEntry statusChanges) := by
  intro locals isNext
  cases isNext
  exact knows_afterComparison storeUntyped (.inr (List.mem_singleton_self key)) found untyped

theorem advance_goesOn (storeUntyped : store.Untyped)
    (knows : stage.Knows owns store pending) :
    LogStatement.GoesOn owns store pending
      (advance (logProgram.writeAll store pending) task stage) := by
  cases stage with
  | gettingAgent =>
      cases (show pending = [] from knows)
      rw [advance]
      split
      · exact goesOn_goTo rfl
      · exact goesOn_raised
  | gettingProject =>
      cases (show pending = [] from knows)
      rw [advance]
      split
      · exact goesOn_raised
      · split
        · exact goesOn_goTo rfl
        · exact goesOn_goTo rfl
  | gettingCustomStatus timezone =>
      cases (show pending = [] from knows)
      exact goesOn_goTo rfl
  | readingClock timezone customStatusName =>
      cases (show pending = [] from knows)
      exact goesOn_goTo ⟨rfl, newEntry_untyped _ _ _⟩
  | gettingLog key statusEntry =>
      rcases knows with ⟨rfl, untyped⟩
      rw [advance]
      split
      · exact goesOn_goTo ⟨rfl, untyped⟩
      · next statusChanges found => exact goesOn_afterGet storeUntyped found untyped
  | creatingLog key statusEntry =>
      rcases knows with ⟨rfl, untyped⟩
      rw [advance]
      split
      · next absent =>
          intro locals isNext
          cases isNext
          exact ⟨untyped, .inr (List.mem_singleton_self key), .created key statusEntry absent⟩
      · exact goesOn_goTo ⟨rfl, untyped⟩
  | gettingLogAgain key statusEntry =>
      rcases knows with ⟨rfl, untyped⟩
      rw [advance]
      split
      · exact goesOn_raised
      · next statusChanges found => exact goesOn_afterGet storeUntyped found untyped
  | saving key statusEntry statusChanges =>
      rcases knows with ⟨rfl, untyped, locked, found, differs⟩
      intro locals isNext
      cases isNext
      exact ⟨untyped, .inl locked, .saved key statusEntry statusChanges found differs⟩
  | committing execution =>
      intro locals isNext
      cases isNext

theorem committing_of_commit {view : StatusStore} {rest : Option LogLocal}
    (isNext : (advance view task stage).next = .commit rest) :
    rest = none ∧ ∃ execution, stage = .committing execution := by
  cases stage with
  | committing execution =>
      cases isNext
      exact ⟨rfl, execution, rfl⟩
  | _ => grind [advance, goTo, raised, afterGet]

theorem rest_of_rollback {view : StatusStore} {rest : Option LogLocal}
    (isNext : (advance view task stage).next = .rollback rest) : rest = none := by
  cases stage with
  | _ => grind [advance, goTo, raised, afterGet]

theorem Commits.untyped {after : StatusStore} (commits : Commits store after execution)
    (storeUntyped : store.Untyped) (untyped : execution.statusEntry.statusTypeUuid = none) :
    after.Untyped := by
  intro key statusChanges found statusEntry listed
  rcases commits.mem_or_eq found listed with ⟨before, stored, isListed⟩ | ⟨_, rfl⟩
  · exact storeUntyped key before stored statusEntry isListed
  · exact untyped

end Knowledge

/-! ## The executions together -/

/-- What holds whatever the order of the commits. -/
structure Recorded (store : StatusStore) : Prop where
  untyped : store.Untyped
  distinct : store.Chained fun left right => ¬left.Repeats right
  present : store.KeepsExecuted
  logged : store.Logged

structure CommitStep (owns : LogKey → Prop) (store after : StatusStore)
    (session : Session LogWrite LogLocal) (choice : LogChoice) (execution : Execution) : Prop where
  stage : session.locals.stage = .committing execution
  returns : choice = .returns
  locked : owns execution.key
  untyped : execution.statusEntry.statusTypeUuid = none
  commits : Commits store after execution
  executed : (logProgram.writeAll store session.pending).executed = store.executed

section Steps

variable {owns : LogKey → Prop} {store : StatusStore} {session : Session LogWrite LogLocal}
  {choice : LogChoice} {statement : LogStatement}

theorem program_advance
    (advanced : logProgram.advance (logProgram.writeAll store session.pending) session.locals
      choice = some statement) :
    choice = .raises ∧ statement = raised ∨ choice = .returns ∧ statement =
      advance (logProgram.writeAll store session.pending) session.locals.task
        session.locals.stage := by
  cases choice with
  | raises => exact .inl ⟨rfl, (Option.some.inj advanced).symm⟩
  | returns => exact .inr ⟨rfl, (Option.some.inj advanced).symm⟩

theorem commitStep_of_commit {rest : Option LogLocal}
    (knows : session.locals.stage.Knows owns store session.pending)
    (advanced : logProgram.advance (logProgram.writeAll store session.pending) session.locals
      choice = some statement)
    (isNext : statement.next = .commit rest) :
    rest = none ∧ ∃ execution, CommitStep owns store
      (logProgram.writeAll store (session.pending ++ statement.writes)) session choice
      execution := by
  rcases program_advance advanced with ⟨_, rfl⟩ | ⟨returns, rfl⟩
  · cases isNext
  · rcases committing_of_commit isNext with ⟨ended, execution, isCommitting⟩
    rw [isCommitting] at knows
    rcases knows with ⟨untyped, locked, prepared⟩
    rw [isCommitting]
    exact ⟨ended, execution, isCommitting, returns, locked, untyped, prepared.commits,
      prepared.executed⟩

theorem locksInTurn_of_not_commit
    (advanced : logProgram.advance (logProgram.writeAll store session.pending) session.locals
      choice = some statement)
    (goesOn : ∀ rest, statement.next ≠ .commit rest) (view : StatusStore) :
    LocksInTurn view session choice := by
  rcases session with ⟨⟨task, stage⟩, pending⟩
  rcases program_advance advanced with ⟨rfl, _⟩ | ⟨rfl, rfl⟩
  · cases stage <;> trivial
  · cases stage with
    | committing execution => exact absurd rfl (goesOn none)
    | _ => trivial

end Steps

def logOutline (Pid : Type) [DecidableEq Pid] :
    SessionOutline logProgram
      (Machine.anyStep : LogSessions Pid → LogEvent Pid → Prop) where
  Invariant := Recorded
  Assertion owns store session := session.locals.stage.Knows owns store session.pending
  enter := fun _ _ => rfl
  proceed := by
    intro sessions pid choice session statement locals _ _ recorded knows advanced isNext
    rcases program_advance advanced with ⟨_, rfl⟩ | ⟨_, rfl⟩
    · cases isNext
    · exact advance_goesOn recorded.untyped knows locals isNext
  commit := by
    intro sessions pid choice session statement rest _ _ recorded knows advanced isNext
    rcases commitStep_of_commit knows advanced isNext with ⟨ended, execution, committed⟩
    refine ⟨⟨committed.commits.untyped recorded.untyped committed.untyped,
      committed.commits.distinct recorded.distinct,
      committed.commits.keepsExecuted recorded.present,
      committed.commits.logged recorded.logged⟩, ?_⟩
    intro locals isRest
    cases ended.symm.trans isRest
  commitOther := by
    intro sessions pid choice session statement rest _ _ _ knows advanced isNext owns other apart
      otherKnows
    rcases commitStep_of_commit knows advanced isNext with ⟨_, execution, committed⟩
    apply otherKnows.congr
    intro key locked
    apply committed.commits.others
    intro same
    subst same
    exact apart _ locked (.inl committed.locked)
  rollback := by
    intro sessions pid choice session statement rest locals _ _ _ _ advanced isNext isRest
    have ended : rest = none := by
      rcases program_advance advanced with ⟨_, rfl⟩ | ⟨_, rfl⟩
      · cases isNext
        rfl
      · exact rest_of_rollback isNext
    cases ended.symm.trans isRest
  surround := by
    intro sessions event store _ recorded surrounded
    cases event <;> cases surrounded <;>
      exact ⟨⟨recorded.untyped, recorded.distinct, recorded.present, recorded.logged⟩,
        fun _ _ knows => knows.congr fun _ _ => rfl⟩

section Runs

variable {Pid : Type} [DecidableEq Pid] {sessions next : LogSessions Pid}
  {event : LogEvent Pid}

theorem sound_iff {store : StatusStore} (recorded : Recorded store) :
    Sound store ↔ store.Chained StatusEntry.NotAfter :=
  ⟨fun sound => sound.ordered, fun ordered => ⟨ordered, recorded.distinct, recorded.present⟩⟩

theorem step_sound_iff (holds : (logOutline Pid).Holds sessions) (sound : Sound sessions.store)
    (stepped : logProgram.machine.step sessions event = some next) :
    Sound next.store ↔ logProgram.OwnStep LocksInTurn sessions event := by
  have after : Recorded next.store :=
    ((logOutline Pid).holds_step holds trivial stepped).store
  rw [sound_iff after]
  cases event with
  | start pid task =>
      rcases SessionProgram.step_start stepped with ⟨_, rfl⟩
      exact ⟨fun _ => trivial, fun _ => sound.ordered⟩
  | kill pid =>
      cases SessionProgram.step_kill stepped
      exact ⟨fun _ => trivial, fun _ => sound.ordered⟩
  | surround event =>
      rcases SessionProgram.step_surround stepped with ⟨store, surrounded, rfl⟩
      cases event <;> cases surrounded <;> exact ⟨fun _ => trivial, fun _ => sound.ordered⟩
  | advance pid choice =>
      rcases SessionProgram.step_advance stepped with
        ⟨session, statement, running, advanced, _, rfl⟩
      have knows : session.locals.stage.Knows (sessions.Owns pid) sessions.store session.pending :=
        holds.locals pid session running
      rw [SessionProgram.OwnStep, running]
      by_cases isCommit : ∃ rest, statement.next = .commit rest
      · rcases isCommit with ⟨rest, isNext⟩
        rcases commitStep_of_commit knows advanced isNext with ⟨_, execution, committed⟩
        rw [SessionProgram.perform_store_of_commit isNext,
          committed.commits.chained_iff sound.ordered,
          committed.commits.notAfter_last_iff sound.ordered holds.store.logged sound.present]
        simp only [LocksInTurn, committed.stage, committed.returns, SessionProgram.view,
          committed.executed]
      · have goesOn : ∀ rest, statement.next ≠ .commit rest :=
          fun rest isNext => isCommit ⟨rest, isNext⟩
        rw [SessionProgram.perform_store_of_not_commit goesOn]
        exact ⟨fun _ => locksInTurn_of_not_commit advanced goesOn _, fun _ => sound.ordered⟩

theorem initial_recorded (now : Instant) (agents : List UserEmail) (projects : List ProjectRow)
    (customStatuses : List CustomStatusRow) :
    Recorded (StatusStore.initial now agents projects customStatuses) where
  untyped := nofun
  distinct := nofun
  present := nofun
  logged := nofun

end Runs

/-- However the executions interleave, no two adjacent entries of a log repeat each other, and no
change is lost. The logs are in order throughout a run exactly when the executions that change a
log get its row in the order in which they have read the clock. -/
theorem status_logs_sound_iff {Pid : Type} [DecidableEq Pid] (now : Instant)
    (agents : List UserEmail) (projects : List ProjectRow)
    (customStatuses : List CustomStatusRow) (events : List (LogEvent Pid)) :
    logProgram.machine.Throughout (fun sessions => Sound sessions.store)
        (Sessions.idle (.initial now agents projects customStatuses)) events ↔
      logProgram.machine.AllSteps (logProgram.OwnStep LocksInTurn)
        (Sessions.idle (.initial now agents projects customStatuses)) events := by
  have recorded := initial_recorded now agents projects customStatuses
  apply Machine.throughout_iff_allSteps
  · exact fun sessions event next holds stepped =>
      (logOutline Pid).holds_step holds trivial stepped
  · exact fun sessions event next holds sound stepped => step_sound_iff holds sound stepped
  · exact (logOutline Pid).holds_idle recorded
  · exact (sound_iff recorded).mpr nofun

/-- What does not depend on the order of the commits holds in every run. -/
theorem logs_keep_changes {Pid : Type} [DecidableEq Pid] {now : Instant}
    {agents : List UserEmail} {projects : List ProjectRow}
    {customStatuses : List CustomStatusRow} {current : LogSessions Pid}
    (reaches : logProgram.machine.Reaches Machine.anyStep
      (Sessions.idle (.initial now agents projects customStatuses)) current) :
    current.store.Chained (fun left right => ¬left.Repeats right) ∧
      current.store.KeepsExecuted := by
  have recorded := ((logOutline Pid).holds_of_reaches reaches ((logOutline Pid).holds_idle
    (initial_recorded now agents projects customStatuses))).store
  exact ⟨recorded.distinct, recorded.present⟩

/-! ## Two tasks that overtake each other -/

inductive Worker
  | first
  | second
deriving DecidableEq, Repr

def changeTo (status : String) : LogTask where
  agentEmail := "agent@weni.ai"
  projectUuid := 1
  status := status
  customStatusName := none
  customStatusTypeUuid := none

def advances (worker : Worker) (statements : Nat) : List (LogEvent Worker) :=
  List.replicate statements (.advance worker .returns)

/-- Both tasks build their entries, one second apart, and the later one gets the row first. -/
def overtaking : List (LogEvent Worker) :=
  [.start .first (changeTo "ONLINE"), .start .second (changeTo "OFFLINE")] ++
    advances .first 4 ++ [.surround (.tick 1000000)] ++ advances .second 7 ++ advances .first 3

theorem overtaken_change_is_out_of_order :
    ¬∀ (events : List (LogEvent Worker)) (current : LogSessions Worker),
      logProgram.machine.run
          (Sessions.idle (.initial 0 ["agent@weni.ai"] [⟨1, fun _ => 0⟩] [])) events =
        some current →
      Sound current.store := by
  intro sound
  have ends : (logProgram.machine.run
      (Sessions.idle (.initial 0 ["agent@weni.ai"] [⟨1, fun _ => 0⟩] []) : LogSessions Worker)
      overtaking).map
        (fun current => current.store.logs.lookup ⟨"agent@weni.ai", 1, 0⟩) =
      some (some [newEntry "OFFLINE" none 1000000, newEntry "ONLINE" none 0]) := by
    decide
  rcases Option.map_eq_some_iff.mp ends with ⟨current, ran, found⟩
  have ordered := (sound overtaking current ran).ordered _ _ found
  revert ordered
  decide

end ChatsEngine.Projects.StatusLog

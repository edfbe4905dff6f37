import ChatsEngine.Archive.Service
import ChatsEngine.Foundation.Table

/-! # The archive scheduler

`start_archive_rooms_messages` looks for closed rooms that are not archived, points their records
to a job of its own, and sends a message for each room. Workers receive the messages and archive
the rooms. Runs of the scheduler and workers are processes over the same tables. -/

namespace ChatsEngine.Archive.Scheduler

def day : Nat := 24 * 60 * 60 * 1000000

structure SchedulerSettings where
  archive : ArchiveSettings
  isActiveForAllProjects : Bool
  maxRooms : Nat
  /-- The minute of the day that `ARCHIVE_CHATS_MAX_HOUR` names, if it names one. -/
  maxHour : Option Nat
  useBatchDispatch : Bool
  batchSize : Nat
  /-- `now - relativedelta(years=1)` -/
  yearBefore : Instant → Instant

/-- `calculate_archive_task_expiration_dt`, on a clock that started at midnight. -/
def calculateArchiveTaskExpiration (maxHour : Nat) (now : Instant) : Instant :=
  let expiration := now - now % day + maxHour * (60 * 1000000)
  if expiration < now then expiration + day else expiration

/-- `_chunked`, of which at most `fuel` chunks are taken. There is none of size zero. -/
def chunked (size : Nat) : Nat → List Uuid → List (List Uuid)
  | 0, _ => []
  | fuel + 1, rooms =>
      match rooms.take size with
      | [] => []
      | room :: chunk => (room :: chunk) :: chunked size fuel (rooms.drop size)

/-- The order in which `_dispatch_batched` or `_dispatch_sequential` sends the messages. -/
def dispatchOrder (settings : SchedulerSettings) (rooms : List Uuid) : List Uuid :=
  if settings.useBatchDispatch then (chunked settings.batchSize rooms.length rooms).flatten
  else rooms

theorem flatten_chunked {size fuel : Nat} {rooms : List Uuid} (positive : 0 < size)
    (enough : rooms.length ≤ fuel) : (chunked size fuel rooms).flatten = rooms := by
  induction fuel generalizing rooms with
  | zero =>
      rw [List.eq_nil_of_length_eq_zero (Nat.le_zero.mp enough)]
      rfl
  | succ fuel induction =>
      rw [chunked]
      split
      · next none =>
          rcases List.take_eq_nil_iff.mp none with impossible | empty
          · omega
          · rw [empty]
            rfl
      · next room chunk taken =>
          rw [List.flatten_cons, ← taken, induction (by rw [List.length_drop]; omega),
            List.take_append_drop]

theorem chunked_sublist (size fuel : Nat) (rooms : List Uuid) :
    (chunked size fuel rooms).flatten.Sublist rooms := by
  induction fuel generalizing rooms with
  | zero => exact List.nil_sublist _
  | succ fuel induction =>
      rw [chunked]
      split
      · exact List.nil_sublist _
      · next room chunk taken =>
          rw [List.flatten_cons, ← taken]
          have both := (List.Sublist.refl (rooms.take size)).append (induction (rooms.drop size))
          rwa [List.take_append_drop] at both

/-- In batches or one by one, the same messages are sent in the same order. -/
theorem dispatchOrder_eq (settings : SchedulerSettings)
    (positive : settings.useBatchDispatch = true → 0 < settings.batchSize) (rooms : List Uuid) :
    dispatchOrder settings rooms = rooms := by
  unfold dispatchOrder
  split
  · next batched => exact flatten_chunked (positive batched) (Nat.le_refl _)
  · rfl

theorem dispatchOrder_sublist (settings : SchedulerSettings) (rooms : List Uuid) :
    (dispatchOrder settings rooms).Sublist rooms := by
  unfold dispatchOrder
  split
  · exact chunked_sublist _ _ _
  · exact List.Sublist.refl _

/-! ## Tables -/

structure ArchivableRoom where
  isActive : Bool
  endedAt : Option Instant
  project : Uuid
deriving DecidableEq, Repr

/-- A message of `archive_room_messages`. -/
structure ArchiveMessage where
  room : Uuid
  job : Uuid
  expires : Instant
deriving DecidableEq, Repr

structure Dispatch where
  room : Uuid
  job : Uuid
  now : Instant
deriving DecidableEq, Repr

structure SchedulerTables where
  now : Instant
  /-- When each job has been started. -/
  jobs : Table Uuid Instant
  rooms : Table Uuid ArchivableRoom
  /-- What is stored for each room. -/
  archives : Uuid → ArchiveDatabase
  /-- The messages that no worker has received yet. -/
  messages : List ArchiveMessage
  /-- The rooms that have been pointed to a job, in the order of time. -/
  recorded : List Dispatch
  /-- The rooms of which the messages have been sent, in the order of time. -/
  dispatched : List Dispatch

namespace SchedulerTables

def database (tables : SchedulerTables) (room : Uuid) : ArchiveDatabase :=
  { tables.archives room with now := tables.now }

def withDatabase (tables : SchedulerTables) (room : Uuid) (database : ArchiveDatabase) :
    SchedulerTables :=
  { tables with archives := Function.update tables.archives room database }

/-- The room is not archived, and no job of the last 24 hours is to archive it. -/
def IsPending (tables : SchedulerTables) (now : Instant) (room : Uuid) : Prop :=
  ∀ row ∈ (tables.archives room).conversation,
    row.status ≠ .finished ∧ ∀ started ∈ tables.jobs.lookup row.job, started + day < now

instance (tables : SchedulerTables) (now : Instant) (room : Uuid) :
    Decidable (tables.IsPending now room) :=
  match found : (tables.archives room).conversation with
  | none => .isTrue (by simp [IsPending, found])
  | some row =>
      match started : tables.jobs.lookup row.job with
      | none => decidable_of_iff (row.status ≠ .finished) (by simp [IsPending, found, started])
      | some instant =>
          decidable_of_iff (row.status ≠ .finished ∧ instant + day < now)
            (by simp [IsPending, found, started])

def IsEligible (settings : SchedulerSettings) (tables : SchedulerTables) (now : Instant)
    (projects : Option (List Uuid)) (room : Uuid) : Bool :=
  (tables.rooms.lookup room).any (fun row =>
      !row.isActive && row.endedAt.any (· < settings.yearBefore now) &&
        projects.all fun projects => row.project ∈ projects) &&
    tables.IsPending now room

def endedAt (tables : SchedulerTables) (room : Uuid) : Instant :=
  ((tables.rooms.lookup room).bind ArchivableRoom.endedAt).getD 0

/-- What the query returns: the eligible rooms that ended first, in this order. -/
structure IsSelection (settings : SchedulerSettings) (tables : SchedulerTables) (now : Instant)
    (projects : Option (List Uuid)) (selected : List Uuid) : Prop where
  nodup : selected.Nodup
  eligible : ∀ room ∈ selected, tables.IsEligible settings now projects room = true
  ordered : selected.Pairwise fun room later => tables.endedAt room ≤ tables.endedAt later
  atMost : selected.length ≤ settings.maxRooms
  others : ∀ other ∈ tables.rooms.keys, tables.IsEligible settings now projects other = true →
    other ∉ selected →
      selected.length = settings.maxRooms ∧
        ∀ room ∈ selected, tables.endedAt room ≤ tables.endedAt other

instance (settings : SchedulerSettings) (tables : SchedulerTables) (now : Instant)
    (projects : Option (List Uuid)) (selected : List Uuid) :
    Decidable (tables.IsSelection settings now projects selected) :=
  decidable_of_iff
    (selected.Nodup ∧
      (∀ room ∈ selected, tables.IsEligible settings now projects room = true) ∧
      (selected.Pairwise fun room later => tables.endedAt room ≤ tables.endedAt later) ∧
      selected.length ≤ settings.maxRooms ∧
      ∀ other ∈ tables.rooms.keys, tables.IsEligible settings now projects other = true →
        other ∉ selected →
          selected.length = settings.maxRooms ∧
            ∀ room ∈ selected, tables.endedAt room ≤ tables.endedAt other)
    ⟨fun ⟨nodup, eligible, ordered, atMost, others⟩ =>
      ⟨nodup, eligible, ordered, atMost, others⟩,
      fun selection => ⟨selection.nodup, selection.eligible, selection.ordered, selection.atMost,
        selection.others⟩⟩

/-- `_create_pending_records`, which is one transaction. -/
def createPendingRecords (tables : SchedulerTables) (job : Uuid) (now : Instant)
    (rooms : List Uuid) : SchedulerTables :=
  { tables with
    archives := fun room =>
      if room ∈ rooms then
        { tables.archives room with
          conversation := some (createPendingRecord job (tables.archives room).conversation) }
      else tables.archives room
    recorded := tables.recorded ++ rooms.map fun room => ⟨room, job, now⟩ }

/-- `archive_room_messages.apply_async` -/
def send (tables : SchedulerTables) (job : Uuid) (now expires : Instant) (room : Uuid) :
    SchedulerTables :=
  { tables with
    messages := tables.messages ++ [⟨room, job, expires⟩]
    dispatched := tables.dispatched ++ [⟨room, job, now⟩] }

end SchedulerTables

/-! ## Processes -/

inductive SchedulerStage
  /-- `start_archive_rooms_messages` -/
  | creatingJob
  | readingNow (job : Uuid)
  | gettingProjects (job : Uuid) (now : Instant)
  | selecting (job : Uuid) (now : Instant) (projects : Option (List Uuid))
  | computingExpiration (job : Uuid) (now : Instant) (rooms : List Uuid)
  | recording (job : Uuid) (now : Instant) (rooms : List Uuid) (expires : Instant)
  | dispatching (job : Uuid) (now expires : Instant) (rooms : List Uuid)
  /-- `archive_room_messages` -/
  | receiving
  | gettingJob (room job : Uuid)
  | gettingRoom (room job : Uuid)
  | archiving (room job : Uuid) (execution : Execution)
deriving DecidableEq

inductive SchedulerTask
  | schedule
  | work
deriving DecidableEq, Repr

inductive SchedulerChoice
  | returns
  | raises
  /-- The uuid of the job. -/
  | creates (job : Uuid)
  /-- The projects of the feature flag. -/
  | finds (projects : List Uuid)
  | selects (rooms : List Uuid)
  | receives (message : ArchiveMessage)
  | archives (choice : Choice)
deriving DecidableEq, Repr

/-- Time passes, and rooms are opened and closed. -/
inductive SchedulerSurrounding
  | tick (elapsed : Nat)
  | changeRoom (room : Uuid) (row : ArchivableRoom)
deriving DecidableEq, Repr

section Program

variable (settings : SchedulerSettings)

def proceed (tables : SchedulerTables) :
    SchedulerStage → Option (SchedulerTables × Option SchedulerStage)
  | .readingNow job =>
      some (tables,
        some (if settings.isActiveForAllProjects then .selecting job tables.now none
          else .gettingProjects job tables.now))
  | .computingExpiration job now rooms =>
      some (tables, settings.maxHour.map fun maxHour =>
        .recording job now rooms (calculateArchiveTaskExpiration maxHour tables.now))
  | .recording job now rooms expires =>
      some (tables.createPendingRecords job now rooms,
        some (.dispatching job now expires (dispatchOrder settings rooms)))
  | .dispatching _ _ _ [] => some (tables, none)
  | .dispatching job now expires (room :: rooms) =>
      some (tables.send job now expires room, some (.dispatching job now expires rooms))
  | .gettingJob room job =>
      some (tables, if job ∈ tables.jobs then some (.gettingRoom room job) else none)
  | .gettingRoom room job =>
      some (tables, if room ∈ tables.rooms then some (.archiving room job (.claiming job)) else none)
  | _ => none

def advance (tables : SchedulerTables) (stage : SchedulerStage) :
    SchedulerChoice → Option (SchedulerTables × Option SchedulerStage)
  | .returns => proceed settings tables stage
  | .raises =>
      match stage with
      | .archiving _ _ _ => none
      | _ => some (tables, none)
  | .creates job =>
      match stage with
      | .creatingJob =>
          if job ∈ tables.jobs then none
          else some ({ tables with jobs := tables.jobs.insert job tables.now },
            some (.readingNow job))
      | _ => none
  | .finds projects =>
      match stage with
      | .gettingProjects job now =>
          some (tables, if projects = [] then none else some (.selecting job now (some projects)))
      | _ => none
  | .selects rooms =>
      match stage with
      | .selecting job now projects =>
          if tables.IsSelection settings now projects rooms then
            some (tables, some (.computingExpiration job now rooms))
          else none
      | _ => none
  | .receives message =>
      match stage with
      | .receiving =>
          if message ∈ tables.messages then
            some ({ tables with messages := tables.messages.erase message },
              -- A message that has expired is discarded.
              if message.expires < tables.now then none
              else some (.gettingJob message.room message.job))
          else none
      | _ => none
  | .archives choice =>
      match stage with
      | .archiving room job execution =>
          match Archive.advance settings.archive (tables.database room) execution choice with
          | none => none
          | some (database, rest) =>
              some (tables.withDatabase room database, rest.map (.archiving room job))
      | _ => none

def schedulerProgram :
    Program SchedulerTables SchedulerStage SchedulerTask SchedulerChoice SchedulerSurrounding where
  enter := fun
    | .schedule => .creatingJob
    | .work => .receiving
  advance := advance settings
  surround := fun tables event =>
    match event with
    | .tick elapsed => some { tables with now := tables.now + elapsed }
    | .changeRoom room row => some { tables with rooms := tables.rooms.insert room row }

end Program

abbrev SchedulerPool (Pid : Type) := Pool Pid SchedulerTables SchedulerStage

abbrev SchedulerEvent (Pid : Type) :=
  PoolEvent Pid SchedulerTask SchedulerChoice SchedulerSurrounding

end ChatsEngine.Archive.Scheduler

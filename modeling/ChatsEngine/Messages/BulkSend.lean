import ChatsEngine.Core.Types
import ChatsEngine.Foundation.Agenda
import ChatsEngine.Foundation.Table
import ChatsEngine.Foundation.TtlCache

/-! # Bulk message sends

A bulk send is dispatched to the rooms that match its filters, one task a room. The
outcome rows that these tasks leave are counted by progress tasks, which finish the
bulk send once there are as many as rooms were counted at dispatch. A progress task
that meets the cooldown is repeated later. -/

namespace ChatsEngine.Messages

inductive BulkMessageSendStatus
  | pending
  | processing
  | finished
  deriving DecidableEq, Repr

inductive BulkMessageSendMessageStatus
  | success
  | failed
  deriving DecidableEq, Repr

inductive BulkMessageSendRoomStatus
  | ongoing
  | waiting
  deriving DecidableEq, Repr

structure FilterSnapshot where
  statuses : List BulkMessageSendRoomStatus
  queues : List Uuid
  agents : List UserEmail
  deriving DecidableEq, Repr

structure BulkMessageSend where
  project : Uuid
  text : String
  filterSnapshot : FilterSnapshot
  createdOn : Instant
  status : BulkMessageSendStatus
  roomsQty : Option Nat
  deriving DecidableEq, Repr

/-- The message that a bulk send leaves in a room. -/
structure BulkSendMessage where
  user : Option UserEmail
  text : String
  deriving DecidableEq, Repr

structure BulkSendErrors where
  error : String
  traceback : String
  deriving DecidableEq, Repr

structure BulkMessageSendMessage where
  room : Uuid
  message : Option BulkSendMessage
  status : BulkMessageSendMessageStatus
  errors : Option BulkSendErrors
  deriving DecidableEq, Repr

/-- The queue of a room, with the columns of its sector that the filter reads. -/
structure BulkSendQueue where
  uuid : Uuid
  project : Uuid
  isDeleted : Bool
  sectorIsDeleted : Bool
  deriving DecidableEq, Repr

structure BulkSendRoom where
  isActive : Bool
  queue : Option BulkSendQueue
  user : Option UserEmail
  isWaiting : Bool
  deriving DecidableEq, Repr

/-! ## The rooms of a bulk send -/

def BulkSendRoom.MatchesStatus (room : BulkSendRoom) : BulkMessageSendRoomStatus → Prop
  | .ongoing => room.user.isSome ∧ room.isWaiting = false
  | .waiting => room.user.isNone ∧ room.isWaiting = false

instance (room : BulkSendRoom) : DecidablePred room.MatchesStatus
  | .ongoing => inferInstanceAs (Decidable (_ ∧ _))
  | .waiting => inferInstanceAs (Decidable (_ ∧ _))

/-- The conditions of `GetBulkSendRoomsUseCase`. The filters of queues and agents
only count when they are not empty. -/
def BulkMessageSend.Selects (bulkSend : BulkMessageSend) (room : BulkSendRoom) : Prop :=
  room.isActive = true ∧
    (∃ queue ∈ room.queue, queue.project = bulkSend.project ∧ queue.isDeleted = false ∧
      queue.sectorIsDeleted = false ∧
      (bulkSend.filterSnapshot.queues = [] ∨ queue.uuid ∈ bulkSend.filterSnapshot.queues)) ∧
    (bulkSend.filterSnapshot.agents = [] ∨
      ∃ user ∈ room.user, user ∈ bulkSend.filterSnapshot.agents) ∧
    ∃ status ∈ bulkSend.filterSnapshot.statuses, room.MatchesStatus status

instance (bulkSend : BulkMessageSend) : DecidablePred bulkSend.Selects := fun _ =>
  inferInstanceAs (Decidable (_ ∧ _))

def getBulkSendRooms (bulkSend : BulkMessageSend) (rooms : Table Uuid BulkSendRoom) : List Uuid :=
  (rooms.entries.filter fun entry => bulkSend.Selects entry.2).map Sigma.fst

theorem mem_of_mem_getBulkSendRooms {bulkSend : BulkMessageSend}
    {rooms : Table Uuid BulkSendRoom} {room : Uuid}
    (selected : room ∈ getBulkSendRooms bulkSend rooms) : room ∈ rooms := by
  rcases List.mem_map.mp selected with ⟨entry, member, rfl⟩
  exact List.mem_keys.mpr ⟨entry.2, List.mem_of_mem_filter member⟩

/-! ## Tasks -/

structure BulkSendSettings where
  progressCooldown : Nat
  progressRetryDelay : Nat
  staleFinish : Nat
  deriving DecidableEq, Repr

inductive ProgressKey
  | lock
  | pending
  deriving DecidableEq, Repr

structure BulkSendState where
  bulkSend : BulkMessageSend
  rooms : Table Uuid BulkSendRoom
  bulkMessages : List BulkMessageSendMessage
  cache : TtlCache ProgressKey
  now : Instant
  /-- The rooms for which a task has been scheduled. -/
  dispatched : List Uuid

/-- The statements of the transaction that sends a message, after which it commits. -/
inductive SendStatement
  | createMessage
  | createBulkMessage
  | listMedias
  | updateLastMessage
  | commit
  deriving DecidableEq, Repr

/-- The tasks, each at the statement that it executes next. -/
inductive BulkSendTask
  | processBulkMessageSend
  | countingRooms
  | listingRooms (roomsCount : Nat)
  | savingProcessing (roomsCount : Nat) (roomUuids : List Uuid)
  | dispatching (roomUuids : List Uuid)
  | sendBulkMessageToRoom (room : Uuid)
  | gettingRoom (room : Uuid)
  | sending (statement : SendStatement) (room : Uuid) (user : Option UserEmail)
  | notifyingRoom (room : Uuid)
  | creatingFailed (room : Uuid) (errors : BulkSendErrors)
  | schedulingProgress
  | updateBulkMessageSendProgress (due : Instant)
  | addingPending
  | schedulingRetry
  | gettingBulkSend
  | aggregating (bulkSend : BulkMessageSend)
  | savingFinished
  deriving DecidableEq, Repr

/-- A statement succeeds, or it raises an exception where the code catches it. -/
inductive BulkSendChoice
  | succeeds
  | raises (errors : BulkSendErrors)
  deriving DecidableEq, Repr

def closedRoomErrors : BulkSendErrors where
  error := "Closed rooms can't receive messages"
  traceback := ""

def SendStatement.next (room : Uuid) (user : Option UserEmail) : SendStatement → BulkSendTask
  | .createMessage => .sending .createBulkMessage room user
  | .createBulkMessage => .sending .listMedias room user
  | .listMedias => .sending .updateLastMessage room user
  | .updateLastMessage => .sending .commit room user
  | .commit => .notifyingRoom room

/-- The rows become visible with the commit. -/
def SendStatement.perform (state : BulkSendState) (room : Uuid) (user : Option UserEmail) :
    SendStatement → BulkSendState
  | .commit =>
      { state with
        bulkMessages :=
          { room, message := some { user, text := state.bulkSend.text }, status := .success,
            errors := none } :: state.bulkMessages }
  | _ => state

def BulkSendState.createFailed (state : BulkSendState) (room : Uuid) (errors : BulkSendErrors) :
    BulkSendState :=
  { state with
    bulkMessages :=
      { room, message := none, status := .failed, errors := some errors } :: state.bulkMessages }

def BulkSendState.saveStatus (state : BulkSendState) (status : BulkMessageSendStatus) :
    BulkSendState :=
  { state with bulkSend := { state.bulkSend with status } }

def BulkSendState.saveProcessing (state : BulkSendState) (roomsCount : Nat) : BulkSendState :=
  { state with
    bulkSend := { state.bulkSend with status := .processing, roomsQty := some roomsCount } }

def BulkSendState.countStatus (state : BulkSendState) (status : BulkMessageSendMessageStatus) :
    Nat :=
  state.bulkMessages.countP fun row => row.status = status

/-- `success_total + failed_total`. -/
def BulkSendState.processed (state : BulkSendState) : Nat :=
  state.countStatus .success + state.countStatus .failed

/-- Whether the use case goes on to mark the bulk send as finished, with the bulk
send as it has been loaded. -/
def BulkMessageSend.Completes (bulkSend : BulkMessageSend) (processed : Nat) : Prop :=
  0 < bulkSend.roomsQty.getD 0 ∧ bulkSend.roomsQty.getD 0 ≤ processed ∧
    bulkSend.status ≠ .finished

instance (bulkSend : BulkMessageSend) (processed : Nat) :
    Decidable (bulkSend.Completes processed) :=
  inferInstanceAs (Decidable (_ ∧ _))

def BulkSendRoom.task (row : BulkSendRoom) (room : Uuid) : BulkSendTask :=
  if row.isActive then .sending .createMessage room row.user
  else .creatingFailed room closedRoomErrors

/-- A statement that succeeds, with the tasks that replace its task. -/
def BulkSendState.proceed (settings : BulkSendSettings) (state : BulkSendState) :
    BulkSendTask → Option (BulkSendState × List BulkSendTask)
  | .processBulkMessageSend => some (state, [.countingRooms])
  | .countingRooms =>
      some (state, [.listingRooms (getBulkSendRooms state.bulkSend state.rooms).length])
  | .listingRooms roomsCount =>
      some (state, [.savingProcessing roomsCount (getBulkSendRooms state.bulkSend state.rooms)])
  | .savingProcessing roomsCount roomUuids =>
      some (state.saveProcessing roomsCount, [.dispatching roomUuids])
  | .dispatching [] => some (state, [])
  | .dispatching (room :: roomUuids) =>
      some ({ state with dispatched := room :: state.dispatched },
        [.dispatching roomUuids, .sendBulkMessageToRoom room])
  | .sendBulkMessageToRoom room => some (state, [.gettingRoom room])
  | .gettingRoom room =>
      -- A room that does not exist ends the task with an exception.
      some (state, ((state.rooms.lookup room).map (BulkSendRoom.task · room)).toList)
  | .sending statement room user =>
      some (statement.perform state room user, [statement.next room user])
  | .notifyingRoom _ => some (state, [.schedulingProgress])
  | .creatingFailed room errors => some (state.createFailed room errors, [.schedulingProgress])
  | .schedulingProgress => some (state, [.updateBulkMessageSendProgress state.now])
  | .updateBulkMessageSendProgress due =>
      if due ≤ state.now then
        match state.cache.add state.now .lock settings.progressCooldown with
        | some cache => some ({ state with cache }, [.gettingBulkSend])
        | none => some (state, [.addingPending])
      else
        none
  | .addingPending =>
      match state.cache.add state.now .pending settings.progressRetryDelay with
      | some cache => some ({ state with cache }, [.schedulingRetry])
      | none => some (state, [])
  | .schedulingRetry =>
      some (state, [.updateBulkMessageSendProgress (state.now + settings.progressRetryDelay)])
  | .gettingBulkSend => some (state, [.aggregating state.bulkSend])
  | .aggregating bulkSend =>
      some (state, if bulkSend.Completes state.processed then [.savingFinished] else [])
  | .savingFinished => some (state.saveStatus .finished, [])

/-- The task that handles an exception of a statement. The notification is sent
when the transaction has been committed, but within the same `try`. -/
def BulkSendTask.recover (errors : BulkSendErrors) : BulkSendTask → Option BulkSendTask
  | .sending _ room _ => some (.creatingFailed room errors)
  | .notifyingRoom room => some (.creatingFailed room errors)
  | _ => none

def BulkSendState.advance (settings : BulkSendSettings) (state : BulkSendState)
    (task : BulkSendTask) : BulkSendChoice → Option (BulkSendState × List BulkSendTask)
  | .succeeds => state.proceed settings task
  | .raises errors => (task.recover errors).map fun handler => (state, [handler])

inductive BulkSendAmbient
  | tick (elapsed : Nat)
  /-- A request that opens, closes, assigns or moves a room. -/
  | saveRoom (room : Uuid) (row : BulkSendRoom)
  /-- The `UPDATE` of the stale sweep, with the cutoff that it has computed. -/
  | finishStale (cutoff : Instant)
  deriving DecidableEq

def BulkSendState.surround (settings : BulkSendSettings) (state : BulkSendState) :
    BulkSendAmbient → Option BulkSendState
  | .tick elapsed => some { state with now := state.now + elapsed }
  | .saveRoom room row => some { state with rooms := state.rooms.insert room row }
  | .finishStale cutoff =>
      if cutoff + settings.staleFinish ≤ state.now then
        if state.bulkSend.createdOn ≤ cutoff ∧ state.bulkSend.status ≠ .finished then
          some (state.saveStatus .finished)
        else
          some state
      else
        none

def bulkSendProgram (settings : BulkSendSettings) :
    TaskProgram BulkSendState BulkSendTask BulkSendChoice BulkSendAmbient where
  advance := BulkSendState.advance settings
  surround := BulkSendState.surround settings

abbrev BulkSendAgenda := Agenda BulkSendState BulkSendTask
abbrev BulkSendEvent := AgendaEvent BulkSendChoice BulkSendAmbient

/-- What `StartBulkSendMessagesUseCase` leaves: a pending bulk send with its
dispatch scheduled. -/
def startBulkSend (project : Uuid) (text : String) (filterSnapshot : FilterSnapshot)
    (rooms : Table Uuid BulkSendRoom) (now : Instant) : BulkSendAgenda where
  shared :=
    { bulkSend :=
        { project, text, filterSnapshot, createdOn := now, status := .pending, roomsQty := none }
      rooms
      bulkMessages := []
      cache := fun _ => none
      now
      dispatched := [] }
  tasks := [.processBulkMessageSend]

variable {settings : BulkSendSettings} {state after : BulkSendState} {task : BulkSendTask}
  {replacing : List BulkSendTask}

/-! ## What a statement does -/

/-- The rooms for which the task goes on to leave an outcome row. -/
def BulkSendTask.owed : BulkSendTask → List Uuid
  | .dispatching roomUuids => roomUuids
  | .sendBulkMessageToRoom room => [room]
  | .gettingRoom room => [room]
  | .sending _ room _ => [room]
  | .creatingFailed room _ => [room]
  | _ => []

def owedRooms (tasks : List BulkSendTask) : List Uuid := tasks.flatMap BulkSendTask.owed

@[simp] theorem owedRooms_nil : owedRooms [] = [] := rfl

@[simp] theorem owedRooms_cons (task : BulkSendTask) (tasks : List BulkSendTask) :
    owedRooms (task :: tasks) = task.owed ++ owedRooms tasks := rfl

@[simp] theorem owedRooms_append (tasks others : List BulkSendTask) :
    owedRooms (tasks ++ others) = owedRooms tasks ++ owedRooms others :=
  List.flatMap_append

def BulkSendTask.Prepares : BulkSendTask → Prop
  | .processBulkMessageSend => True
  | .countingRooms => True
  | .listingRooms _ => True
  | .savingProcessing _ _ => True
  | _ => False

/-- The task goes on to update the progress, with all rows that exist so far. -/
def BulkSendTask.Reports : BulkSendTask → Prop
  | .notifyingRoom _ => True
  | .schedulingProgress => True
  | .updateBulkMessageSendProgress _ => True
  | .addingPending => True
  | .schedulingRetry => True
  | .gettingBulkSend => True
  | .aggregating _ => True
  | .savingFinished => True
  | _ => False

/-- The task will not have passed the cooldown before the time. -/
def BulkSendTask.RetriesFrom (time : Instant) : BulkSendTask → Prop
  | .schedulingRetry => True
  | .updateBulkMessageSendProgress due => time ≤ due
  | _ => False

/-- The task goes on to leave an outcome row for the room, and does so next of all. -/
def BulkSendTask.SendsTo (room : Uuid) : BulkSendTask → Prop
  | .sendBulkMessageToRoom own => own = room
  | .gettingRoom own => own = room
  | .sending _ own _ => own = room
  | .creatingFailed own _ => own = room
  | _ => False

theorem BulkSendRoom.task_sendsTo (row : BulkSendRoom) (room : Uuid) :
    (row.task room).SendsTo room := by
  rw [BulkSendRoom.task]
  split <;> rfl

theorem BulkSendTask.SendsTo.owed_eq {room : Uuid} (sends : task.SendsTo room) :
    task.owed = [room] := by
  cases task <;> cases sends <;> rfl

theorem BulkSendTask.SendsTo.not_prepares {room : Uuid} (sends : task.SendsTo room) :
    ¬task.Prepares := by
  cases task <;> cases sends <;> exact id

theorem BulkSendTask.SendsTo.not_reports {room : Uuid} (sends : task.SendsTo room) :
    ¬task.Reports := by
  cases task <;> cases sends <;> exact id

theorem BulkSendState.processed_eq (state : BulkSendState) :
    state.processed = state.bulkMessages.length := by
  rw [BulkSendState.processed, BulkSendState.countStatus, BulkSendState.countStatus,
    List.length_eq_countP_add_countP (fun row => row.status = .success)]
  congr 1
  apply List.countP_congr
  intro row _
  cases row.status <;> simp

inductive BulkSendEffect (settings : BulkSendSettings) (state : BulkSendState) :
    BulkSendTask → BulkSendState → List BulkSendTask → Prop
  | dispatched : BulkSendEffect settings state (.dispatching []) state []
  | dispatch (room : Uuid) (roomUuids : List Uuid) :
      BulkSendEffect settings state (.dispatching (room :: roomUuids))
        { state with dispatched := room :: state.dispatched }
        [.dispatching roomUuids, .sendBulkMessageToRoom room]
  | send {task stage : BulkSendTask} (room : Uuid) :
      task.SendsTo room → stage.SendsTo room → BulkSendEffect settings state task state [stage]
  | record {task stage : BulkSendTask} (row : BulkMessageSendMessage) :
      task.SendsTo row.room → stage = .notifyingRoom row.room ∨ stage = .schedulingProgress →
      BulkSendEffect settings state task
        { state with bulkMessages := row :: state.bulkMessages } [stage]
  | notify (room : Uuid) :
      BulkSendEffect settings state (.notifyingRoom room) state [.schedulingProgress]
  | schedule :
      BulkSendEffect settings state .schedulingProgress state
        [.updateBulkMessageSendProgress state.now]
  | acquire (due : Instant) (cache : TtlCache ProgressKey) : due ≤ state.now →
      state.cache.add state.now .lock settings.progressCooldown = some cache →
      BulkSendEffect settings state (.updateBulkMessageSendProgress due)
        { state with cache } [.gettingBulkSend]
  | skip (due : Instant) : due ≤ state.now →
      BulkSendEffect settings state (.updateBulkMessageSendProgress due) state [.addingPending]
  | mark (cache : TtlCache ProgressKey) :
      state.cache.add state.now .pending settings.progressRetryDelay = some cache →
      BulkSendEffect settings state .addingPending { state with cache } [.schedulingRetry]
  | alreadyPending : state.cache.Alive state.now .pending →
      BulkSendEffect settings state .addingPending state []
  | retry :
      BulkSendEffect settings state .schedulingRetry state
        [.updateBulkMessageSendProgress (state.now + settings.progressRetryDelay)]
  | load : BulkSendEffect settings state .gettingBulkSend state [.aggregating state.bulkSend]
  | complete (bulkSend : BulkMessageSend) : bulkSend.Completes state.processed →
      BulkSendEffect settings state (.aggregating bulkSend) state [.savingFinished]
  | incomplete (bulkSend : BulkMessageSend) : ¬bulkSend.Completes state.processed →
      BulkSendEffect settings state (.aggregating bulkSend) state []
  | finish : BulkSendEffect settings state .savingFinished (state.saveStatus .finished) []

theorem SendStatement.effect (statement : SendStatement) (room : Uuid)
    (user : Option UserEmail) :
    BulkSendEffect settings state (.sending statement room user)
      (statement.perform state room user) [statement.next room user] := by
  cases statement with
  | commit => exact .record _ rfl (.inl rfl)
  | _ => exact .send room rfl rfl

theorem BulkSendState.cases_of_update {due : Instant}
    (advanced : state.advance settings (.updateBulkMessageSendProgress due) .succeeds =
      some (after, replacing)) :
    due ≤ state.now ∧
      ((∃ cache, state.cache.add state.now .lock settings.progressCooldown = some cache ∧
          after = { state with cache } ∧ replacing = [.gettingBulkSend]) ∨
        state.cache.Alive state.now .lock ∧ after = state ∧ replacing = [.addingPending]) := by
  simp only [BulkSendState.advance, BulkSendState.proceed] at advanced
  split at advanced
  · next ready =>
      refine ⟨ready, ?_⟩
      split at advanced
      · next cache added =>
          cases advanced
          exact .inl ⟨cache, added, rfl, rfl⟩
      · next taken =>
          cases advanced
          exact .inr ⟨TtlCache.add_eq_none_iff.mp taken, rfl, rfl⟩
  · cases advanced

theorem BulkSendState.cases_of_addingPending
    (advanced : state.advance settings .addingPending .succeeds = some (after, replacing)) :
    (∃ cache, state.cache.add state.now .pending settings.progressRetryDelay = some cache ∧
        after = { state with cache } ∧ replacing = [.schedulingRetry]) ∨
      state.cache.Alive state.now .pending ∧ after = state ∧ replacing = [] := by
  simp only [BulkSendState.advance, BulkSendState.proceed] at advanced
  split at advanced
  · next cache added =>
      cases advanced
      exact .inl ⟨cache, added, rfl, rfl⟩
  · next taken =>
      cases advanced
      exact .inr ⟨TtlCache.add_eq_none_iff.mp taken, rfl, rfl⟩

theorem BulkSendEffect.of_advance {choice : BulkSendChoice} (running : ¬task.Prepares)
    (allowed : ∀ room, task = .notifyingRoom room → choice = .succeeds)
    (exist : ∀ room, task.SendsTo room → room ∈ state.rooms)
    (advanced : state.advance settings task choice = some (after, replacing)) :
    BulkSendEffect settings state task after replacing := by
  cases choice with
  | raises errors =>
      cases task with
      | sending statement room user =>
          cases advanced
          exact .send room rfl rfl
      | notifyingRoom room => cases allowed room rfl
      | _ => cases advanced
  | succeeds =>
      cases task with
      | dispatching roomUuids =>
          cases roomUuids with
          | nil =>
              cases advanced
              exact .dispatched
          | cons room roomUuids =>
              cases advanced
              exact .dispatch room roomUuids
      | sendBulkMessageToRoom room =>
          cases advanced
          exact .send room rfl rfl
      | gettingRoom room =>
          rcases Option.isSome_iff_exists.mp (AList.lookup_isSome.mpr (exist room rfl)) with
            ⟨row, stored⟩
          simp only [BulkSendState.advance, BulkSendState.proceed, stored] at advanced
          cases advanced
          exact .send room rfl (row.task_sendsTo room)
      | sending statement room user =>
          cases advanced
          exact statement.effect room user
      | notifyingRoom room =>
          cases advanced
          exact .notify room
      | creatingFailed room errors =>
          cases advanced
          exact .record _ rfl (.inr rfl)
      | schedulingProgress =>
          cases advanced
          exact .schedule
      | updateBulkMessageSendProgress due =>
          rcases BulkSendState.cases_of_update advanced with
            ⟨ready, ⟨cache, added, rfl, rfl⟩ | ⟨_, rfl, rfl⟩⟩
          · exact .acquire due cache ready added
          · exact .skip due ready
      | addingPending =>
          rcases BulkSendState.cases_of_addingPending advanced with
            ⟨cache, added, rfl, rfl⟩ | ⟨pending, rfl, rfl⟩
          · exact .mark cache added
          · exact .alreadyPending pending
      | schedulingRetry =>
          cases advanced
          exact .retry
      | gettingBulkSend =>
          cases advanced
          exact .load
      | aggregating bulkSend =>
          simp only [BulkSendState.advance, BulkSendState.proceed] at advanced
          cases advanced
          split
          · next completes => exact .complete bulkSend completes
          · next completes => exact .incomplete bulkSend completes
      | savingFinished =>
          cases advanced
          exact .finish
      | _ => exact absurd trivial running

/-! ### Its effect on the rows and the tasks -/

section Effects

variable (effect : BulkSendEffect settings state task after replacing)
include effect

theorem BulkSendEffect.roomsQty : after.bulkSend.roomsQty = state.bulkSend.roomsQty := by
  cases effect <;> rfl

theorem BulkSendEffect.finished (finished : state.bulkSend.status = .finished) :
    after.bulkSend.status = .finished := by
  cases effect with
  | finish => rfl
  | _ => exact finished

theorem BulkSendEffect.rooms_eq : after.rooms = state.rooms := by
  cases effect <;> rfl

theorem BulkSendEffect.not_prepares : ∀ stage ∈ replacing, ¬stage.Prepares := by
  cases effect with
  | send room _ sends => simpa using sends.not_prepares
  | record row _ stage => rcases stage with rfl | rfl <;> simp [BulkSendTask.Prepares]
  | _ => simp [BulkSendTask.Prepares]

theorem BulkSendEffect.owedRooms_subset : owedRooms replacing ⊆ task.owed := by
  cases effect with
  | dispatch room roomUuids => simp [BulkSendTask.owed]
  | send room sends others => simp [sends.owed_eq, others.owed_eq]
  | record row _ stage => rcases stage with rfl | rfl <;> simp [BulkSendTask.owed]
  | _ => simp [BulkSendTask.owed]

theorem BulkSendEffect.owedRooms_append_subset {others : List BulkSendTask} {room : Uuid}
    (owed : room ∈ owedRooms (replacing ++ others)) : room ∈ owedRooms (task :: others) := by
  rw [owedRooms_append, List.mem_append] at owed
  rw [owedRooms_cons, List.mem_append]
  exact owed.imp (fun here => effect.owedRooms_subset here) id

theorem BulkSendEffect.settled {others : List BulkSendTask}
    (settled : owedRooms (task :: others) = []) : owedRooms (replacing ++ others) = [] := by
  rw [List.eq_nil_iff_forall_not_mem] at settled ⊢
  exact fun room owed => settled room (effect.owedRooms_append_subset owed)

theorem BulkSendEffect.length_eq :
    after.bulkMessages.length + (owedRooms replacing).length =
      state.bulkMessages.length + task.owed.length := by
  cases effect with
  | dispatch room roomUuids => simp [BulkSendTask.owed]
  | send room sends others => simp [sends.owed_eq, others.owed_eq]
  | record row sends stage =>
      rcases stage with rfl | rfl <;> simp [sends.owed_eq] <;> simp [BulkSendTask.owed]
  | _ => rfl

theorem BulkSendEffect.rows_subset : state.bulkMessages ⊆ after.bulkMessages := by
  cases effect with
  | record row _ _ => exact List.subset_cons_self row _
  | _ => exact List.Subset.refl _

theorem BulkSendEffect.owed_room {room : Uuid} (owed : room ∈ task.owed) :
    room ∈ owedRooms replacing ∨ ∃ row ∈ after.bulkMessages, row.room = room := by
  cases effect with
  | dispatch own roomUuids =>
      left
      simpa [BulkSendTask.owed, or_comm] using owed
  | send own sends others =>
      left
      simpa [sends.owed_eq, others.owed_eq] using owed
  | record row sends _ =>
      have same : room = row.room := by simpa [sends.owed_eq] using owed
      exact .inr ⟨row, List.mem_cons_self, same.symm⟩
  | _ => cases owed

theorem BulkSendEffect.dispatched_room {room : Uuid} (member : room ∈ after.dispatched) :
    room ∈ state.dispatched ∨ room ∈ owedRooms replacing := by
  cases effect with
  | dispatch own roomUuids =>
      rcases List.mem_cons.mp member with rfl | earlier
      · exact .inr (by simp [BulkSendTask.owed])
      · exact .inl earlier
  | _ => exact .inl member

theorem BulkSendEffect.loaded {bulkSend : BulkMessageSend}
    (member : .aggregating bulkSend ∈ replacing) :
    bulkSend = state.bulkSend ∧ after.bulkSend = state.bulkSend := by
  cases effect with
  | load => exact ⟨by simpa using member, rfl⟩
  | send room _ others =>
      rw [List.mem_singleton] at member
      subst member
      cases others
  | record row _ stage => rcases stage with rfl | rfl <;> simp at member
  | _ => simp at member

theorem BulkSendEffect.completes (member : .savingFinished ∈ replacing) :
    ∃ bulkSend, task = .aggregating bulkSend ∧ bulkSend.Completes state.processed := by
  cases effect with
  | complete bulkSend completes => exact ⟨bulkSend, rfl, completes⟩
  | send room _ others =>
      rw [List.mem_singleton] at member
      subst member
      cases others
  | record row _ stage => rcases stage with rfl | rfl <;> simp at member
  | _ => simp at member

theorem BulkSendEffect.reports (reports : task.Reports) :
    after.bulkSend.status = .finished ∨ (∃ stage ∈ replacing, stage.Reports) ∨
      (task = .addingPending ∧ after = state ∧ state.cache.Alive state.now .pending) ∨
      ∃ bulkSend, task = .aggregating bulkSend ∧ ¬bulkSend.Completes state.processed := by
  cases effect with
  | dispatched => cases reports
  | dispatch => cases reports
  | send room sends _ => exact absurd reports sends.not_reports
  | record row sends _ => exact absurd reports sends.not_reports
  | alreadyPending alive => exact .inr (.inr (.inl ⟨rfl, rfl, alive⟩))
  | incomplete bulkSend completes => exact .inr (.inr (.inr ⟨bulkSend, rfl, completes⟩))
  | finish => exact .inl rfl
  | _ => exact .inr (.inl ⟨_, List.mem_singleton_self _, trivial⟩)

theorem BulkSendEffect.reports_rows (owed : task.owed ≠ []) (settled : owedRooms replacing = []) :
    ∃ stage ∈ replacing, stage.Reports := by
  cases effect with
  | dispatch room roomUuids => simp [BulkSendTask.owed] at settled
  | send room _ others => simp [others.owed_eq] at settled
  | record row _ stage =>
      refine ⟨_, List.mem_singleton_self _, ?_⟩
      rcases stage with rfl | rfl <;> trivial
  | _ => exact absurd rfl owed

theorem BulkSendEffect.pending :
    (after.cache .pending = state.cache .pending ∧ after.now = state.now) ∨
      (after.cache .pending = some (after.now + settings.progressRetryDelay) ∧
        .schedulingRetry ∈ replacing) := by
  cases effect with
  | acquire due cache _ added => exact .inl ⟨TtlCache.added_other added (by simp), rfl⟩
  | mark cache added => exact .inr ⟨TtlCache.added_self added, List.mem_singleton_self _⟩
  | _ => exact .inl ⟨rfl, rfl⟩

theorem BulkSendEffect.retries {expiry : Instant} (alive : state.now < expiry)
    (bounded : expiry ≤ state.now + settings.progressRetryDelay)
    (retries : task.RetriesFrom expiry) : ∃ stage ∈ replacing, stage.RetriesFrom expiry := by
  cases effect with
  | send room sends _ => cases task <;> cases sends <;> cases retries
  | record row sends _ => cases task <;> cases sends <;> cases retries
  | retry => exact ⟨_, List.mem_singleton_self _, bounded⟩
  | acquire due _ ready _ => exact absurd (Nat.le_trans retries ready) (Nat.not_le_of_lt alive)
  | skip due ready => exact absurd (Nat.le_trans retries ready) (Nat.not_le_of_lt alive)
  | _ => cases retries

end Effects

/-! ## The invariant -/

theorem BulkSendTask.RetriesFrom.reports {time : Instant} (retries : task.RetriesFrom time) :
    task.Reports := by
  cases task with
  | schedulingRetry => trivial
  | updateBulkMessageSendProgress due => trivial
  | _ => cases retries

/-- What holds once the bulk send has been marked as processing for `total` rooms:
each of them has its outcome row or is owed one, and the last row has a task that
goes on to count it. -/
structure BulkSendRunning (settings : BulkSendSettings) (total : Nat) (state : BulkSendState)
    (tasks : List BulkSendTask) : Prop where
  positive : 0 < total
  quantity : state.bulkSend.roomsQty = some total
  started : ∀ task ∈ tasks, ¬task.Prepares
  exist : ∀ room ∈ owedRooms tasks, room ∈ state.rooms
  length : state.bulkMessages.length + (owedRooms tasks).length = total
  dispatched : ∀ room ∈ state.dispatched,
    room ∈ owedRooms tasks ∨ ∃ row ∈ state.bulkMessages, row.room = room
  loaded : ∀ bulkSend, .aggregating bulkSend ∈ tasks → bulkSend.roomsQty = some total ∧
    (bulkSend.status = .finished → state.bulkSend.status = .finished)
  complete : .savingFinished ∈ tasks → owedRooms tasks = []
  pending : ∀ expiry ∈ state.cache .pending,
    expiry ≤ state.now + settings.progressRetryDelay ∧
      (state.now < expiry → ∃ task ∈ tasks, task.RetriesFrom expiry)
  reported : owedRooms tasks = [] →
    state.bulkSend.status = .finished ∨ ∃ task ∈ tasks, task.Reports

namespace BulkSendRunning

variable {total : Nat} {tasks others : List BulkSendTask}

theorem perm (order : tasks.Perm others) (holds : BulkSendRunning settings total state tasks) :
    BulkSendRunning settings total state others := by
  have owedOrder : (owedRooms tasks).Perm (owedRooms others) := order.flatMap_right _
  have owedNil : owedRooms others = [] → owedRooms tasks = [] := by
    intro settled
    exact List.Perm.eq_nil (settled ▸ owedOrder)
  constructor
  · exact holds.positive
  · exact holds.quantity
  · exact fun task member => holds.started task (order.mem_iff.mpr member)
  · exact fun room owed => holds.exist room (owedOrder.mem_iff.mpr owed)
  · rw [← owedOrder.length_eq]
    exact holds.length
  · intro room member
    rw [← owedOrder.mem_iff]
    exact holds.dispatched room member
  · exact fun bulkSend member => holds.loaded bulkSend (order.mem_iff.mpr member)
  · intro member
    exact List.Perm.eq_nil (holds.complete (order.mem_iff.mpr member) ▸ owedOrder.symm)
  · intro expiry stored
    rcases holds.pending expiry stored with ⟨bounded, retried⟩
    refine ⟨bounded, fun alive => ?_⟩
    rcases retried alive with ⟨task, member, retries⟩
    exact ⟨task, order.mem_iff.mp member, retries⟩
  · intro settled
    rcases holds.reported (owedNil settled) with finished | ⟨task, member, reports⟩
    · exact .inl finished
    · exact .inr ⟨task, order.mem_iff.mp member, reports⟩

theorem settled_of_completes
    (holds : BulkSendRunning settings total state (task :: others)) {bulkSend : BulkMessageSend}
    (same : task = .aggregating bulkSend) (completes : bulkSend.Completes state.processed) :
    owedRooms (task :: others) = [] := by
  have quantity := (holds.loaded bulkSend (same ▸ List.mem_cons_self)).1
  have counted : total ≤ state.bulkMessages.length := by
    have enough := completes.2.1
    rwa [quantity, Option.getD_some, state.processed_eq] at enough
  have length := holds.length
  exact List.eq_nil_of_length_eq_zero (by omega)

section Advance

variable (holds : BulkSendRunning settings total state (task :: others))
  (effect : BulkSendEffect settings state task after replacing)
include holds effect

theorem length_after :
    after.bulkMessages.length + (owedRooms (replacing ++ others)).length = total := by
  have before := holds.length
  have same := effect.length_eq
  simp only [owedRooms_cons, owedRooms_append, List.length_append] at before ⊢
  omega

theorem dispatched_after {room : Uuid} (member : room ∈ after.dispatched) :
    room ∈ owedRooms (replacing ++ others) ∨ ∃ row ∈ after.bulkMessages, row.room = room := by
  rw [owedRooms_append, List.mem_append]
  rcases effect.dispatched_room member with earlier | here
  · rcases holds.dispatched room earlier with owed | ⟨row, listed, same⟩
    · rw [owedRooms_cons, List.mem_append] at owed
      rcases owed with here | elsewhere
      · exact (effect.owed_room here).imp .inl id
      · exact .inl (.inr elsewhere)
    · exact .inr ⟨row, effect.rows_subset listed, same⟩
  · exact .inl (.inl here)

theorem loaded_after {bulkSend : BulkMessageSend}
    (member : .aggregating bulkSend ∈ replacing ++ others) :
    bulkSend.roomsQty = some total ∧
      (bulkSend.status = .finished → after.bulkSend.status = .finished) := by
  rcases List.mem_append.mp member with here | elsewhere
  · rcases effect.loaded here with ⟨rfl, same⟩
    exact ⟨holds.quantity, fun finished => same ▸ finished⟩
  · rcases holds.loaded bulkSend (List.mem_cons_of_mem _ elsewhere) with ⟨quantity, finished⟩
    exact ⟨quantity, fun status => effect.finished (finished status)⟩

theorem complete_after (member : .savingFinished ∈ replacing ++ others) :
    owedRooms (replacing ++ others) = [] := by
  apply effect.settled
  rcases List.mem_append.mp member with here | elsewhere
  · rcases effect.completes here with ⟨bulkSend, same, completes⟩
    exact holds.settled_of_completes same completes
  · exact holds.complete (List.mem_cons_of_mem _ elsewhere)

theorem pending_after {expiry : Instant} (stored : expiry ∈ after.cache .pending) :
    expiry ≤ after.now + settings.progressRetryDelay ∧
      (after.now < expiry → ∃ stage ∈ replacing ++ others, stage.RetriesFrom expiry) := by
  rcases effect.pending with ⟨sameKey, sameTime⟩ | ⟨marked, retry⟩
  · rw [sameKey] at stored
    rw [sameTime]
    rcases holds.pending expiry stored with ⟨bounded, retried⟩
    refine ⟨bounded, fun alive => ?_⟩
    rcases retried alive with ⟨stage, member, retries⟩
    rcases List.mem_cons.mp member with rfl | elsewhere
    · rcases effect.retries alive bounded retries with ⟨rest, listed, still⟩
      exact ⟨rest, List.mem_append_left _ listed, still⟩
    · exact ⟨stage, List.mem_append_right _ elsewhere, retries⟩
  · cases Option.some.inj (marked.symm.trans stored)
    exact ⟨le_refl _, fun _ => ⟨_, List.mem_append_left _ retry, trivial⟩⟩

theorem reported_after (settled : owedRooms (replacing ++ others) = []) :
    after.bulkSend.status = .finished ∨ ∃ stage ∈ replacing ++ others, stage.Reports := by
  have replacingSettled : owedRooms replacing = [] ∧ owedRooms others = [] := by
    simpa using settled
  by_cases owed : task.owed = []
  · have settledBefore : owedRooms (task :: others) = [] := by
      simp [owed, replacingSettled.2]
    rcases holds.reported settledBefore with finished | ⟨stage, member, reports⟩
    · exact .inl (effect.finished finished)
    · rcases List.mem_cons.mp member with rfl | elsewhere
      · rcases effect.reports reports with finished | ⟨rest, listed, still⟩ |
          ⟨rfl, rfl, expiry, stored, alive⟩ | ⟨bulkSend, rfl, incomplete⟩
        · exact .inl finished
        · exact .inr ⟨rest, List.mem_append_left _ listed, still⟩
        · rcases (holds.pending expiry stored).2 alive with ⟨rest, listed, retries⟩
          rcases List.mem_cons.mp listed with rfl | elsewhere
          · cases retries
          · exact .inr ⟨rest, List.mem_append_right _ elsewhere, retries.reports⟩
        · rcases holds.loaded bulkSend List.mem_cons_self with ⟨quantity, finished⟩
          have length := holds.length
          rw [settledBefore] at length
          left
          apply effect.finished
          apply finished
          by_contra unfinished
          apply incomplete
          rw [BulkMessageSend.Completes, quantity, Option.getD_some, state.processed_eq]
          exact ⟨holds.positive, by simp at length; omega, unfinished⟩
      · exact .inr ⟨stage, List.mem_append_right _ elsewhere, reports⟩
  · rcases effect.reports_rows owed replacingSettled.1 with ⟨stage, listed, reports⟩
    exact .inr ⟨stage, List.mem_append_left _ listed, reports⟩

theorem advance : BulkSendRunning settings total after (replacing ++ others) where
  positive := holds.positive
  quantity := effect.roomsQty.trans holds.quantity
  started := by
    intro stage member
    rcases List.mem_append.mp member with here | elsewhere
    · exact effect.not_prepares stage here
    · exact holds.started stage (List.mem_cons_of_mem _ elsewhere)
  exist := by
    intro room owed
    rw [effect.rooms_eq]
    exact holds.exist room (effect.owedRooms_append_subset owed)
  length := holds.length_after effect
  dispatched := fun _ member => holds.dispatched_after effect member
  loaded := fun _ member => holds.loaded_after effect member
  complete := holds.complete_after effect
  pending := fun _ stored => holds.pending_after effect stored
  reported := holds.reported_after effect

end Advance

theorem surround {event : BulkSendAmbient} (holds : BulkSendRunning settings total state tasks)
    (surrounded : state.surround settings event = some after) :
    BulkSendRunning settings total after tasks := by
  cases event with
  | tick elapsed =>
      cases surrounded
      refine { holds with pending := fun expiry stored => ?_ }
      rcases holds.pending expiry stored with ⟨bounded, retried⟩
      refine ⟨?_, fun alive => retried (Nat.lt_of_le_of_lt (Nat.le_add_right _ _) alive)⟩
      exact Nat.le_trans bounded (Nat.add_le_add_right (Nat.le_add_right _ _) _)
  | saveRoom room row =>
      cases surrounded
      refine { holds with exist := fun owed member => ?_ }
      exact (AList.mem_insert _).mpr (.inr (holds.exist owed member))
  | finishStale cutoff =>
      simp only [BulkSendState.surround] at surrounded
      split at surrounded
      · split at surrounded
        · cases surrounded
          exact
            { holds with
              loaded := fun bulkSend member => ⟨(holds.loaded bulkSend member).1, fun _ => rfl⟩
              reported := fun _ => .inl rfl }
        · cases surrounded
          exact holds
      · cases surrounded

end BulkSendRunning

/-- What holds until then: the dispatch is the only task. -/
structure BulkSendPreparing (state : BulkSendState) (task : BulkSendTask) : Prop where
  prepares : task.Prepares
  listed : ∀ roomsCount roomUuids, task = .savingProcessing roomsCount roomUuids →
    ∀ room ∈ roomUuids, room ∈ state.rooms
  bulkMessages : state.bulkMessages = []
  dispatched : state.dispatched = []
  pending : state.cache .pending = none

/-- The statements under which a bulk send is finished as it should be. The dispatch
marks a bulk send as processing that has not been finished before, with the number
of the rooms to which it sends, of which there is one at least. A notification of
the room does not raise an exception. -/
def Sound (state : BulkSendState) : BulkSendTask → BulkSendChoice → Prop
  | .savingProcessing roomsCount roomUuids, _ =>
      state.bulkSend.status ≠ .finished ∧ roomsCount = roomUuids.length ∧ roomUuids ≠ []
  | .notifyingRoom _, choice => choice = .succeeds
  | _, _ => True

instance (state : BulkSendState) (task : BulkSendTask) (choice : BulkSendChoice) :
    Decidable (Sound state task choice) := by
  unfold Sound
  split <;> infer_instance

def BulkSendInvariant (settings : BulkSendSettings) (state : BulkSendState)
    (tasks : List BulkSendTask) : Prop :=
  (∃ task, tasks = [task] ∧ BulkSendPreparing state task) ∨
    ∃ total, BulkSendRunning settings total state tasks

theorem BulkSendPreparing.saveProcessing {roomsCount : Nat} {roomUuids : List Uuid}
    (holds : BulkSendPreparing state (.savingProcessing roomsCount roomUuids))
    (counted : roomsCount = roomUuids.length) (nonempty : roomUuids ≠ []) :
    BulkSendRunning settings roomsCount (state.saveProcessing roomsCount)
      [.dispatching roomUuids] where
  positive := by
    rw [counted]
    exact List.length_pos_iff.mpr nonempty
  quantity := rfl
  started := by simp [BulkSendTask.Prepares]
  exist := by
    simpa [BulkSendTask.owed, BulkSendState.saveProcessing] using
      holds.listed roomsCount roomUuids rfl
  length := by
    simp [BulkSendTask.owed, BulkSendState.saveProcessing, holds.bulkMessages, counted]
  dispatched := by simp [BulkSendState.saveProcessing, holds.dispatched]
  loaded := by simp
  complete := by simp
  pending := by simp [BulkSendState.saveProcessing, holds.pending]
  reported := by
    intro settled
    exact absurd (by simpa [BulkSendTask.owed] using settled) nonempty

theorem BulkSendPreparing.advance {choice : BulkSendChoice}
    (holds : BulkSendPreparing state task) (sound : Sound state task choice)
    (advanced : state.advance settings task choice = some (after, replacing)) :
    BulkSendInvariant settings after replacing := by
  cases choice with
  | raises errors =>
      cases task with
      | sending => cases holds.prepares
      | notifyingRoom => cases holds.prepares
      | _ => cases advanced
  | succeeds =>
      cases task with
      | processBulkMessageSend =>
          cases advanced
          exact .inl ⟨_, rfl, { holds with prepares := trivial, listed := nofun }⟩
      | countingRooms =>
          cases advanced
          exact .inl ⟨_, rfl, { holds with prepares := trivial, listed := nofun }⟩
      | listingRooms roomsCount =>
          cases advanced
          refine .inl ⟨_, rfl, { holds with prepares := trivial, listed := ?_ }⟩
          intro count roomUuids same room member
          cases same
          exact mem_of_mem_getBulkSendRooms member
      | savingProcessing roomsCount roomUuids =>
          cases advanced
          rcases sound with ⟨_, counted, nonempty⟩
          exact .inr ⟨roomsCount, holds.saveProcessing counted nonempty⟩
      | _ => exact absurd holds.prepares id

theorem BulkSendPreparing.surround {event : BulkSendAmbient}
    (holds : BulkSendPreparing state task)
    (surrounded : state.surround settings event = some after) : BulkSendPreparing after task := by
  cases event with
  | tick elapsed =>
      cases surrounded
      exact { holds with }
  | saveRoom room row =>
      cases surrounded
      refine { holds with listed := fun roomsCount roomUuids same own member => ?_ }
      exact (AList.mem_insert _).mpr (.inr (holds.listed roomsCount roomUuids same own member))
  | finishStale cutoff =>
      simp only [BulkSendState.surround] at surrounded
      split at surrounded
      · split at surrounded
        · cases surrounded
          exact { holds with }
        · cases surrounded
          exact holds
      · cases surrounded

def bulkSendOutline (settings : BulkSendSettings) :
    TaskOutline (bulkSendProgram settings) Sound where
  Invariant := BulkSendInvariant settings
  perm := by
    intro state tasks others order holds
    rcases holds with ⟨task, rfl, preparing⟩ | ⟨total, running⟩
    · exact .inl ⟨task, List.singleton_perm.mp order |>.symm, preparing⟩
    · exact .inr ⟨total, running.perm order⟩
  advance := by
    intro state task others choice after replacing sound holds advanced
    rcases holds with ⟨only, same, preparing⟩ | ⟨total, running⟩
    · cases same
      rw [List.append_nil]
      exact preparing.advance sound advanced
    · refine .inr ⟨total, running.advance (.of_advance ?_ ?_ ?_ advanced)⟩
      · exact running.started task List.mem_cons_self
      · intro room equal
        subst equal
        exact sound
      · intro room sends
        apply running.exist
        simp [sends.owed_eq]
  surround := by
    intro state tasks event after holds surrounded
    rcases holds with ⟨task, rfl, preparing⟩ | ⟨total, running⟩
    · exact .inl ⟨task, rfl, preparing.surround surrounded⟩
    · exact .inr ⟨total, running.surround surrounded⟩

/-! ## Finishing -/

theorem BulkSendState.advance_finished {choice : BulkSendChoice}
    (sound : Sound state task choice) (finished : state.bulkSend.status = .finished)
    (advanced : state.advance settings task choice = some (after, replacing)) :
    after.bulkSend.status = .finished := by
  cases choice with
  | raises errors =>
      rcases Option.map_eq_some_iff.mp advanced with ⟨handler, _, same⟩
      cases same
      exact finished
  | succeeds =>
      cases task with
      | savingProcessing roomsCount roomUuids => exact absurd finished sound.1
      | dispatching roomUuids => cases roomUuids <;> cases advanced <;> exact finished
      | sending statement room user =>
          cases advanced
          cases statement <;> exact finished
      | updateBulkMessageSendProgress due =>
          simp only [BulkSendState.advance, BulkSendState.proceed] at advanced
          split at advanced
          · split at advanced <;> cases advanced <;> exact finished
          · cases advanced
      | addingPending =>
          simp only [BulkSendState.advance, BulkSendState.proceed] at advanced
          split at advanced <;> cases advanced <;> exact finished
      | savingFinished =>
          cases advanced
          rfl
      | _ =>
          cases advanced
          exact finished

theorem BulkSendState.surround_finished {event : BulkSendAmbient}
    (finished : state.bulkSend.status = .finished)
    (surrounded : state.surround settings event = some after) :
    after.bulkSend.status = .finished := by
  cases event with
  | finishStale cutoff =>
      simp only [BulkSendState.surround] at surrounded
      split at surrounded
      · split at surrounded <;> cases surrounded
        · rfl
        · exact finished
      · cases surrounded
  | _ =>
      cases surrounded
      exact finished

/-- The runs of the tasks of a bulk send all of whose statements are allowed. -/
abbrev BulkSendReaches (settings : BulkSendSettings)
    (allowed : BulkSendState → BulkSendTask → BulkSendChoice → Prop) :
    BulkSendAgenda → BulkSendAgenda → Prop :=
  (bulkSendProgram settings).machine.Reaches fun agenda event => agenda.OwnStep allowed event

theorem startBulkSend_invariant (settings : BulkSendSettings) (project : Uuid) (text : String)
    (filterSnapshot : FilterSnapshot) (rooms : Table Uuid BulkSendRoom) (now : Instant) :
    BulkSendInvariant settings (startBulkSend project text filterSnapshot rooms now).shared
      (startBulkSend project text filterSnapshot rooms now).tasks :=
  .inl ⟨_, rfl, ⟨trivial, nofun, rfl, rfl, rfl⟩⟩

/-- As long as all statements are sound, a bulk send that is finished stays finished;
a progress task finishes it when all rooms to which it has been dispatched have
their outcome row; and it is finished once all tasks have been executed. -/
theorem sound_bulk_send_finishes (settings : BulkSendSettings) (project : Uuid) (text : String)
    (filterSnapshot : FilterSnapshot) (rooms : Table Uuid BulkSendRoom) (now : Instant)
    {current : BulkSendAgenda}
    (reaches : BulkSendReaches settings Sound
      (startBulkSend project text filterSnapshot rooms now) current) :
    (∀ later, BulkSendReaches settings Sound current later →
        current.shared.bulkSend.status = .finished → later.shared.bulkSend.status = .finished) ∧
      (.savingFinished ∈ current.tasks → ∀ room ∈ current.shared.dispatched,
        ∃ row ∈ current.shared.bulkMessages, row.room = room) ∧
      (current.tasks = [] → current.shared.bulkSend.status = .finished) := by
  have holds := (bulkSendOutline settings).holds_of_reaches reaches
    (startBulkSend_invariant settings project text filterSnapshot rooms now)
  refine ⟨?_, ?_, ?_⟩
  · intro later continues finished
    exact TaskProgram.shared_of_reaches BulkSendState.advance_finished
      BulkSendState.surround_finished continues finished
  · intro finishing room member
    rcases holds with ⟨task, only, preparing⟩ | ⟨total, running⟩
    · rw [preparing.dispatched] at member
      cases member
    · rcases running.dispatched room member with owed | row
      · rw [running.complete finishing] at owed
        cases owed
      · exact row
  · intro executed
    rcases holds with ⟨task, only, _⟩ | ⟨total, running⟩
    · rw [executed] at only
      cases only
    · rcases running.reported (by rw [executed]; rfl) with finished | ⟨task, member, _⟩
      · exact finished
      · rw [executed] at member
        cases member

/-! ## Bulk sends that are not finished as they should be -/

section Runs

def everySecond : BulkSendSettings := ⟨1, 1, 3600⟩

def waitingRoom : BulkSendRoom := ⟨true, some ⟨5, 0, false, false⟩, none, false⟩

def waitingRooms : FilterSnapshot := ⟨[.waiting], [], []⟩

def oneWaitingRoom : Table Uuid BulkSendRoom := (∅ : Table Uuid BulkSendRoom).insert 1 waitingRoom

def startGreeting (rooms : Table Uuid BulkSendRoom) : BulkSendAgenda :=
  startBulkSend 0 "hello" waitingRooms rooms 0

def proceedTimes (statements : Nat) : List BulkSendEvent :=
  List.replicate statements (.advance 0 .succeeds)

/-- The dispatch stands still for an hour, and the sweep finishes the bulk send. -/
def sweptBulkSend : List BulkSendEvent :=
  proceedTimes 3 ++ [.surround (.tick 3600), .surround (.finishStale 0)]

/-- A second room arrives between the two queries of the dispatch. The message is
sent to the first one. -/
def bulkSendWithLateRoom : List BulkSendEvent :=
  proceedTimes 2 ++ [.surround (.saveRoom 2 waitingRoom)] ++ proceedTimes 4 ++
    [.advance 1 .succeeds] ++ proceedTimes 11

def twoWaitingRooms : Table Uuid BulkSendRoom := oneWaitingRoom.insert 2 waitingRoom

/-- A room is closed between the two queries of the dispatch, and everything is executed. -/
def bulkSendWithClosedRoom : List BulkSendEvent :=
  proceedTimes 2 ++ [.surround (.saveRoom 2 { waitingRoom with isActive := false })] ++
    proceedTimes 16

/-- Sooner or later, with no condition on the statements. -/
abbrev GreetingReaches : BulkSendAgenda → BulkSendAgenda → Prop :=
  (bulkSendProgram everySecond).machine.Reaches Machine.anyStep

theorem bulk_send_is_not_finished_properly :
    (¬∀ current later, GreetingReaches (startGreeting oneWaitingRoom) current →
        GreetingReaches current later → current.shared.bulkSend.status = .finished →
        later.shared.bulkSend.status = .finished) ∧
      (¬∀ current, GreetingReaches (startGreeting oneWaitingRoom) current →
        .savingFinished ∈ current.tasks → ∀ room ∈ current.shared.dispatched,
        ∃ row ∈ current.shared.bulkMessages, row.room = room) ∧
      ¬∀ current, GreetingReaches (startGreeting twoWaitingRooms) current → current.tasks = [] →
        current.shared.bulkSend.status = .finished := by
  refine ⟨?_, ?_, ?_⟩
  · intro terminal
    have ends : ((bulkSendProgram everySecond).machine.run (startGreeting oneWaitingRoom)
        sweptBulkSend).map (fun current => (current.shared.bulkSend.status,
          ((bulkSendProgram everySecond).machine.run current (proceedTimes 1)).map
            fun later => later.shared.bulkSend.status)) =
        some (.finished, some .processing) := by
      decide
    rcases Option.map_eq_some_iff.mp ends with ⟨current, swept, same⟩
    rcases Prod.mk.inj same with ⟨finished, continued⟩
    rcases Option.map_eq_some_iff.mp continued with ⟨later, dispatched, processing⟩
    rw [terminal current later (.of_run swept) (.of_run dispatched) finished] at processing
    cases processing
  · intro complete
    have ends : ((bulkSendProgram everySecond).machine.run (startGreeting oneWaitingRoom)
        bulkSendWithLateRoom).map (fun current => (decide (.savingFinished ∈ current.tasks),
          decide (2 ∈ current.shared.dispatched),
          decide (∃ row ∈ current.shared.bulkMessages, row.room = 2))) =
        some (true, true, false) := by
      decide
    rcases Option.map_eq_some_iff.mp ends with ⟨current, ran, same⟩
    simp only [Prod.mk.injEq, decide_eq_true_eq, decide_eq_false_iff_not] at same
    exact same.2.2 (complete current (.of_run ran) same.1 2 same.2.1)
  · intro executed
    have ends : ((bulkSendProgram everySecond).machine.run (startGreeting twoWaitingRooms)
        bulkSendWithClosedRoom).map
          (fun current => (current.tasks, current.shared.bulkSend.status)) =
        some ([], .processing) := by
      decide
    rcases Option.map_eq_some_iff.mp ends with ⟨current, ran, same⟩
    rcases Prod.mk.inj same with ⟨noTasks, processing⟩
    rw [executed current (.of_run ran) noTasks] at processing
    cases processing

/-- Two rooms at dispatch. The notification of the first one raises an exception, and
both of the rows that count are about this room. -/
example :
    (((bulkSendProgram everySecond).machine.run
        (startGreeting twoWaitingRooms)
        (proceedTimes 6 ++ [.advance 1 .succeeds] ++ proceedTimes 6 ++
          [.advance 0 (.raises ⟨"timeout", ""⟩)] ++ proceedTimes 5)).map
      fun current => (current.tasks.head?, current.shared.dispatched,
        current.shared.bulkMessages.map BulkMessageSendMessage.room)) =
      some (some .savingFinished, [1, 2], [1, 1]) := by
  decide

/-- The second room is closed before its turn comes. Its progress meets the cooldown,
and is counted by the retry. -/
def greetTwoRooms : List BulkSendEvent :=
  proceedTimes 19 ++ [.surround (.saveRoom 2 { waitingRoom with isActive := false })] ++
    proceedTimes 7 ++ [.surround (.tick 1)] ++ proceedTimes 4

theorem sound_bulk_send_finishes_with_closed_room :
    ∃ final, (bulkSendProgram everySecond).machine.runMeeting
        (fun agenda event => agenda.OwnStep Sound event)
        (startGreeting twoWaitingRooms) greetTwoRooms = some final ∧
      final.shared.bulkMessages.map BulkMessageSendMessage.status = [.failed, .success] ∧
      final.shared.bulkSend.status = .finished := by
  have ends : ((bulkSendProgram everySecond).machine.runMeeting
      (fun agenda event => agenda.OwnStep Sound event)
      (startGreeting twoWaitingRooms) greetTwoRooms).map
        (fun final => (final.tasks,
          final.shared.bulkMessages.map BulkMessageSendMessage.status)) =
      some ([], [.failed, .success]) := by
    decide
  rcases Option.map_eq_some_iff.mp ends with ⟨final, ran, same⟩
  rcases Prod.mk.inj same with ⟨executed, statuses⟩
  have finishes := sound_bulk_send_finishes everySecond 0 "hello" waitingRooms
    (oneWaitingRoom.insert 2 waitingRoom) 0 (.of_runMeeting ran)
  exact ⟨final, ran, statuses, finishes.2.2 executed⟩

end Runs

end ChatsEngine.Messages

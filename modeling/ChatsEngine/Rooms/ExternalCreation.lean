import ChatsEngine.Foundation.Sessions
import ChatsEngine.Foundation.Table
import ChatsEngine.Rooms.Room

/-! # External room creation

A request creates a room for a contact, in one transaction around all that
`RoomFlowSerializer.create` does. It locks the contact's row first. If it finds a room
that is open already it may return that one; a room without an agent is created only
under the lock of the queue, within the queue's limit. -/

namespace ChatsEngine.Rooms

structure ExternalQueue where
  project : Uuid
  queueLimit : Option Nat
  isQueueLimitActive : Bool
deriving DecidableEq, Repr

structure ExternalSettings where
  queues : Uuid → ExternalQueue
  /-- `ignore_close_rooms_on_flow_start` in the configuration of the project. -/
  ignoreCloseRoomsOnFlowStart : Uuid → Bool

structure FlowStart where
  uuid : Uuid
  flow : Option String
  project : Uuid
  room : Option Uuid
  references : List Uuid
  isDeleted : Bool
  createdOn : Instant
deriving DecidableEq, Repr

structure RoomRequest where
  queue : Uuid
  contact : Uuid
  flowUuid : Option String
  groups : List Uuid
  callbackUrl : Option String
  ticketUuid : Option Uuid
  isWaiting : Bool
  urn : Option String
  customFields : Option Json
  protocol : Option String
  serviceChat : Option String
  config : Option Json
  /-- The history has messages of the contact. -/
  incoming : Bool
deriving DecidableEq, Repr

/-- The columns that are saved when an open room is returned; a column that is left out
is not saved. -/
structure TicketUpdate where
  callbackUrl : Option (Option String)
  ticketUuid : Option (Option Uuid)
deriving DecidableEq, Repr

def TicketUpdate.assignments (update : TicketUpdate) : List RoomAssignment :=
  (update.callbackUrl.map fun url => ⟨.callbackUrl, url⟩).toList ++
    (update.ticketUuid.map fun ticket => ⟨.ticketUuid, ticket⟩).toList

theorem TicketUpdate.assign_spare (update : TicketUpdate) {row : RoomRecord}
    {column : RoomColumn} (notUrl : column ≠ .callbackUrl) (notTicket : column ≠ .ticketUuid) :
    row.assign update.assignments column = row column := by
  apply Record.assign_of_not_mem
  rcases update with ⟨url, ticket⟩
  cases url <;> cases ticket <;> simp [TicketUpdate.assignments, notUrl, notTicket]

theorem savedRow_closing (now : Instant) (endedBy : String) (closedBy : Option UserEmail)
    (row : RoomRecord) :
    savedRow now (RoomInstance.closing now endedBy closedBy) row .isActive = false :=
  savedRow_spare (by decide)

structure RoomAnswer where
  contact : Uuid
  room : Uuid
  isCreated : Bool
deriving DecidableEq, Repr

/-- The newest flow starts come first. -/
structure CreationStore where
  now : Instant
  contacts : List Uuid
  flowStarts : List FlowStart
  rooms : Table Uuid RoomRecord
  /-- The requests that have succeeded. -/
  answers : List RoomAnswer

inductive CreationWrite
  | saveContact (contact : Uuid)
  | deleteFlowStart (flowStart : Uuid)
  /-- All columns of an instance. -/
  | storeRoom (room : Uuid) (row : RoomRecord)
  | updateTicket (room : Uuid) (update : TicketUpdate)
  | answer (answer : RoomAnswer)

inductive CreationLock
  | contact (contact : Uuid)
  | queue (queue : Uuid)
deriving DecidableEq, Repr

namespace CreationStore

def write (store : CreationStore) : CreationWrite → CreationStore
  | .saveContact contact =>
      { store with contacts := contact :: store.contacts.filter (· ≠ contact) }
  | .deleteFlowStart uuid =>
      { store with
        flowStarts := store.flowStarts.map fun flowStart =>
          if flowStart.uuid = uuid then { flowStart with isDeleted := true } else flowStart }
  | .storeRoom room row => { store with rooms := store.rooms.insert room row }
  | .updateTicket room update =>
      { store with rooms := store.rooms.modify room fun row => row.assign update.assignments }
  | .answer answer => { store with answers := answer :: store.answers }

/-- The flow starts of `get_active_room_flow_start`, of any flow, with their rooms. -/
def flowStartsWithRoom (store : CreationStore) (project contact : Uuid) :
    List (FlowStart × Uuid) :=
  (store.flowStarts.filter fun flowStart =>
    flowStart.project = project ∧ contact ∈ flowStart.references ∧
      flowStart.isDeleted = false).filterMap fun flowStart =>
        flowStart.room.map fun room => (flowStart, room)

/-- `get_last_flow_start`. -/
def lastFlowStart (store : CreationStore) (project : Uuid) (request : RoomRequest) :
    Option FlowStart :=
  store.flowStarts.find? fun flowStart =>
    flowStart.project = project ∧
      (∃ reference ∈ flowStart.references, reference ∈ request.contact :: request.groups) ∧
      ∀ flow ∈ request.flowUuid, flowStart.flow = some flow

end CreationStore

variable (settings : ExternalSettings)

def IsOpen (contact project : Uuid) (row : RoomRecord) : Prop :=
  row .isActive = true ∧ row .contact = some contact ∧
    ∃ queue ∈ row .queue, (settings.queues queue).project = project

instance (contact project : Uuid) : DecidablePred (IsOpen settings contact project) := fun _ =>
  inferInstanceAs (Decidable (_ ∧ _))

/-- A room that waits in the queue for an agent, as `queued_rooms_count` counts it. -/
def IsQueued (queue : Uuid) (row : RoomRecord) : Prop :=
  row .queue = some queue ∧ row .isActive = true ∧ row .user = none ∧ row .isWaiting = false

instance (queue : Uuid) : DecidablePred (IsQueued queue) := fun _ =>
  inferInstanceAs (Decidable (_ ∧ _))

def queuedRoomsCount (store : CreationStore) (queue : Uuid) : Nat :=
  store.rooms.count (IsQueued queue)

def CreationStore.activeRooms (store : CreationStore) (contact project : Uuid) : List Uuid :=
  (store.rooms.entries.filter fun entry => IsOpen settings contact project entry.2).map Sigma.fst

/-! ## The statements of a request -/

/-- Why an instance of a room is saved, with its values. -/
inductive RoomSave
  /-- A room of another flow is closed; the other flow starts are still to come. -/
  | closing (row : RoomRecord) (rest : List (FlowStart × Uuid))
  | flowStartRoom (row : RoomRecord) (update : TicketUpdate)
  | activeRoom (row : RoomRecord) (update : TicketUpdate)
  | history (row : RoomRecord) (isCreated : Bool)

/-- The next statement of a request, with what the statements before it have found. -/
inductive CreationStage
  | updatingContact
  | findingFlowStart
  | gettingFlowStartRoom (flowStart : FlowStart) (room : Uuid)
  | deletingFlowStart (flowStart : FlowStart) (room : Uuid) (row : RoomRecord)
  | listingFlowStarts
  | closingFlowStarts (rest : List (FlowStart × Uuid))
  | gettingRoomToClose (room : Uuid) (rest : List (FlowStart × Uuid))
  /-- `Room.save` has not looked yet whether the stored row is active. -/
  | saving (room : Uuid) (save : RoomSave)
  | storing (room : Uuid) (save : RoomSave)
  | checkingActiveRooms
  | takingActiveRoom
  | findingLastFlowStart
  | resolvingRoomUser (last : Option FlowStart)
  | checkingLaterRooms (last : Option FlowStart) (user : Option UserEmail)
  | lockingQueue
  | countingQueuedRooms (limit : Nat)
  | creatingRoom (user : Option UserEmail) (isChecked : Bool)
  | creatingMetrics (room : Uuid) (row : RoomRecord)
  | processingHistory (room : Uuid) (row : RoomRecord) (isCreated : Bool)
  | finishing (room : Uuid) (isCreated : Bool)

structure CreationLocal where
  request : RoomRequest
  stage : CreationStage

/-- What a statement leaves open. Any statement may raise an exception, as may what the
request does besides its statements. -/
inductive CreationChoice
  | done
  | raised
  /-- The key of a new room. -/
  | uuid (uuid : Uuid)
  /-- The result of `ResolveRoomUserUseCase`. -/
  | resolved (user : Option UserEmail)
  | is24hValid (isValid : Bool)
deriving DecidableEq, Repr

abbrev CreationStatement := Statement CreationWrite CreationLock CreationLocal

namespace RoomSave

def write (room : Uuid) : RoomSave → CreationWrite
  | .closing row _ => .storeRoom room row
  | .flowStartRoom _ update => .updateTicket room update
  | .activeRoom _ update => .updateTicket room update
  | .history row _ => .storeRoom room row

def next (room : Uuid) : RoomSave → CreationStage
  | .closing _ rest => .closingFlowStarts rest
  | .flowStartRoom row update => .processingHistory room (row.assign update.assignments) false
  | .activeRoom _ _ => .finishing room false
  | .history _ isCreated => .finishing room isCreated

end RoomSave

namespace RoomRequest

def proceed (request : RoomRequest) (stage : CreationStage) : CreationStatement where
  locks := []
  writes := []
  next := .proceed ⟨request, stage⟩

def write (request : RoomRequest) (write : CreationWrite) (stage : CreationStage) :
    CreationStatement where
  locks := []
  writes := [write]
  next := .proceed ⟨request, stage⟩

def lock (request : RoomRequest) (lock : CreationLock) (stage : CreationStage) :
    CreationStatement where
  locks := [lock]
  writes := []
  next := .proceed ⟨request, stage⟩

def assignments (request : RoomRequest) (project : Uuid) (user : Option UserEmail) :
    List RoomAssignment :=
  [⟨.user, user⟩, ⟨.contact, some request.contact⟩, ⟨.queue, some request.queue⟩,
    ⟨.projectUuid, some (toString project)⟩, ⟨.callbackUrl, request.callbackUrl⟩,
    ⟨.ticketUuid, request.ticketUuid⟩, ⟨.isWaiting, request.isWaiting⟩, ⟨.urn, request.urn⟩,
    ⟨.customFields, request.customFields⟩, ⟨.protocol, request.protocol⟩,
    ⟨.serviceChat, request.serviceChat⟩, ⟨.config, request.config⟩]

/-- `Room.objects.create`. -/
def newRow (request : RoomRequest) (now : Instant) (project : Uuid) (user : Option UserEmail) :
    RoomRecord :=
  let room := RoomInstance.create
    ((RoomRecord.defaults now).assign (request.assignments project user))
  (room.assign (room.saveAssignments now none)).values

def flowStartUpdate (request : RoomRequest) : TicketUpdate where
  callbackUrl := request.callbackUrl.map some
  ticketUuid := request.ticketUuid.map some

/-- What `validate_unique_active_project` saves. -/
def activeRoomUpdate (request : RoomRequest) : TicketUpdate where
  callbackUrl := some request.callbackUrl
  ticketUuid := some request.ticketUuid

end RoomRequest

def rollbackRequest : CreationStatement where
  locks := []
  writes := []
  next := .rollback none

def ExternalSettings.projectOf (request : RoomRequest) : Uuid :=
  (settings.queues request.queue).project

def CreationStore.HasLaterRoom (store : CreationStore) (request : RoomRequest)
    (flowStart : FlowStart) : Prop :=
  ∃ entry ∈ store.rooms.entries, entry.2 .contact = some request.contact ∧
    (∃ queue ∈ entry.2 .queue, (settings.queues queue).project = settings.projectOf request) ∧
    flowStart.createdOn < entry.2 .createdOn

instance (store : CreationStore) (request : RoomRequest) (flowStart : FlowStart) :
    Decidable (store.HasLaterRoom settings request flowStart) :=
  inferInstanceAs (Decidable (∃ entry ∈ store.rooms.entries, _))

/-- The constraint on open rooms of one contact in one queue. -/
def CreationStore.Conflicts (store : CreationStore) (request : RoomRequest) : Prop :=
  ∃ entry ∈ store.rooms.entries, entry.2 .isActive = true ∧
    entry.2 .contact = some request.contact ∧ entry.2 .queue = some request.queue

instance (store : CreationStore) (request : RoomRequest) :
    Decidable (store.Conflicts request) :=
  inferInstanceAs (Decidable (∃ entry ∈ store.rooms.entries, _))

/-- `get_is_waiting`. -/
def CreationStore.IsWaiting (store : CreationStore) (room : Uuid) (row : RoomRecord) : Prop :=
  row .isWaiting = true ∨
    ∃ flowStart ∈ store.flowStarts, flowStart.room = some room ∧ flowStart.isDeleted = false

instance (store : CreationStore) (room : Uuid) (row : RoomRecord) :
    Decidable (store.IsWaiting room row) :=
  inferInstanceAs (Decidable (_ ∨ _))

namespace CreationStore

variable (store : CreationStore) (request : RoomRequest)

def proceed : CreationStage → Option CreationStatement
  -- `update_or_create` with `select_for_update`: the row stays locked.
  | .updatingContact =>
      some
        { locks := [.contact request.contact]
          writes := [.saveContact request.contact]
          next := .proceed ⟨request, .findingFlowStart⟩ }
  | .findingFlowStart =>
      let found := (store.flowStartsWithRoom (settings.projectOf request) request.contact).find?
        fun entry => entry.1.flow = request.flowUuid
      some <| request.proceed <|
        match found with
        | some (flowStart, room) => .gettingFlowStartRoom flowStart room
        | none =>
            if settings.ignoreCloseRoomsOnFlowStart (settings.projectOf request) then
              .checkingActiveRooms
            else
              .listingFlowStarts
  | .gettingFlowStartRoom flowStart room =>
      (store.rooms.lookup room).map fun row => request.proceed <|
        if row .isActive then .deletingFlowStart flowStart room row else .checkingActiveRooms
  | .deletingFlowStart flowStart room row =>
      some <| request.write (.deleteFlowStart flowStart.uuid) <|
        if request.flowStartUpdate.assignments = [] then .processingHistory room row false
        else .saving room (.flowStartRoom row request.flowStartUpdate)
  | .listingFlowStarts =>
      some <| request.proceed <| .closingFlowStarts <|
        store.flowStartsWithRoom (settings.projectOf request) request.contact
  | .closingFlowStarts [] => some <| request.proceed .checkingActiveRooms
  | .closingFlowStarts ((flowStart, room) :: rest) =>
      some <| request.write (.deleteFlowStart flowStart.uuid) (.gettingRoomToClose room rest)
  | .gettingRoomToClose room rest =>
      (store.rooms.lookup room).map fun row => request.proceed <|
        if row .isActive then
          .saving room (.closing
            (savedRow store.now (RoomInstance.closing store.now "new_room" none) row) rest)
        else
          .closingFlowStarts rest
  | .saving room save =>
      (store.rooms.lookup room).map fun row =>
        if row .isActive then request.proceed (.storing room save) else rollbackRequest
  | .storing room save => some <| request.write (save.write room) (save.next room)
  | .checkingActiveRooms =>
      some <|
        if store.activeRooms settings request.contact (settings.projectOf request) = [] then
          request.proceed .findingLastFlowStart
        else if settings.ignoreCloseRoomsOnFlowStart (settings.projectOf request) then
          request.proceed .takingActiveRoom
        else
          rollbackRequest
  | .takingActiveRoom =>
      -- Without a room left, `first()` is `None`, and its use raises an exception.
      let room := (store.activeRooms settings request.contact (settings.projectOf request)).min?
      some <|
        match room.bind fun room => (store.rooms.lookup room).map fun row => (room, row) with
        | none => rollbackRequest
        | some (room, row) =>
            request.proceed (.saving room (.activeRoom row request.activeRoomUpdate))
  | .findingLastFlowStart =>
      some <| request.proceed <| .resolvingRoomUser <|
        store.lastFlowStart (settings.projectOf request) request
  | .resolvingRoomUser _ => none
  | .checkingLaterRooms last user =>
      some <| request.proceed <|
        if user = none ∧ ∀ flowStart ∈ last, store.HasLaterRoom settings request flowStart then
          .lockingQueue
        else
          .creatingRoom user false
  | .lockingQueue =>
      let queue := settings.queues request.queue
      some <| request.lock (.queue request.queue) <|
        if queue.isQueueLimitActive then .countingQueuedRooms (queue.queueLimit.getD 0)
        else .creatingRoom none true
  | .countingQueuedRooms limit =>
      some <|
        if limit ≤ queuedRoomsCount store request.queue then rollbackRequest
        else request.proceed (.creatingRoom none true)
  | .creatingRoom _ _ => none
  | .creatingMetrics room row => some <| request.proceed <| .processingHistory room row true
  | .processingHistory _ _ _ => none
  | .finishing room isCreated =>
      some
        { locks := []
          writes := [.answer ⟨request.contact, room, isCreated⟩]
          next := .commit none }

/-- `Room.objects.create`, with a key that no other room has. -/
def createRoom (user : Option UserEmail) (room : Uuid) : Option CreationStatement :=
  if store.rooms.lookup room = none then
    if store.Conflicts request then some rollbackRequest
    else
      let row := request.newRow store.now (settings.projectOf request) user
      some (request.write (.storeRoom room row) (.creatingMetrics room row))
  else
    none

/-- `process_message_history`, up to where it may save the room. -/
def processHistory (room : Uuid) (row : RoomRecord) (isCreated is24hValid : Bool) :
    CreationStatement :=
  request.proceed <|
    if request.incoming = true ∧ (store.IsWaiting room row ∨ is24hValid = false) then
      .saving room (.history (savedRow store.now [⟨.isWaiting, false⟩] row) isCreated)
    else
      .finishing room isCreated

def advance (stage : CreationStage) : CreationChoice → Option CreationStatement
  | .raised => some rollbackRequest
  | .done => store.proceed settings request stage
  | .resolved user =>
      match stage with
      | .resolvingRoomUser last => some (request.proceed (.checkingLaterRooms last user))
      | _ => none
  | .uuid room =>
      match stage with
      | .creatingRoom user _ => store.createRoom settings request user room
      | _ => none
  | .is24hValid isValid =>
      match stage with
      | .processingHistory room row isCreated =>
          some (store.processHistory request room row isCreated isValid)
      | _ => none

end CreationStore

inductive CreationAmbient
  | tick (elapsed : Nat)
  | assign (room : Uuid) (user : UserEmail)
  | close (room : Uuid) (endedBy : String) (closedBy : Option UserEmail)
deriving DecidableEq, Repr

/-- The requests that assign or close a room, in autocommit mode. -/
def CreationStore.surround (store : CreationStore) : CreationAmbient → CreationStore
  | .tick elapsed => { store with now := store.now + elapsed }
  | .assign room user =>
      { store with rooms := store.rooms.modify room (savedRow store.now [⟨.user, some user⟩]) }
  | .close room endedBy closedBy =>
      { store with
        rooms := store.rooms.modify room
          (savedRow store.now (RoomInstance.closing store.now endedBy closedBy)) }

def creationProgram : SessionProgram CreationStore CreationWrite CreationLock CreationLocal
    RoomRequest CreationChoice CreationAmbient where
  enter := fun request => ⟨request, .updatingContact⟩
  write := CreationStore.write
  advance := fun store locals choice => store.advance settings locals.request locals.stage choice
  surround := fun store event => some (store.surround event)

abbrev CreationSessions (Pid : Type) :=
  Sessions Pid CreationStore CreationWrite CreationLock CreationLocal

abbrev CreationEvent (Pid : Type) := PoolEvent Pid RoomRequest CreationChoice CreationAmbient

/-! ## How a request ends -/

section Ends

variable {settings : ExternalSettings} {view : CreationStore} {request : RoomRequest}
  {stage : CreationStage} {choice : CreationChoice} {statement : CreationStatement}

/-- A statement goes on with the same request, commits its answer, or is rolled back. -/
inductive RequestContinues (request : RoomRequest) (stage : CreationStage) :
    CreationStatement → Prop
  | proceed (locks : List CreationLock) (writes : List CreationWrite) (next : CreationStage) :
      RequestContinues request stage ⟨locks, writes, .proceed ⟨request, next⟩⟩
  | commit (room : Uuid) (isCreated : Bool) : stage = .finishing room isCreated →
      RequestContinues request stage
        ⟨[], [.answer ⟨request.contact, room, isCreated⟩], .commit none⟩
  | rollback : RequestContinues request stage rollbackRequest

/-- The statements of a request that leave nothing open. Some are rolled back where they find
what they do not accept. -/
inductive Proceeds (settings : ExternalSettings) (view : CreationStore) (request : RoomRequest) :
    CreationStage → CreationStatement → Prop
  | rollback {stage : CreationStage} : Proceeds settings view request stage rollbackRequest
  | updateContact :
      Proceeds settings view request .updatingContact
        ⟨[.contact request.contact], [.saveContact request.contact],
          .proceed ⟨request, .findingFlowStart⟩⟩
  | findFlowStart {flowStart : FlowStart} {room : Uuid} :
      Proceeds settings view request .findingFlowStart
        (request.proceed (.gettingFlowStartRoom flowStart room))
  | ignoreFlowStarts :
      Proceeds settings view request .findingFlowStart (request.proceed .checkingActiveRooms)
  | turnToFlowStarts :
      Proceeds settings view request .findingFlowStart (request.proceed .listingFlowStarts)
  | getOpenRoom {flowStart : FlowStart} {room : Uuid} {row : RoomRecord} :
      view.rooms.lookup room = some row → row .isActive = true →
      Proceeds settings view request (.gettingFlowStartRoom flowStart room)
        (request.proceed (.deletingFlowStart flowStart room row))
  | getClosedRoom {flowStart : FlowStart} {room : Uuid} :
      Proceeds settings view request (.gettingFlowStartRoom flowStart room)
        (request.proceed .checkingActiveRooms)
  | leaveRoom {flowStart : FlowStart} {room : Uuid} {row : RoomRecord} :
      Proceeds settings view request (.deletingFlowStart flowStart room row)
        (request.write (.deleteFlowStart flowStart.uuid) (.processingHistory room row false))
  | updateRoom {flowStart : FlowStart} {room : Uuid} {row : RoomRecord} :
      Proceeds settings view request (.deletingFlowStart flowStart room row)
        (request.write (.deleteFlowStart flowStart.uuid)
          (.saving room (.flowStartRoom row request.flowStartUpdate)))
  | listFlowStarts {rest : List (FlowStart × Uuid)} :
      Proceeds settings view request .listingFlowStarts (request.proceed (.closingFlowStarts rest))
  | closedAll :
      Proceeds settings view request (.closingFlowStarts []) (request.proceed .checkingActiveRooms)
  | deleteNext {flowStart : FlowStart} {room : Uuid} {rest : List (FlowStart × Uuid)} :
      Proceeds settings view request (.closingFlowStarts ((flowStart, room) :: rest))
        (request.write (.deleteFlowStart flowStart.uuid) (.gettingRoomToClose room rest))
  | closeRoom {room : Uuid} {row : RoomRecord} {rest : List (FlowStart × Uuid)} :
      Proceeds settings view request (.gettingRoomToClose room rest)
        (request.proceed (.saving room (.closing
          (savedRow view.now (RoomInstance.closing view.now "new_room" none) row) rest)))
  | passRoom {room : Uuid} {rest : List (FlowStart × Uuid)} :
      Proceeds settings view request (.gettingRoomToClose room rest)
        (request.proceed (.closingFlowStarts rest))
  | guard {room : Uuid} {save : RoomSave} :
      Proceeds settings view request (.saving room save) (request.proceed (.storing room save))
  | store {room : Uuid} {save : RoomSave} :
      Proceeds settings view request (.storing room save)
        (request.write (save.write room) (save.next room))
  | findNoRoom :
      view.activeRooms settings request.contact (settings.projectOf request) = [] →
      Proceeds settings view request .checkingActiveRooms
        (request.proceed .findingLastFlowStart)
  | findActiveRoom :
      Proceeds settings view request .checkingActiveRooms (request.proceed .takingActiveRoom)
  | takeActiveRoom {room : Uuid} {row : RoomRecord} :
      room ∈ view.activeRooms settings request.contact (settings.projectOf request) →
      Proceeds settings view request .takingActiveRoom
        (request.proceed (.saving room (.activeRoom row request.activeRoomUpdate)))
  | findLastFlowStart {last : Option FlowStart} :
      Proceeds settings view request .findingLastFlowStart
        (request.proceed (.resolvingRoomUser last))
  | checkQueue {last : Option FlowStart} {user : Option UserEmail} :
      Proceeds settings view request (.checkingLaterRooms last user)
        (request.proceed .lockingQueue)
  | skipQueue {last : Option FlowStart} {user : Option UserEmail} :
      Proceeds settings view request (.checkingLaterRooms last user)
        (request.proceed (.creatingRoom user false))
  | lockLimited : (settings.queues request.queue).isQueueLimitActive = true →
      Proceeds settings view request .lockingQueue
        (request.lock (.queue request.queue)
          (.countingQueuedRooms ((settings.queues request.queue).queueLimit.getD 0)))
  | lockUnlimited : (settings.queues request.queue).isQueueLimitActive ≠ true →
      Proceeds settings view request .lockingQueue
        (request.lock (.queue request.queue) (.creatingRoom none true))
  | findPlace {limit : Nat} : queuedRoomsCount view request.queue < limit →
      Proceeds settings view request (.countingQueuedRooms limit)
        (request.proceed (.creatingRoom none true))
  | createMetrics {room : Uuid} {row : RoomRecord} :
      Proceeds settings view request (.creatingMetrics room row)
        (request.proceed (.processingHistory room row true))
  | finish {room : Uuid} {isCreated : Bool} :
      Proceeds settings view request (.finishing room isCreated)
        ⟨[], [.answer ⟨request.contact, room, isCreated⟩], .commit none⟩

theorem Proceeds.of_map {row : Option RoomRecord} {next : RoomRecord → CreationStatement}
    (proceeds : ∀ found, row = some found → Proceeds settings view request stage (next found))
    (advanced : row.map next = some statement) :
    Proceeds settings view request stage statement := by
  rcases Option.map_eq_some_iff.mp advanced with ⟨found, isFound, rfl⟩
  exact proceeds found isFound

theorem proceeds_of_proceed (advanced : view.proceed settings request stage = some statement) :
    Proceeds settings view request stage statement := by
  cases stage with
  | updatingContact =>
      cases advanced
      exact .updateContact
  | findingFlowStart =>
      cases advanced
      split
      · exact .findFlowStart
      · split
        · exact .ignoreFlowStarts
        · exact .turnToFlowStarts
  | gettingFlowStartRoom flowStart room =>
      apply Proceeds.of_map _ advanced
      intro row stored
      split
      · next isActive => exact .getOpenRoom stored isActive
      · exact .getClosedRoom
  | deletingFlowStart flowStart room row =>
      cases advanced
      split
      · exact .leaveRoom
      · exact .updateRoom
  | listingFlowStarts =>
      cases advanced
      exact .listFlowStarts
  | closingFlowStarts rest =>
      cases rest with
      | nil =>
          cases advanced
          exact .closedAll
      | cons entry rest =>
          cases advanced
          exact .deleteNext
  | gettingRoomToClose room rest =>
      apply Proceeds.of_map _ advanced
      intro row _
      split
      · exact .closeRoom
      · exact .passRoom
  | saving room save =>
      apply Proceeds.of_map _ advanced
      intro row _
      split
      · exact .guard
      · exact .rollback
  | storing room save =>
      cases advanced
      exact .store
  | checkingActiveRooms =>
      cases advanced
      split
      · next noRoom => exact .findNoRoom noRoom
      · split
        · exact .findActiveRoom
        · exact .rollback
  | takingActiveRoom =>
      cases advanced
      split
      · exact .rollback
      · next room row taken =>
          rcases Option.bind_eq_some_iff.mp taken with ⟨first, isFirst, loaded⟩
          rcases Option.map_eq_some_iff.mp loaded with ⟨_, _, same⟩
          cases same
          exact .takeActiveRoom (List.min?_mem isFirst)
  | findingLastFlowStart =>
      cases advanced
      exact .findLastFlowStart
  | checkingLaterRooms last user =>
      cases advanced
      split
      · exact .checkQueue
      · exact .skipQueue
  | lockingQueue =>
      cases advanced
      split
      · next limited => exact .lockLimited limited
      · next unlimited => exact .lockUnlimited unlimited
  | countingQueuedRooms limit =>
      cases advanced
      split
      · exact .rollback
      · next place => exact .findPlace (Nat.lt_of_not_le place)
  | creatingMetrics room row =>
      cases advanced
      exact .createMetrics
  | finishing room isCreated =>
      cases advanced
      exact .finish
  | _ => cases advanced

theorem Proceeds.continues (proceeds : Proceeds settings view request stage statement) :
    RequestContinues request stage statement := by
  cases proceeds with
  | rollback => exact .rollback
  | finish => exact .commit _ _ rfl
  | _ => exact .proceed _ _ _

/-- What a request can execute next: a statement of its own, or one that depends on
what the run has chosen for it. -/
inductive Advances (settings : ExternalSettings) (view : CreationStore) (request : RoomRequest) :
    CreationStage → CreationChoice → CreationStatement → Prop
  | proceeding {stage : CreationStage} {statement : CreationStatement} :
      view.proceed settings request stage = some statement →
      Advances settings view request stage .done statement
  | raising {stage : CreationStage} :
      Advances settings view request stage .raised rollbackRequest
  | resolving (last : Option FlowStart) (user : Option UserEmail) :
      Advances settings view request (.resolvingRoomUser last) (.resolved user)
        (request.proceed (.checkingLaterRooms last user))
  | conflicting (user : Option UserEmail) (isChecked : Bool) (room : Uuid) :
      Advances settings view request (.creatingRoom user isChecked) (.uuid room)
        rollbackRequest
  | creating (user : Option UserEmail) (isChecked : Bool) (room : Uuid) {row : RoomRecord} :
      row = request.newRow view.now (settings.projectOf request) user →
      Advances settings view request (.creatingRoom user isChecked) (.uuid room)
        (request.write (.storeRoom room row) (.creatingMetrics room row))
  | processing (room : Uuid) (row : RoomRecord) (isCreated isValid : Bool) :
      Advances settings view request (.processingHistory room row isCreated)
        (.is24hValid isValid) (view.processHistory request room row isCreated isValid)

theorem advances_of_advance
    (advanced : view.advance settings request stage choice = some statement) :
    Advances settings view request stage choice statement := by
  cases choice with
  | done => exact .proceeding advanced
  | raised =>
      cases advanced
      exact .raising
  | resolved user =>
      cases stage with
      | resolvingRoomUser last =>
          cases advanced
          exact .resolving last user
      | _ => cases advanced
  | uuid room =>
      cases stage with
      | creatingRoom user isChecked =>
          simp only [CreationStore.advance, CreationStore.createRoom] at advanced
          split at advanced
          · split at advanced
            · cases advanced
              exact .conflicting user isChecked room
            · cases advanced
              exact .creating user isChecked room rfl
          · cases advanced
      | _ => cases advanced
  | is24hValid isValid =>
      cases stage with
      | processingHistory room row isCreated =>
          cases advanced
          exact .processing room row isCreated isValid
      | _ => cases advanced

theorem advance_continues (advanced : view.advance settings request stage choice = some statement) :
    RequestContinues request stage statement := by
  cases advances_of_advance advanced with
  | proceeding proceeded => exact (proceeds_of_proceed proceeded).continues
  | raising => exact .rollback
  | resolving last user => exact .proceed _ _ _
  | conflicting user isChecked room => exact .rollback
  | creating user isChecked room isNew => exact .proceed _ _ _
  | processing room row isCreated isValid => exact .proceed _ _ _

theorem rest_of_rollback (advanced : view.advance settings request stage choice = some statement)
    {rest : Option CreationLocal} (isNext : statement.next = .rollback rest) : rest = none := by
  cases advance_continues advanced with
  | proceed => cases isNext
  | commit => cases isNext
  | rollback =>
      cases isNext
      rfl

end Ends

/-! ## Two requests at the same time -/

inductive Caller
  | first
  | second
deriving DecidableEq, Repr

/-- One project, in which each queue has room for one contact. -/
def singleProject : ExternalSettings where
  queues := fun _ => ⟨0, some 1, true⟩
  ignoreCloseRoomsOnFlowStart := fun _ => false

def CreationStore.initial : CreationStore where
  now := 0
  contacts := []
  flowStarts := []
  rooms := ∅
  answers := []

def plainRequest (contact : Uuid) (flowUuid : Option String) : RoomRequest where
  queue := 5
  contact := contact
  flowUuid := flowUuid
  groups := []
  callbackUrl := none
  ticketUuid := some contact
  isWaiting := false
  urn := none
  customFields := none
  protocol := none
  serviceChat := none
  config := none
  incoming := true

def CreationEvent.proceed (caller : Caller) (statements : Nat) : List (CreationEvent Caller) :=
  List.replicate statements (.advance caller .done)

def requestUpToQueue (caller : Caller) (request : RoomRequest) : List (CreationEvent Caller) :=
  [.start caller request] ++ CreationEvent.proceed caller 6 ++
    [.advance caller (.resolved none)] ++ CreationEvent.proceed caller 1

def createQueuedRoom (caller : Caller) (room : Uuid) : List (CreationEvent Caller) :=
  CreationEvent.proceed caller 2 ++
    [.advance caller (.uuid room), .advance caller .done,
      .advance caller (.is24hValid true), .advance caller .done]

end ChatsEngine.Rooms
